import ClientModel.Proofs.Growth

/-!
Rules for telling two runs side by side.

Two steps meet if they hand over matching values or fail for the same reason, and leave related
states behind. Composite steps meet if the steps that they consist of do, one by one.
-/

namespace ClientModel.Derivation

variable {α β γ δ : Type}

/-- Two steps have come to the same: matching values, or one failure. -/
inductive Meets (related : State → State → Prop) (matched : α → β → Prop) :
    Except Failure α × State → Except Failure β × State → Prop
  | ok {first : α} {second : β} {left right : State} (values : matched first second)
      (states : related left right) : Meets related matched (.ok first, left) (.ok second, right)
  -- Nothing is asked of the states once a failure ends both runs.
  | error {failure : Failure} {left right : State}
      (states : failure.endsRun = false → related left right) :
      Meets related matched (.error failure, left) (.error failure, right)

/-- From related states two steps come to the same. -/
def Pair (related : State → State → Prop) (matched : α → β → Prop) (first : Derive α)
    (second : Derive β) : Prop :=
  ∀ left right, related left right → Meets related matched (first left) (second right)

variable {related : State → State → Prop} {matched : α → β → Prop}

/-- The rest of two steps that have come to the same comes to the same. -/
theorem Meets.bind {first : Derive α} {second : Derive β} {next : α → Derive γ}
    {other : β → Derive δ} {matched' : γ → δ → Prop} {left right : State}
    (meets : Meets related matched (first left) (second right))
    (rest : ∀ one two state state', first left = (.ok one, state) → matched one two →
      related state state' → Meets related matched' (next one state) (other two state')) :
    Meets related matched' ((first >>= next) left) ((second >>= other) right) := by
  rcases here : (first left : Except Failure α × State) with ⟨outcome, state⟩
  rcases there : (second right : Except Failure β × State) with ⟨outcome', state'⟩
  rw [here, there] at meets
  -- The rest is run only if both have ended well, which they do together.
  cases meets with
  | ok values states =>
    rw [bind_ok here, bind_ok there]
    exact rest _ _ _ _ here values states
  | error states =>
    rw [bind_error here, bind_error there]
    exact .error states

/-- Two outcomes that meet do so where less is told of them. -/
theorem Meets.weaken {matched' : α → β → Prop} {related' : State → State → Prop}
    {first : Except Failure α × State} {second : Except Failure β × State}
    (meets : Meets related matched first second)
    (values : ∀ one two, matched one two → matched' one two)
    (states : ∀ left right, related left right → related' left right) :
    Meets related' matched' first second := by
  -- A failure has no values, so for that only the states have to be related.
  cases meets with
  | ok matches' relates => exact .ok (values _ _ matches') (states _ _ relates)
  | error relates => exact .error fun isOwn => states _ _ (relates isOwn)

namespace Pair

/-! ## Single steps -/

/-- Two values that match are a pair. -/
theorem pure {first : α} {second : β} (values : matched first second) :
    Pair related matched (Pure.pure first) (Pure.pure second) :=
  fun _ _ states => .ok values states

/-- One failure is a pair with itself. -/
theorem throw {failure : Failure} :
    Pair related matched (throw failure) (MonadExcept.throw failure) :=
  fun _ _ states => .error fun _ => states

/-- One search is answered alike in both, or fails alike. -/
theorem answerOf {endless : TypeId → Violation} (search : Except TypeId α) :
    Pair related Eq (answerOf endless search) (answerOf endless search) := by
  -- The search is the same in both, so both find the same or fail for the same type.
  cases search with
  | ok found => exact .pure rfl
  | error type => exact .throw

/-- What would follow a failure does not happen. -/
theorem throw_bind {failure : Failure} {next : γ → Derive α} {other : δ → Derive β} :
    Pair related matched ((MonadExcept.throw failure : Derive γ) >>= next)
      ((MonadExcept.throw failure : Derive δ) >>= other) :=
  fun _ _ states => .error fun _ => states

/-- Two changes are a pair if they relate what they lead to. -/
theorem modify {change change' : State → State}
    (states : ∀ left right, related left right → related (change left) (change' right)) :
    Pair related Eq (modify change : Derive Unit) (modify change') :=
  fun _ _ begins => .ok rfl (states _ _ begins)

/-- A computation without a state that comes to the same in both runs. -/
theorem lift (result : Except Failure α) :
    Pair related Eq (liftM result : Derive α) (liftM result) := by
  -- No state is looked at or changed.
  intro left right states
  cases result with
  | ok value => exact .ok rfl states
  | error failure => exact .error fun _ => states

/-! ## Composition -/

/-- A pair of steps is one where less is told of their values. -/
theorem weaken {matched' : α → β → Prop} {first : Derive α} {second : Derive β}
    (pair : Pair related matched first second)
    (values : ∀ one two, matched one two → matched' one two) :
    Pair related matched' first second :=
  fun left right states => (pair left right states).weaken values fun _ _ => id

/-- Two pairs, one after the other, are a pair. -/
theorem bind {first : Derive α} {second : Derive β} {next : α → Derive γ} {other : β → Derive δ}
    {matched' : γ → δ → Prop} (pair : Pair related matched first second)
    (rest : ∀ one two, matched one two → Pair related matched' (next one) (other two)) :
    Pair related matched' (first >>= next) (second >>= other) :=
  -- The second steps start from values that match, whatever states they start in.
  fun left right states => (pair left right states).bind fun one two _ _ _ values between =>
    rest one two values _ _ between

/-- Most steps hand over the same value in both runs. -/
theorem bind_same {first second : Derive α} {next : α → Derive γ} {other : α → Derive δ}
    {matched' : γ → δ → Prop} (pair : Pair related Eq first second)
    (rest : ∀ value, Pair related matched' (next value) (other value)) :
    Pair related matched' (first >>= next) (second >>= other) :=
  pair.bind fun one _ same => same ▸ rest one

/-- The rest may use what is told of the first step in the one run. -/
theorem bind_told {first second : Derive α} {told : α → State → Prop} {next : α → Derive γ}
    {other : α → Derive δ} {matched' : γ → δ → Prop} (pair : Pair related Eq first second)
    (yields : Yields first told)
    (rest : ∀ value left right, related left right → told value left →
      Meets related matched' (next value left) (other value right)) :
    Pair related matched' (first >>= next) (second >>= other) := by
  -- The values are the same, so what is told of the one is told of the other.
  intro left right states
  refine (pair left right states).bind fun value value' between between' run same relates => ?_
  subst same
  exact rest value between between' relates (yields.ok trivial run)

/-- A look at the states changes nothing. -/
theorem look {next : State → Derive γ} {other : State → Derive δ} {matched' : γ → δ → Prop}
    (rest : ∀ left right, related left right →
      Pair related matched' (next left) (other right)) :
    Pair related matched' (get >>= next) (get >>= other) :=
  fun left right states => rest left right states left right states

/-- A pair is one when its values are mapped to others that match. -/
theorem map {first : Derive α} {second : Derive β} {f : α → γ} {g : β → δ}
    {matched' : γ → δ → Prop} (pair : Pair related matched first second)
    (values : ∀ one two, matched one two → matched' (f one) (g two)) :
    Pair related matched' (f <$> first) (g <$> second) := by
  -- To map is to go on with a step that returns the image.
  rw [map_eq_pure_bind, map_eq_pure_bind]
  exact pair.bind fun one two isMatch => pure (values one two isMatch)

/-- Both runs go the same way. -/
theorem ite {wanted : Prop} [Decidable wanted] {first first' : Derive α} {second second' : Derive β}
    (yes : wanted → Pair related matched first second)
    (no : ¬ wanted → Pair related matched first' second') :
    Pair related matched (if wanted then first else first')
      (if wanted then second else second') := by
  -- The condition is the same in both, so the branches meet in pairs.
  split
  · exact yes ‹_›
  · exact no ‹_›

/-- An attempt ends well in both runs, or in none. -/
theorem attempt {first : Derive α} {second : Derive β} (pair : Pair related matched first second)
    {next : Except Failure α → Derive γ} {other : Except Failure β → Derive δ}
    {matched' : γ → δ → Prop}
    (ok : ∀ one two, matched one two → Pair related matched' (next (.ok one)) (other (.ok two)))
    (error : ∀ failure left right, (failure.endsRun = false → related left right) →
      Meets related matched' (next (.error failure) left) (other (.error failure) right)) :
    Pair related matched' (attempt first >>= next) (attempt second >>= other) := by
  intro left right states
  -- Both outcomes are known before the attempts go on, so they are read off first.
  have meets := pair left right states
  rcases here : (first left : Except Failure α × State) with ⟨outcome, state⟩
  rcases there : (second right : Except Failure β × State) with ⟨outcome', state'⟩
  rw [here, there] at meets
  rw [bind_ok (attempt_run here), bind_ok (attempt_run there)]
  cases meets with
  | ok values relates => exact ok _ _ values _ _ relates
  | error relates => exact error _ _ _ relates

/-! ## Lists -/

/-- Steps for all entries of a list are a pair if those of each entry are. -/
theorem mapM {step : γ → Derive α} {step' : γ → Derive β} (list : List γ)
    (each : ∀ entry ∈ list, Pair related matched (step entry) (step' entry)) :
    Pair related (List.Forall₂ matched) (list.mapM step) (list.mapM step') := by
  -- Along the list, entry by entry in both runs.
  induction list with
  | nil =>
    rw [List.mapM_nil, List.mapM_nil]
    exact pure .nil
  | cons entry list ih =>
    rw [List.mapM_cons, List.mapM_cons]
    refine (each entry List.mem_cons_self).bind fun one two first => ?_
    have others := ih fun other member => each other (List.mem_cons_of_mem _ member)
    exact others.bind fun _ _ rest => pure (.cons first rest)

/-- Steps that hand over the same, one by one. -/
theorem mapM_same {step step' : γ → Derive α} (list : List γ)
    (each : ∀ entry ∈ list, Pair related Eq (step entry) (step' entry)) :
    Pair related Eq (list.mapM step) (list.mapM step') :=
  (mapM list each).weaken fun _ _ same => by rwa [List.forall₂_eq_eq_eq] at same

/-- Steps that may hand over nothing; the second run makes of a value what a function does. -/
theorem filterMapM {step : γ → Derive (Option α)} {step' : γ → Derive (Option β)} {f : α → β}
    (list : List γ) (each : ∀ entry ∈ list,
      Pair related (fun one two => two = one.map f) (step entry) (step' entry)) :
    Pair related (fun one two => two = one.map f) (list.filterMapM step)
      (list.filterMapM step') := by
  -- Along the list; an entry has a value in both runs or in none.
  induction list with
  | nil =>
    rw [List.filterMapM_nil, List.filterMapM_nil]
    exact pure rfl
  | cons entry list ih =>
    rw [List.filterMapM_cons, List.filterMapM_cons]
    have others := ih fun other member => each other (List.mem_cons_of_mem _ member)
    refine (each entry List.mem_cons_self).bind fun one two same => ?_
    subst same
    cases one with
    | none => exact others
    | some value => exact others.bind fun _ _ rest => pure (by rw [rest]; rfl)

/-- So it is where the values are the same. -/
theorem filterMapM_same {step step' : γ → Derive (Option α)} (list : List γ)
    (each : ∀ entry ∈ list, Pair related Eq (step entry) (step' entry)) :
    Pair related Eq (list.filterMapM step) (list.filterMapM step') := by
  -- That is to map them by a function that does nothing.
  have mapped : Pair related (fun one two => two = one.map id) (list.filterMapM step)
      (list.filterMapM step') :=
    filterMapM list fun entry member => (each entry member).weaken fun _ _ same => by
      rw [Option.map_id, id, same]
  exact mapped.weaken fun _ _ same => by rw [same, List.map_id]

/-- Two folds are a pair if their steps are. -/
theorem foldlM {step step' : α → γ → Derive α} (list : List γ)
    (each : ∀ found, ∀ entry ∈ list, Pair related Eq (step found entry) (step' found entry)) :
    ∀ start, Pair related Eq (list.foldlM step start) (list.foldlM step' start) := by
  -- Along the list, from whatever both have come to.
  induction list with
  | nil =>
    intro start
    rw [List.foldlM_nil, List.foldlM_nil]
    exact pure rfl
  | cons entry list ih =>
    intro start
    rw [List.foldlM_cons, List.foldlM_cons]
    exact (each start entry List.mem_cons_self).bind_same
      (ih fun found other member => each found other (List.mem_cons_of_mem _ member))

/-- Two loops are a pair if their steps are. -/
theorem forIn {step step' : γ → α → Derive (ForInStep α)} (list : List γ)
    (each : ∀ entry ∈ list, ∀ found, Pair related Eq (step entry found) (step' entry found)) :
    ∀ start, Pair related Eq (ForIn.forIn list start step) (ForIn.forIn list start step') := by
  -- Along the list; either both loops end with an entry, or both go on.
  induction list with
  | nil =>
    intro start
    rw [List.forIn_nil, List.forIn_nil]
    exact pure rfl
  | cons entry list ih =>
    intro start
    rw [List.forIn_cons, List.forIn_cons]
    refine (each entry List.mem_cons_self start).bind_same fun result => ?_
    cases result with
    | done value => exact pure rfl
    | yield value => exact ih (fun other member => each other (List.mem_cons_of_mem _ member)) value

/-- Steps for an option are a pair if those for its value are. -/
theorem optionMapM {step step' : γ → Derive α} (value : Option γ)
    (each : ∀ entry, Pair related Eq (step entry) (step' entry)) :
    Pair related Eq (value.mapM step) (value.mapM step') := by
  cases value with
  | none => exact pure rfl
  | some entry => exact (each entry).map fun _ _ same => same ▸ rfl

end Pair

end ClientModel.Derivation
