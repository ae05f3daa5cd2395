import ClientModel.Derivation.State

/-!
Rules for telling what the steps of a run do.

A step is told by the states that it starts in, what it ends with when it hands something over, and
what it ends with when it fails. Composite steps are told by the steps that they consist of.
-/

namespace ClientModel.Derivation

variable {α β : Type}

/-- A step that comes after one that ends well starts where that one ended. -/
theorem bind_ok {step : Derive α} {next : α → Derive β} {state between : State} {value : α}
    (run : step state = (.ok value, between)) : (step >>= next) state = next value between := by
  simp only [Bind.bind, ExceptT.bind, ExceptT.mk, StateT.bind, run, ExceptT.bindCont]

/-- A step that comes after one that fails does not happen. -/
theorem bind_error {step : Derive α} {next : α → Derive β} {state between : State}
    {failure : Failure} (run : step state = (.error failure, between)) :
    (step >>= next) state = (.error failure, between) := by
  simp only [Bind.bind, ExceptT.bind, ExceptT.mk, StateT.bind, run, ExceptT.bindCont]
  rfl

/-- An attempt ends well, whatever it is an attempt of. -/
theorem attempt_run {step : Derive α} {state next : State} {outcome : Except Failure α}
    (run : step state = (outcome, next)) : attempt step state = (.ok outcome, next) := by
  simp only [attempt, run]

/-- From every state of one sort, a step ends as told: with a value, or with a failure. -/
def Ensures (before : State → Prop) (step : Derive α) (after : α → State → Prop)
    (failed : Failure → State → Prop) : Prop :=
  ∀ state, before state →
    match (step state : Except Failure α × State) with
    | (.ok value, next) => after value next
    | (.error failure, next) => failed failure next

variable {before : State → Prop} {after : α → State → Prop} {failed : Failure → State → Prop}

namespace Ensures

/-! ## Single steps -/

/-- A value at hand is told by the state as it is. -/
theorem pure {value : α} (ends : ∀ state, before state → after value state) :
    Ensures before (pure value) after failed :=
  ends

/-- A failure is told by the state as it is. -/
theorem throw {failure : Failure} (fails : ∀ state, before state → failed failure state) :
    Ensures before (throw failure : Derive α) after failed :=
  fails

/-- A computation without a state leaves the state as it is. -/
theorem lift {result : Except Failure α}
    (ends : ∀ value state, result = .ok value → before state → after value state)
    (fails : ∀ failure state, result = .error failure → before state → failed failure state) :
    Ensures before (liftM result : Derive α) after failed := by
  -- The result is there before the run, so it is only to be told which one it is.
  intro state start
  cases result with
  | ok value => exact ends value state rfl start
  | error failure => exact fails failure state rfl start

/-- A search that ends is answered, and one that does not fails; neither changes the state. -/
theorem answerOf {endless : TypeId → Violation} {search : Except TypeId α}
    (ends : ∀ found state, search = .ok found → before state → after found state)
    (fails : ∀ type state, search = .error type → before state →
      failed (.violation (endless type)) state) :
    Ensures before (answerOf endless search) after failed := by
  -- The search is there before the run, so it is only to be told how it ended.
  intro state start
  cases search with
  | ok found => exact ends found state rfl start
  | error type => exact fails type state rfl start

/-- What would follow a failure does not happen. -/
theorem throw_bind {failure : Failure} {next : β → Derive α}
    (fails : ∀ state, before state → failed failure state) :
    Ensures before ((MonadExcept.throw failure : Derive β) >>= next) after failed :=
  fails

/-- A change of the state is told by the state that it makes. -/
theorem modify {change : State → State} {after : Unit → State → Prop}
    (ends : ∀ state, before state → after () (change state)) :
    Ensures before (modify change) after failed :=
  ends

/-- Whatever can be said about each possible end can be said in one. -/
theorem intro (ends : ∀ state value next, before state → step state = (.ok value, next) →
      after value next)
    (fails : ∀ state failure next, before state → step state = (.error failure, next) →
      failed failure next) : Ensures before step after failed := by
  -- A run ends in a value or in a failure, and each case is told.
  intro state start
  match run : (step state : Except Failure α × State) with
  | (.ok value, next) => exact ends state value next start run
  | (.error failure, next) => exact fails state failure next start run

/-- What is told of a step holds of a run that ends well. -/
theorem ok {step : Derive α} (holds : Ensures before step after failed) {state next : State}
    {value : α} (start : before state) (run : step state = (.ok value, next)) :
    after value next := by
  have told := holds state start
  rw [run] at told
  exact told

/-- What is told of a step holds of a run that fails. -/
theorem error {step : Derive α} (holds : Ensures before step after failed) {state next : State}
    {failure : Failure} (start : before state) (run : step state = (.error failure, next)) :
    failed failure next := by
  have told := holds state start
  rw [run] at told
  exact told

/-! ## Composition -/

/-- A step may be asked for less, from a stronger start. -/
theorem weaken {before' : State → Prop} {after' : α → State → Prop}
    {failed' : Failure → State → Prop} {step : Derive α} (holds : Ensures before step after failed)
    (start : ∀ state, before' state → before state)
    (ends : ∀ value state, after value state → after' value state)
    (fails : ∀ failure state, failed failure state → failed' failure state) :
    Ensures before' step after' failed' :=
  -- Every run from the stronger start is one from the weaker start.
  intro (fun _ _ _ first run => ends _ _ (holds.ok (start _ first) run))
    (fun _ _ _ first run => fails _ _ (holds.error (start _ first) run))

/-- More may be known at the start of a step. -/
theorem starting {before' : State → Prop} {step : Derive α}
    (holds : Ensures before step after failed) (start : ∀ state, before' state → before state) :
    Ensures before' step after failed :=
  holds.weaken start (fun _ _ ends => ends) fun _ _ fails => fails

/-- Less may be told of the end of a step. -/
theorem ending {after' : α → State → Prop} {step : Derive α}
    (holds : Ensures before step after failed)
    (ends : ∀ value state, after value state → after' value state) :
    Ensures before step after' failed :=
  holds.weaken (fun _ start => start) ends fun _ _ fails => fails

/-- Two things that are told of a step are told together. -/
theorem both {before' : State → Prop} {after' : α → State → Prop}
    {failed' : Failure → State → Prop} {step : Derive α} (left : Ensures before step after failed)
    (right : Ensures before' step after' failed') :
    Ensures (fun state => before state ∧ before' state) step
      (fun value state => after value state ∧ after' value state)
      (fun failure state => failed failure state ∧ failed' failure state) :=
  -- A step has one end, of which both statements tell.
  intro (fun _ _ _ first run => ⟨left.ok first.1 run, right.ok first.2 run⟩)
    (fun _ _ _ first run => ⟨left.error first.1 run, right.error first.2 run⟩)

/-- What does not depend on the state may be used to tell what a step does. -/
theorem given {always : Prop} {step : Derive α}
    (holds : always → Ensures before step after failed) :
    Ensures (fun state => before state ∧ always) step after failed :=
  fun state start => holds start.2 state start.1

/-- One step after another tells what the second does, given what the first has. -/
theorem bind {middle : α → State → Prop} {after : β → State → Prop} {step : Derive α}
    {next : α → Derive β} (first : Ensures before step middle failed)
    (rest : ∀ value, Ensures (middle value) (next value) after failed) :
    Ensures before (step >>= next) after failed := by
  intro state start
  -- The rest is run only after a first step that ends well.
  match run : (step state : Except Failure α × State) with
  | (.ok value, between) =>
    rw [bind_ok run]
    exact rest value between (first.ok start run)
  | (.error failure, between) =>
    rw [bind_error run]
    exact first.error start run

/-- Two steps, told by what holds between them. -/
theorem via (middle : α → State → Prop) {after : β → State → Prop} {step : Derive α}
    {next : α → Derive β} (first : Ensures before step middle failed)
    (rest : ∀ value, Ensures (middle value) (next value) after failed) :
    Ensures before (step >>= next) after failed :=
  first.bind rest

/-- What is told of the image of a value is told of the mapped step. -/
theorem map {after : β → State → Prop} {step : Derive α} {f : α → β}
    (holds : Ensures before step (fun value => after (f value)) failed) :
    Ensures before (f <$> step) after failed := by
  rw [map_eq_pure_bind]
  exact holds.bind fun _ => .pure fun _ => id

/-- The state that a step asks for is the one that it is in. -/
theorem get_bind {next : State → Derive α}
    (rest : ∀ current, before current → Ensures (· = current) (next current) after failed) :
    Ensures before (get >>= next) after failed := by
  intro state start
  exact rest state start state rfl

/-- A look at the state changes nothing. -/
theorem look {next : State → Derive α}
    (rest : ∀ current, Ensures before (next current) after failed) :
    Ensures before (get >>= next) after failed := by
  -- What starts in the state that was read starts in one with what was known before.
  refine get_bind fun current start => (rest current).weaken ?_ (fun _ _ ends => ends) fun _ _ => id
  rintro state rfl
  exact start

/-- An attempt has the failure as its value, and so never fails. -/
theorem attempt {step : Derive α} {after : Except Failure α → State → Prop}
    {failed' : Failure → State → Prop}
    (holds : Ensures before step (fun value => after (.ok value))
      (fun failure => after (.error failure))) :
    Ensures before (attempt step) after failed' := by
  intro state start
  -- By how the step itself goes.
  match run : (step state : Except Failure α × State) with
  | (.ok value, next) =>
    have told := holds.ok start run
    simpa only [Derivation.attempt, run] using told
  | (.error failure, next) =>
    have told := holds.error start run
    simpa only [Derivation.attempt, run] using told

/-! ## Steps of a run -/

/-- A node that is added goes to the end of the catalogue. -/
theorem addNode {node : Node} {after : NodeId → State → Prop}
    (ends : ∀ state, before state → after ⟨state.catalogue.size⟩
      { state with catalogue := state.catalogue.push node }) :
    Ensures before (addNode node) after failed := by
  -- The node gets the first place that is free.
  refine get_bind fun current start => ?_
  refine via (fun _ state => state = { current with catalogue := current.catalogue.push node })
    (modify ?_) fun _ => pure ?_
  · rintro state rfl
    rfl
  · rintro state rfl
    exact ends current start

/-- A node that changes is told by the catalogue that is made. -/
theorem modifyNode {id : NodeId} {change : Node → Node} {after : Unit → State → Prop}
    (ends : ∀ state, before state → after ()
      { state with catalogue := state.catalogue.modify id change }) :
    Ensures before (modifyNode id change) after failed :=
  modify ends

/-- A declaration that is remembered had no other node before. -/
theorem remember {type : TypeId} {node : NodeId} {after : Unit → State → Prop}
    (ends : ∀ state, before state →
      (∀ first, state.declared.get? type = some first → first = node) →
      after () { state with declared := state.declared.insert type node })
    (fails : ∀ state first next, before state → state.declared.get? type = some first →
      first ≠ node → failed (.violation (.projectedTwice type first node)) next) :
    Ensures before (remember type node) after failed := by
  unfold Derivation.remember
  refine get_bind fun current start => ?_
  -- The note is taken before it is compared.
  refine via (fun _ state =>
    state = { current with declared := current.declared.insert type node }) (modify ?_) fun _ => ?_
  · rintro state rfl
    rfl
  · -- It is an error just if the declaration had a node, and this was another one.
    split
    · rename_i first earlier
      split
      · rename_i different
        exact throw fun state _ =>
          fails current first state start earlier (by simpa using different)
      · rename_i same
        refine pure ?_
        rintro state rfl
        refine ends current start fun other found => ?_
        rw [earlier] at found
        cases found
        simpa using same
    · rename_i fresh
      refine pure ?_
      rintro state rfl
      exact ends current start fun first found => absurd found (fresh first)

/-- A primitive kind has one node, which is made when it is first asked for. -/
theorem builtinNode {kind : BuiltinKind} {name : String} {after : NodeId → State → Prop}
    (known : ∀ state node, before state → state.builtins.get? kind = some node → after node state)
    (made : ∀ state, before state → state.builtins.get? kind = none →
      after ⟨state.catalogue.size⟩ { state with
        catalogue := state.catalogue.push
          { kind := .builtin { kind, name, encode := kind.defaultEncode } }
        builtins := state.builtins.insert kind ⟨state.catalogue.size⟩ }) :
    Ensures before (builtinNode kind name) after failed := by
  unfold Derivation.builtinNode
  refine get_bind fun current start => ?_
  -- The node is there, or the catalogue grows by it.
  split
  · rename_i node found
    refine pure ?_
    rintro state rfl
    exact known state node start found
  · rename_i missing
    refine via (fun id state => id = ⟨current.catalogue.size⟩ ∧
      state =
        { current with
          catalogue := current.catalogue.push
            { kind := .builtin { kind, name, encode := kind.defaultEncode } } })
      (addNode ?_) fun id => ?_
    · rintro state rfl
      exact ⟨rfl, rfl⟩
    -- The node is in the catalogue when it is noted for its kind.
    · refine via (fun _ state => id = ⟨current.catalogue.size⟩ ∧ after id state) (modify ?_)
        fun _ => pure fun _ ends => ends.2
      rintro state ⟨rfl, rfl⟩
      exact ⟨rfl, made current start missing⟩

/-! ## Lists -/

/-- What holds of the values so far, and of any state, is extended by each step over a list. -/
theorem mapM {γ : Type} (holds : List γ → State → Prop) {step : β → Derive γ} (list : List β)
    (each : ∀ entry ∈ list, ∀ done, Ensures (holds done) (step entry)
      (fun value => holds (done ++ [value])) failed) :
    ∀ done,
      Ensures (holds done) (list.mapM step) (fun values => holds (done ++ values)) failed := by
  -- By induction on the list, with what the steps before have handed over generalised.
  induction list with
  | nil =>
    intro done
    rw [List.mapM_nil]
    exact .pure fun _ start => by simpa using start
  | cons entry list ih =>
    intro done
    rw [List.mapM_cons]
    refine (each entry List.mem_cons_self done).bind fun value => ?_
    refine (ih (fun other member => each other (List.mem_cons_of_mem _ member))
      (done ++ [value])).bind fun values => ?_
    exact .pure fun _ ends => by simpa using ends

/-- Steps that may leave entries out are told by an invariant over the values so far. -/
theorem filterMapM {γ : Type} (holds : List γ → State → Prop) {step : β → Derive (Option γ)}
    (list : List β)
    (each : ∀ entry ∈ list, ∀ done, Ensures (holds done) (step entry)
      (fun value => holds (done ++ value.toList)) failed) :
    ∀ done, Ensures (holds done) (list.filterMapM step) (fun values => holds (done ++ values))
      failed := by
  -- By induction on the list; what is done grows by what the first entry has given.
  induction list with
  | nil =>
    intro done
    rw [List.filterMapM_nil]
    exact .pure fun _ start => by simpa using start
  | cons entry list ih =>
    intro done
    rw [List.filterMapM_cons]
    refine (each entry List.mem_cons_self done).bind fun value => ?_
    have others := ih (fun other member => each other (List.mem_cons_of_mem _ member))
      (done ++ value.toList)
    cases value with
    | none =>
      exact others.weaken (fun _ => id) (fun _ _ ends => by simpa using ends) (fun _ _ => id)
    | some value =>
      refine others.bind fun values => ?_
      exact .pure fun _ ends => by simpa using ends

/-- A fold is told by an invariant over the value at hand. -/
theorem foldlM {γ : Type} (holds : γ → State → Prop) {step : γ → β → Derive γ} (list : List β)
    (each : ∀ entry ∈ list, ∀ found, Ensures (holds found) (step found entry) holds failed) :
    ∀ start, Ensures (holds start) (list.foldlM step start) holds failed := by
  -- By induction on the list, with any value to start from.
  induction list with
  | nil =>
    intro start
    rw [List.foldlM_nil]
    exact .pure fun _ => id
  | cons entry list ih =>
    intro start
    rw [List.foldlM_cons]
    exact (each entry List.mem_cons_self start).bind
      (ih fun other member => each other (List.mem_cons_of_mem _ member))

/-- A loop that may end early keeps what every round keeps. -/
theorem forIn {holds : State → Prop} {γ : Type} {step : β → γ → Derive (ForInStep γ)}
    (list : List β)
    (each : ∀ entry ∈ list, ∀ found, Ensures holds (step entry found) (fun _ => holds) failed) :
    ∀ start, Ensures holds (ForIn.forIn list start step) (fun _ => holds) failed := by
  -- By induction on the list: a round ends the loop or goes on to the next.
  induction list with
  | nil =>
    intro start
    rw [List.forIn_nil]
    exact .pure fun _ => id
  | cons entry list ih =>
    intro start
    rw [List.forIn_cons]
    refine (each entry List.mem_cons_self start).bind fun result => ?_
    cases result with
    | done value => exact .pure fun _ => id
    | yield value => exact ih (fun other member => each other (List.mem_cons_of_mem _ member)) value

/-- What holds of the entries so far is extended by each turn of a loop that never breaks off. -/
theorem forIn_all (holds : List β → State → Prop) {step : β → PUnit → Derive (ForInStep PUnit)}
    (list : List β)
    (each : ∀ entry ∈ list, ∀ done, Ensures (holds done) (step entry ⟨⟩)
      (fun result state => result = .yield ⟨⟩ ∧ holds (done ++ [entry]) state) failed) :
    ∀ done, Ensures (holds done) (ForIn.forIn list ⟨⟩ step) (fun _ => holds (done ++ list))
      failed := by
  -- By induction on the list, with the entries before it generalised.
  induction list with
  | nil =>
    intro done
    rw [List.forIn_nil]
    exact .pure fun _ start => by simpa using start
  | cons entry list ih =>
    intro done
    rw [List.forIn_cons]
    refine (each entry List.mem_cons_self done).bind fun result => ?_
    rintro state ⟨rfl, start⟩
    have ends := ih (fun other member => each other (List.mem_cons_of_mem _ member))
      (done ++ [entry]) state start
    rwa [List.append_assoc] at ends

end Ensures

end ClientModel.Derivation
