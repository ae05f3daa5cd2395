import ClientModel.Proofs.Growth

/-!
Rules for telling where the steps of a run lead.

A step is told by the states that it comes to from a sound one, and by what holds there of the value
that it hands over. What is needed at its start is told apart, so that whatever lasts along the way
can be carried past it.
-/

namespace ClientModel.Derivation

variable {α β : Type}

/-- A way from states to states that stays among the sound ones. -/
class Leading (sound : outParam (State → Prop)) (leads : State → State → Prop) : Prop where
  refl : ∀ state, leads state state
  trans : ∀ {first second third}, sound first → leads first second → leads second third →
    leads first third
  sound : ∀ {before after}, sound before → leads before after → sound after

/-- A way along which nothing that is known is lost. -/
class Growing (leads : State → State → Prop) : Prop where
  grown : ∀ {before after}, leads before after → Grown before after

/-- Once it is known, it stays known along the way. -/
class Lasts (leads : State → State → Prop) (held : State → Prop) : Prop where
  lasts : LastsAlong leads held

namespace Lasts

variable {leads : State → State → Prop}

/-- What lasts as the catalogue grows lasts along a way that makes it grow. -/
theorem of_lasting [Growing leads] {held : State → Prop} (lasting : Lasting held) :
    Lasts leads held :=
  -- No step of the way loses anything, which is all that the fact relies on.
  ⟨fun before after known led => lasting before after known (Growing.grown led)⟩

instance const (always : Prop) : Lasts leads fun _ => always :=
  ⟨fun _ _ known _ => known⟩

instance and {left right : State → Prop} [Lasts leads left] [Lasts leads right] :
    Lasts leads fun state => left state ∧ right state :=
  ⟨fun before after known led =>
    ⟨Lasts.lasts before after known.1 led, Lasts.lasts before after known.2 led⟩⟩

instance all {ι : Sort*} {each : ι → State → Prop} [∀ index, Lasts leads (each index)] :
    Lasts leads fun state => ∀ index, each index state :=
  ⟨fun before after known led index => Lasts.lasts before after (known index) led⟩

instance any {ι : Sort*} {each : ι → State → Prop} [∀ index, Lasts leads (each index)] :
    Lasts leads fun state => ∃ index, each index state :=
  ⟨fun before after known led => known.imp fun _ holds => Lasts.lasts before after holds led⟩

instance forall₂ {told : β → α → State → Prop} [∀ entry value, Lasts leads (told entry value)]
    (list : List β) (values : List α) :
    Lasts leads fun state => List.Forall₂ (fun entry value => told entry value state) list values :=
  ⟨.forall₂ (fun _ _ => Lasts.lasts) list values⟩

end Lasts

/-- From a sound state in which it has what it needs, a step leads on, and ends as told. -/
def Conveys {sound : State → Prop} (leads : State → State → Prop) [Leading sound leads]
    (needed : State → Prop) (step : Derive α) (told : α → State → Prop) : Prop :=
  ∀ start, sound start →
    Ensures (fun state => state = start ∧ needed state) step
      (fun value state => leads start state ∧ told value state)
      fun failure state => failure.endsRun = false → leads start state

namespace Conveys

variable {sound : State → Prop} {leads : State → State → Prop} [Leading sound leads]
  {needed held : State → Prop} {told : α → State → Prop} {step : Derive α}

/-- To return a value conveys what is told of it where it is returned. -/
theorem pure {value : α} (ends : ∀ state, sound state → needed state → told value state) :
    Conveys leads needed (pure value) told := by
  -- The state stays, and no state needs steps to lead to itself.
  intro start isSound
  refine Ensures.pure ?_
  rintro state ⟨rfl, has⟩
  exact ⟨Leading.refl _, ends _ isSound has⟩

/-- A step that hands nothing over may be told to hand over anything. -/
theorem pure_none :
    Conveys leads needed (Pure.pure none) fun found state => ∀ value ∈ found, told value state :=
  pure fun _ _ _ _ none => by cases none

/-- To return something conveys what is told of that. -/
theorem pure_some {value : α} (ends : ∀ state, sound state → needed state → told value state) :
    Conveys leads needed (Pure.pure (some value)) fun found state =>
      ∀ value ∈ found, told value state :=
  pure fun state isSound has _ isValue => Option.some.inj isValue ▸ ends state isSound has

/-- A failure conveys whatever one likes. -/
theorem throw {failure : Failure} : Conveys leads needed (throw failure : Derive α) told := by
  intro start _
  -- A failure leaves the state as it is.
  refine Ensures.throw ?_
  rintro state ⟨rfl, _⟩ _
  exact Leading.refl _

/-- A search changes nothing, whether it ends or not. -/
theorem answerOf {endless : TypeId → Violation} {search : Except TypeId α} :
    Conveys leads needed (answerOf endless search) fun _ => needed := by
  intro start _
  -- An answer leaves the state as it is, and a search without end fails the run.
  refine Ensures.answerOf ?_ ?_
  · rintro found state _ ⟨rfl, has⟩
    exact ⟨Leading.refl _, has⟩
  · rintro type state _ ⟨rfl, _⟩ _
    exact Leading.refl _

/-- What would follow a failure does not happen. -/
theorem throw_bind {failure : Failure} {next : β → Derive α} :
    Conveys leads needed ((MonadExcept.throw failure : Derive β) >>= next) told := by
  -- The run stops at the failure, in the state that it started from.
  intro start _
  refine Ensures.throw_bind ?_
  rintro state ⟨rfl, _⟩ _
  exact Leading.refl _

/-- A change of the state conveys what it leads to. -/
theorem modify {change : State → State} {told : Unit → State → Prop}
    (ends : ∀ state, sound state → needed state →
      leads state (change state) ∧ told () (change state)) :
    Conveys leads needed (modify change) told := by
  intro start isSound
  refine Ensures.modify ?_
  rintro state ⟨rfl, has⟩
  exact ends _ isSound has

/-- What is needed and what is told may be put otherwise. -/
theorem weaken {needed' : State → Prop} {told' : α → State → Prop}
    (conveys : Conveys leads needed step told)
    (start : ∀ state, sound state → needed' state → needed state)
    (ends : ∀ value state, sound state → told value state → told' value state) :
    Conveys leads needed' step told' := fun first isSound =>
  -- A step ends in a sound state, so that soundness may be used on either side.
  (conveys first isSound).weaken
    (fun _ has => ⟨has.1, start _ (has.1 ▸ isSound) has.2⟩)
    (fun value state has => ⟨has.1, ends value state (Leading.sound isSound has.1) has.2⟩)
    fun _ _ fails => fails

/-- A step that needs less may start where more is known. -/
theorem starting {needed' : State → Prop} (conveys : Conveys leads needed step told)
    (start : ∀ state, sound state → needed' state → needed state) :
    Conveys leads needed' step told :=
  conveys.weaken start fun _ _ _ ends => ends

/-- A step that tells more tells less as well. -/
theorem ending {told' : α → State → Prop} (conveys : Conveys leads needed step told)
    (ends : ∀ value state, sound state → told value state → told' value state) :
    Conveys leads needed step told' :=
  conveys.weaken (fun _ _ start => start) ends

/-- Two things that a step conveys are conveyed together. -/
theorem both {told' : α → State → Prop} (first : Conveys leads needed step told)
    (second : Conveys leads needed step told') :
    Conveys leads needed step fun value state => told value state ∧ told' value state :=
  -- A step has one outcome, so what two statements tell of it is told of the same value.
  fun start isSound => ((first start isSound).both (second start isSound)).weaken
    (fun _ begins => ⟨begins, begins⟩) (fun _ _ ends => ⟨ends.1.1, ends.1.2, ends.2.2⟩)
    fun _ _ fails => fails.1

/-- What is told of a step wherever it starts may be told as well. -/
theorem also {told' : α → State → Prop} (conveys : Conveys leads needed step told)
    (yields : Yields step told') :
    Conveys leads needed step fun value state => told value state ∧ told' value state :=
  fun start isSound => ((conveys start isSound).both yields).weaken
    (fun _ begins => ⟨begins, trivial⟩) (fun _ _ ends => ⟨ends.1.1, ends.1.2, ends.2⟩)
    fun _ _ fails => fails.1

/-- What is told of each run from a sound state is conveyed. -/
theorem of_runs {told' : α → State → Prop} (conveys : Conveys leads needed step told)
    (runs : ∀ state value last, sound state → needed state → step state = (.ok value, last) →
      told' value last) : Conveys leads needed step told' := by
  intro start isSound
  -- What is kept comes from the step itself, and what is told from its runs.
  refine Ensures.intro ?_ ?_
  · rintro state value last ⟨rfl, has⟩ run
    exact ⟨((conveys _ isSound).ok ⟨rfl, has⟩ run).1, runs _ value last isSound has run⟩
  · intro state failure last has run
    exact (conveys start isSound).error has run

/-- Two steps convey what the second one does, if it needs what the first one tells. -/
theorem bind {next : α → Derive β} {told' : β → State → Prop}
    (first : Conveys leads needed step told)
    (rest : ∀ value, Conveys leads (told value) (next value) told') :
    Conveys leads needed (step >>= next) told' := by
  intro start isSound
  -- The first step ends in a sound state, from which the second one leads on.
  refine Ensures.bind (first start isSound) fun value => Ensures.intro ?_ ?_
  · rintro state result last ⟨led, has⟩ run
    have ends := (rest value state (Leading.sound isSound led)).ok ⟨rfl, has⟩ run
    exact ⟨Leading.trans isSound led ends.1, ends.2⟩
  -- A failure of the second step still comes after the first one.
  · rintro state failure last ⟨led, has⟩ run isOwn
    have fails := (rest value state (Leading.sound isSound led)).error ⟨rfl, has⟩ run isOwn
    exact Leading.trans isSound led fails

/-- The state that a step asks for is the one that it is in. -/
theorem get_bind {next : State → Derive α}
    (rest : ∀ current, sound current → needed current →
      Conveys leads (fun state => state = current ∧ needed state) (next current) told) :
    Conveys leads needed (get >>= next) told := by
  intro start isSound
  refine Ensures.get_bind fun current has => ?_
  -- The state at hand is the one from which all is told.
  obtain ⟨rfl, has⟩ := has
  exact (rest _ isSound has _ isSound).starting fun state same => ⟨same, same, same ▸ has⟩

/-- A look at the state changes nothing. -/
theorem look {next : State → Derive α}
    (rest : ∀ current, sound current → needed current → Conveys leads needed (next current) told) :
    Conveys leads needed (get >>= next) told :=
  get_bind fun current isSound has => (rest current isSound has).starting fun _ _ start => start.2

/-- To map the result conveys what is told of the mapped one. -/
theorem map {f : α → β} {told : β → State → Prop}
    (conveys : Conveys leads needed step fun value => told (f value)) :
    Conveys leads needed (f <$> step) told := by
  -- A map is a step after which nothing happens but a return.
  rw [map_eq_pure_bind]
  exact conveys.bind fun _ => pure fun _ _ ends => ends

/-- To lift a result that was computed elsewhere conveys what is told of it. -/
theorem lift {result : Except Failure α}
    (ends : ∀ value state, sound state → result = .ok value → needed state → told value state) :
    Conveys leads needed (liftM result : Derive α) told := by
  intro start isSound
  -- Nothing happens to the state, with either outcome.
  refine Ensures.lift ?_ ?_
  · rintro value state isOk ⟨rfl, has⟩
    exact ⟨Leading.refl _, ends value _ isSound isOk has⟩
  · rintro failure state _ ⟨rfl, _⟩ _
    exact Leading.refl _

/-- An attempt leads on even if what is attempted fails, unless that ends the run. -/
theorem attempt (conveys : Conveys leads needed step told) :
    ∀ start, sound start → Ensures (fun state => state = start ∧ needed state) (attempt step)
      (fun outcome state => match outcome with
        | .ok value => leads start state ∧ told value state
        | .error failure => failure.endsRun = false → leads start state)
      fun _ _ => False := fun start isSound =>
  Ensures.attempt (conveys start isSound)

/-- Whatever it is that a step needs, it may be told apart first. -/
theorem any {ι : Sort*} {needed : ι → State → Prop}
    (each : ∀ index, Conveys leads (needed index) step told) :
    Conveys leads (fun state => ∃ index, needed index state) step told :=
  -- What is needed holds at the start, so the case can be told before the step is run.
  fun start isSound state has =>
    has.2.elim fun index holds => each index start isSound state ⟨has.1, holds⟩

/-- What does not depend on the state may be used to tell where a step leads. -/
theorem given {always : Prop} (conveys : always → Conveys leads needed step told) :
    Conveys leads (fun state => needed state ∧ always) step told :=
  fun start isSound state has => conveys has.2.2 start isSound state ⟨has.1, has.2.1⟩

/-! ## What lasts -/

/-- What lasts is carried past a step. -/
theorem beside [Lasts leads held] (conveys : Conveys leads needed step told) :
    Conveys leads (fun state => held state ∧ needed state) step
      (fun value state => held state ∧ told value state) := by
  intro start isSound
  -- What lasts is looked at where the step starts, and again where it ends.
  refine Ensures.intro ?_ ?_
  · rintro state value last ⟨rfl, holds, has⟩ run
    obtain ⟨led, ends⟩ := (conveys _ isSound).ok ⟨rfl, has⟩ run
    exact ⟨led, Lasts.lasts _ _ holds led, ends⟩
  · rintro state failure last ⟨rfl, _, has⟩ run
    exact (conveys _ isSound).error ⟨rfl, has⟩ run

/-- What is known is carried past a step, along with what is told of its result. -/
theorem onward [Lasts leads held] {next : α → Derive β} {told' : β → State → Prop}
    (first : Conveys leads needed step told) (has : ∀ state, held state → needed state)
    (rest : ∀ value, Conveys leads (fun state => held state ∧ told value state) (next value)
      told') : Conveys leads held (step >>= next) told' :=
  (first.beside.starting fun state _ holds => ⟨holds, has state holds⟩).bind rest

/-- What is known is carried past a step whose result does not matter. -/
theorem past [Lasts leads held] {next : α → Derive β} {told' : β → State → Prop}
    (first : Conveys leads needed step told) (has : ∀ state, held state → needed state)
    (rest : ∀ value, Conveys leads held (next value) told') :
    Conveys leads held (step >>= next) told' :=
  first.onward has fun value => (rest value).starting fun _ _ start => start.1

/-! ## Lists -/

/-- To make a step for each entry of a list conveys something of every value. -/
theorem mapM [Lasts leads needed] {step : β → Derive α} {told : β → α → State → Prop}
    [∀ entry value, Lasts leads (told entry value)] (list : List β)
    (each : ∀ entry ∈ list, Conveys leads needed (step entry) (told entry)) :
    Conveys leads needed (list.mapM step) fun values state =>
      List.Forall₂ (fun entry value => told entry value state) list values := by
  -- By induction on the list; what is needed lasts from one entry to the next.
  induction list with
  | nil =>
    rw [List.mapM_nil]
    exact pure fun _ _ _ => .nil
  | cons entry rest ih =>
    rw [List.mapM_cons]
    refine (each entry List.mem_cons_self).onward (fun _ has => has) fun value => ?_
    -- What was told of the first entry is carried past the others.
    refine (ih fun other member => each other (List.mem_cons_of_mem _ member)).onward
      (fun _ start => start.1) fun values => pure ?_
    exact fun _ _ ends => .cons ends.1.2 ends.2

/-- So it does where an entry may come to nothing. -/
theorem filterMapM [Lasts leads needed] {step : β → Derive (Option α)}
    [∀ value, Lasts leads (told value)] (list : List β)
    (each : ∀ entry ∈ list, Conveys leads needed (step entry) fun found state =>
      ∀ value ∈ found, told value state) :
    Conveys leads needed (list.filterMapM step) fun values state =>
      ∀ value ∈ values, told value state := by
  -- By induction on the list, as for a list without gaps.
  induction list with
  | nil =>
    rw [List.filterMapM_nil]
    exact pure fun _ _ _ _ none => by cases none
  | cons entry rest ih =>
    rw [List.filterMapM_cons]
    refine (each entry List.mem_cons_self).onward (fun _ has => has) fun found => ?_
    have others := ih fun other member => each other (List.mem_cons_of_mem _ member)
    -- An entry that hands nothing over adds nothing to what is told.
    cases found with
    | none => exact others.starting fun _ _ start => start.1
    | some value =>
      refine others.onward (fun _ start => start.1) fun values => pure ?_
      rintro state _ ⟨⟨_, first⟩, later⟩ other member
      rcases List.mem_cons.mp member with rfl | old
      · exact first _ rfl
      · exact later other old

/-- A fold conveys what each step does, if that is told of the first value. -/
theorem foldlM [Lasts leads needed] {step : α → β → Derive α} (list : List β)
    (each : ∀ entry ∈ list, ∀ found, Conveys leads (fun state => needed state ∧ told found state)
      (step found entry) told) :
    ∀ first, Conveys leads (fun state => needed state ∧ told first state) (list.foldlM step first)
      told := by
  -- By induction on the list; what is told of the result so far is all that changes.
  induction list with
  | nil =>
    intro first
    rw [List.foldlM_nil]
    exact pure fun _ _ start => start.2
  | cons entry rest ih =>
    intro first
    rw [List.foldlM_cons]
    -- What is needed is there again for the entries that follow.
    have next : Conveys leads (fun state => needed state ∧ needed state ∧ told first state)
        (step first entry) fun found state => needed state ∧ told found state :=
      (each entry List.mem_cons_self first).beside
    refine (next.starting fun _ _ start => ⟨start.1, start⟩).bind fun found => ?_
    exact ih (fun other member => each other (List.mem_cons_of_mem _ member)) found

/-- A loop conveys nothing of its own, but keeps what its steps keep. -/
theorem forIn [Lasts leads needed] {step : β → α → Derive (ForInStep α)} (list : List β)
    (each : ∀ entry ∈ list, ∀ found, Conveys leads needed (step entry found) fun _ _ => True) :
    ∀ first, Conveys leads needed (ForIn.forIn list first step) fun _ _ => True := by
  -- By induction on the list; the loop may end early, and nothing is told of its result.
  induction list with
  | nil =>
    intro first
    rw [List.forIn_nil]
    exact pure fun _ _ _ => trivial
  | cons entry rest ih =>
    intro first
    rw [List.forIn_cons]
    refine (each entry List.mem_cons_self first).past (fun _ has => has) fun result => ?_
    cases result with
    | done value => exact pure fun _ _ _ => trivial
    | yield value =>
      exact ih (fun other member => each other (List.mem_cons_of_mem _ member)) value

/-- A step that is made for an option conveys something of the value, if there is one. -/
theorem optionMapM {step : β → Derive α} {told : β → α → State → Prop} (option : Option β)
    (each : ∀ entry ∈ option, Conveys leads needed (step entry) (told entry)) :
    Conveys leads needed (option.mapM step) fun found state =>
      ∀ value ∈ found, ∃ entry ∈ option, told entry value state := by
  cases option with
  | none => exact pure fun _ _ _ _ none => by cases none
  | some entry =>
    refine map ((each entry rfl).ending fun value state _ ends other isOther => ?_)
    -- What is there comes from the one entry that there is.
    cases isOther
    exact ⟨entry, rfl, ends⟩

/-! ## Methods -/

section

variable {context : Context} {operation : OperationId} {client : ContainerId}
  {told : Method → State → Prop}

/-- What a method is built with is there whether its notes on usage are kept or taken back. -/
theorem method [∀ value, Lasts leads (told value)]
    (build : Conveys leads needed (context.buildMethod operation client) told)
    (notes : ∀ state seeds bodyFormats, leads state { state with seeds, bodyFormats })
    (plain : ∀ state (value : Method) isConvenient isProtocol, told value state →
      told { value with isConvenient, isProtocol } state) :
    Conveys leads needed (context.method operation client) told := by
  intro start isSound state begins
  obtain ⟨rfl, has⟩ := begins
  have ends := build state isSound state ⟨rfl, has⟩
  rw [Context.method_run]
  have noted (built : State) (seeds : List Seed) (bodyFormats : List (NodeId × Bool)) : leads built
      (if context.isConvenient operation then built else { built with seeds, bodyFormats }) := by
    split
    · exact Leading.refl built
    · exact notes built seeds bodyFormats
  -- The run of a method is that of its building, after which notes may be taken back.
  cases run : context.buildMethod operation client state with
  | mk outcome built =>
    rw [run] at ends
    -- A failure that leaves the run going leads on all the same.
    cases outcome with
    | error failure => exact fun isOwn => Leading.trans isSound (ends isOwn) (noted built _ _)
    | ok value =>
      exact ⟨Leading.trans isSound ends.1 (noted built _ _),
        Lasts.lasts built _ (plain built value _ _ ends.2) (noted built _ _)⟩

/-- A method that fails for a reason of its own is reported and left out. -/
theorem methodOrReport
    (method : Conveys leads needed (context.method operation client) told)
    (reports : ∀ (state : State) (failure : Failure),
      leads state { state with diagnostics := state.diagnostics.add failure.diagnostic }) :
    Conveys leads needed (context.methodOrReport client operation) fun found state =>
      ∀ value ∈ found, told value state := by
  intro start isSound
  unfold Context.methodOrReport
  -- The method is attempted, so that a failure is looked at before it is passed on.
  refine Ensures.bind ((method.attempt start isSound).weaken (fun _ begins => begins)
    (fun _ _ ends => ends) fun _ _ => False.elim) fun outcome => ?_
  cases outcome with
  | ok value =>
    refine Ensures.pure fun state ends => ⟨ends.1, fun found isFound => ?_⟩
    exact Option.some.inj isFound ▸ ends.2
  | error failure =>
    dsimp only
    -- A failure that ends the run does so here.
    split
    · rename_i endsRun
      exact Ensures.throw fun _ _ isOwn => by rw [endsRun] at isOwn; cases isOwn
    · rename_i isOwn
      refine Ensures.via (fun _ state => leads start state) (Ensures.modify fun state ends => ?_)
        fun _ => Ensures.pure fun _ ends => ⟨ends, fun _ none => by cases none⟩
      exact Leading.trans isSound (ends (by simpa using isOwn)) (reports state failure)

end

end Conveys

end ClientModel.Derivation
