import ClientModel.Proofs.Accounts
import ClientModel.Proofs.PollingLink
import ClientModel.Proofs.Termination

/-!
How a long-running operation is followed, and what is left where it cannot be.

A method polls if every parameter of the polling operation gets a value and some response of that
operation has a status that tells success from failure. Where one of these is missing there is a
warning, and the method does what it would do without polling. Only the search for the status may
have no end, which it has unless it comes back to a union that it is looking into.
-/

namespace ClientModel

/-! ## States -/

/-- Every state that the lists of final states tell. -/
def States.final (states : States) : List String :=
  states.succeeded ++ states.failed ++ states.canceled

/-- Every final state is among all states, and no state is listed twice there. -/
structure States.AreListed (states : States) : Prop where
  final : ∀ value ∈ states.final, value ∈ states.all
  once : states.all.Nodup

/-- The states tell when an operation has come to an end, and whether it succeeded. -/
structure States.TellEnd (states : States) : Prop extends states.AreListed where
  succeeded : states.succeeded ≠ []
  failed : states.failed ≠ []

namespace Derivation

open Service (Definition Draft FinalState PollingDecl)

section

variable {definition : Definition} {states : States}

/-- A value is added to all states unless it is among them already. -/
theorem all_addState (value : String) (marker : Option FinalState) :
    (addState states value marker).all =
      if states.all.contains value then states.all else states.all ++ [value] := by
  unfold addState
  -- Whatever final state the value stands for, the list of all states is the same.
  cases marker.or (FinalState.ofName? value) with
  | none => dsimp only; split <;> rfl
  | some final => cases final <;> (dsimp only; split <;> rfl)

/-- A value that is added is the only one that may become a final state. -/
theorem mem_final_addState {value other : String} {marker : Option FinalState}
    (member : other ∈ (addState states value marker).final) :
    other ∈ states.final ∨ other = value := by
  unfold addState at member
  -- One of the lists of final states grows by the value, or none does.
  generalize marker.or (FinalState.ofName? value) = final at member
  cases final with
  | none =>
    dsimp only at member
    split at member <;> exact Or.inl member
  | some final =>
    cases final <;> dsimp only at member <;> split at member <;> grind [States.final]

/-- A state that is added goes to the list of all states, whatever final state it stands for. -/
theorem areListed_addState (listed : states.AreListed) (value : String)
    (marker : Option FinalState) : (addState states value marker).AreListed where
  final other member := by
    rw [all_addState]
    -- A final state is one of those before, or the one that is added now.
    have among : other ∈ states.all ∨ other = value :=
      (mem_final_addState member).imp_left (listed.final other)
    split <;> grind
  once := by
    rw [all_addState]
    split
    · exact listed.once
    · rename_i fresh
      exact List.nodup_append'.mpr ⟨listed.once, List.nodup_singleton _, by simpa using fresh⟩

/-- A member of an enum whose states are listed leaves them listed. -/
theorem areListed_addMemberState (listed : states.AreListed) (member : TypeId) :
    (addMemberState definition states member).AreListed := by
  -- A state is added unless it is listed already, and what is no member adds none.
  unfold addMemberState
  split
  · exact areListed_addState listed _ _
  · exact listed

/-- By induction on the depth: each member or variant keeps what those before it have left. -/
theorem areListed_addStates (depth : Nat) :
    ∀ {states : States}, states.AreListed → ∀ id : TypeId,
      (addStates definition depth states id).AreListed := by
  induction depth with
  | zero => exact fun listed _ => listed
  | succ depth ih =>
    intro states listed id
    unfold addStates
    split
    · -- An enum adds its members, a union its variants, and a literal is a state by itself.
      exact List.foldlRecOn _ _ listed fun _ before member _ =>
        areListed_addMemberState before member
    · refine List.foldlRecOn _ _ listed fun _ before variant _ => ?_
      split
      · exact areListed_addState before _ _
      · exact ih before _
      · exact ih before _
      · exact before
    · exact areListed_addState listed _ _
    · exact listed

/-- The states that are told of a type are listed. -/
theorem areListed_statesOf (id : TypeId) : (statesOf definition id).AreListed :=
  areListed_addStates _ ⟨fun _ none => none, List.nodup_nil⟩ id

end

/-! ## Rules -/

/-- If the rest only ever ends the run, a failure of one method comes from the first part. -/
theorem bind_error_iff {α β : Type} {step : Derive α} {next : α → Derive β}
    (ending : ∀ value, Keeps (fun _ => True) (fun failure => failure.endsRun = true) (next value))
    {failure : Failure} (structural : failure.endsRun = false) (state : State) :
    ((step >>= next) state).1 = .error failure ↔ (step state).1 = .error failure := by
  -- After a step that succeeds only the end of the run can fail.
  match run : (step state : Except Failure α × State) with
  | (.ok value, between) =>
    rw [bind_ok run]
    refine ⟨fun fails => ?_, nofun⟩
    have ends : failure.endsRun = true :=
      ((ending value).error trivial (Prod.ext fails rfl : next value between = (_, _))).1
    rw [structural] at ends
    cases ends
  | (.error other, between) =>
    rw [bind_error run]
    simp only [Except.error.injEq]

namespace Context

variable (context : Context)

/-! ## Links and monitors -/

/--
Some response of the polling operation, but not that to any status, comes to a model with a status
that tells success from failure.
-/
def HasMonitor (polling : OperationId) : Prop :=
  ∃ response ∈ (context.definition.operationAt polling).responses,
    response.status ≠ .wildcard ∧ ∃ body, response.body = some body ∧
      ∃ model status, monitor? context.definition body.type = .ok (some (model, status)) ∧
        (statesOf context.definition (context.definition.propertyAt status).type).succeeded ≠ [] ∧
        (statesOf context.definition (context.definition.propertyAt status).type).failed ≠ []

/-- Among some reports there is a warning of a code on an operation. -/
def Warns (reports : List Diagnostic) (operation : OperationId) (code : String) : Prop :=
  ∃ report ∈ reports, report.target = some (.operation operation) ∧ report.severity = .warning ∧
    report.code = some code

/-- What a method does about the polling that its operation declares. -/
structure FollowsUp (operation : OperationId) (kind : MethodKind) (reports : List Diagnostic) :
    Prop where
  polls_iff : (kind.label = "lro" ∨ kind.label = "lropaging") ↔
    ∃ declared, (context.definition.operationAt operation).polling = some declared ∧
      context.Links operation declared ∧ context.HasMonitor declared.operation
  /-- A method that does not poll does what it would do if no polling was declared. -/
  otherwise : ¬(kind.label = "lro" ∨ kind.label = "lropaging") →
    kind.label = "basic" ∨ kind.label = "paging"
  pages_iff : (kind.label = "paging" ∨ kind.label = "lropaging") ↔
    (context.definition.operationAt operation).paging.isSome
  unlinked : ∀ declared, (context.definition.operationAt operation).polling = some declared →
    ¬context.Links operation declared → Warns reports operation Code.invalidPollingLink
  unmonitored : ∀ declared, (context.definition.operationAt operation).polling = some declared →
    context.Links operation declared → ¬context.HasMonitor declared.operation →
      Warns reports operation Code.pollingStatusMissing
  tellEnd : ∀ polling ∈ kind.polling?, polling.monitor.states.TellEnd

/-- What a method is derived from before its response: its parameters, and its request from them. -/
def requestOf (operation : OperationId) (client : ContainerId) :
    Derive (HttpOperation × List Property) := do
  let declared := context.definition.operationAt operation
  let access := (context.choices.access? (.operation operation)).getD .everyone
  let parameters ←
    declared.parameters.filterMapM (context.methodParameter? operation client access)
  context.httpOperation operation client access parameters

variable {context}

/-- A warning is one among more reports as well. -/
theorem Warns.mono {reports more : List Diagnostic} {operation : OperationId} {code : String}
    (warns : Warns reports operation code) (still : ∀ report ∈ reports, report ∈ more) :
    Warns more operation code :=
  warns.imp fun report warning => ⟨still report warning.1, warning.2⟩

/-- If an operation links nothing then the report on it is a warning. -/
theorem unlinkedReport?_warns {operation : OperationId} {declared : PollingDecl}
    (missing : ¬context.Links operation declared) :
    Warns (context.unlinkedReport? operation declared).toList operation
      Code.invalidPollingLink := by
  -- The report is there, and its code is the only one that it may have.
  rw [← unlinkedReport?_isNone_iff, Option.isNone_iff_eq_none] at missing
  obtain ⟨report, reported⟩ := Option.ne_none_iff_exists'.mp missing
  refine ⟨report, Option.mem_toList.mpr reported, ?_⟩
  unfold unlinkedReport? at reported
  dsimp only at reported
  split at reported
  · cases reported
  · obtain rfl := Option.some.inj reported
    exact ⟨rfl, rfl, rfl⟩

/-- A model with a status is taken if the states of this tell success from failure. -/
theorem withStates?_eq_some_iff {found : TypeId × PropertyId} {model : TypeId}
    {status : PropertyId} {states : States} :
    context.withStates? found = some (model, status, states) ↔
      found = (model, status) ∧
        statesOf context.definition (context.definition.propertyAt status).type = states ∧
        states.succeeded ≠ [] ∧ states.failed ≠ [] := by
  -- A status is taken with states of both kinds, or not at all.
  obtain ⟨other, property⟩ := found
  unfold withStates?
  dsimp only
  split <;> grind

/-- What a type comes to in the end is the model with a status that is found, if it is taken. -/
theorem finalMonitor?_eq_ok_some_iff {id : TypeId} {model : TypeId} {status : PropertyId}
    {states : States} :
    context.finalMonitor? id = .ok (some (model, status, states)) ↔
      monitor? context.definition id = .ok (some (model, status)) ∧
        statesOf context.definition (context.definition.propertyAt status).type = states ∧
        states.succeeded ≠ [] ∧ states.failed ≠ [] := by
  -- The search and the states of what it finds are looked at one after the other.
  unfold finalMonitor?
  cases monitor? context.definition id with
  | error type => simp [Except.map]
  | ok found =>
    cases found with
    | none => simp [Except.map]
    | some found => simp [Except.map, withStates?_eq_some_iff]

/-- The model with a final status that a type comes to, if the search for it ends. -/
def foundMonitor? (context : Context) (id : TypeId) : Option (TypeId × PropertyId × States) :=
  (context.finalMonitor? id).toOption.join

/-- A monitor is found just if the search ends with one. -/
theorem foundMonitor?_eq_some_iff {id : TypeId} {found : TypeId × PropertyId × States} :
    context.foundMonitor? id = some found ↔ context.finalMonitor? id = .ok (some found) := by
  unfold foundMonitor?
  cases context.finalMonitor? id with
  | error type => simp [Except.toOption]
  | ok answer => simp [Except.toOption]

/-- The response to look at is the first one that has a monitor. -/
theorem findSome?_foundMonitor?_isSome_iff (polling : OperationId) :
    ((context.statusTypes polling).findSome? context.foundMonitor?).isSome ↔
      context.HasMonitor polling := by
  unfold HasMonitor statusTypes
  rw [List.findSome?_isSome_iff]
  -- What is found at a response is read off the response's body, and conversely.
  constructor
  · rintro ⟨type, listed, found⟩
    obtain ⟨⟨model, status, states⟩, isMonitor⟩ := Option.isSome_iff_exists.mp found
    obtain ⟨first, rfl, tells⟩ :=
      finalMonitor?_eq_ok_some_iff.mp (foundMonitor?_eq_some_iff.mp isMonitor)
    obtain ⟨response, among, isBody⟩ := List.mem_filterMap.mp listed
    obtain ⟨body, hasBody, rfl⟩ := Option.map_eq_some_iff.mp isBody
    obtain ⟨declared, isStatus⟩ := List.mem_filter.mp among
    exact ⟨response, declared, by simpa using isStatus, body, hasBody, model, status, first, tells⟩
  · rintro ⟨response, declared, isStatus, body, hasBody, model, status, first, tells⟩
    refine ⟨body.type, List.mem_filterMap.mpr ⟨response, ?_, by rw [hasBody]; rfl⟩, ?_⟩
    · exact List.mem_filter.mpr ⟨declared, by simpa using isStatus⟩
    · rw [foundMonitor?_eq_some_iff.mpr (finalMonitor?_eq_ok_some_iff.mpr ⟨first, rfl, tells⟩)]
      rfl

/-- A search that ends has found the first of the monitors that there are. -/
theorem firstMonitor?_finds (polling : OperationId) :
    Yields (context.firstMonitor? (context.statusTypes polling)) fun found _ =>
      (context.statusTypes polling).findSome? context.foundMonitor? = found :=
  Ensures.answerOf (fun _ _ answered _ => findSome?_of_findSomeM? answered) fun _ _ _ _ => trivial

/--
Of the status of an operation, a monitor comes just if there is one, and its states tell an end.
-/
theorem statusMonitor?_yields (polling : OperationId) (access : Access) :
    Yields (context.statusMonitor? polling access) fun found _ =>
      (found.isSome ↔ context.HasMonitor polling) ∧
        ∀ monitor ∈ found, monitor.states.TellEnd := by
  have isSome := @findSome?_foundMonitor?_isSome_iff context polling
  unfold statusMonitor?
  -- With the search behind it, only what was found is left to look at.
  dsimp only
  refine Yields.bind_told (firstMonitor?_finds polling) fun found isFound => ?_
  rw [isFound] at isSome
  split
  · exact Yields.pure fun _ => ⟨isSome, nofun⟩
  · rename_i model status states
    obtain ⟨type, -, isMonitor⟩ := List.exists_of_findSome?_eq_some isFound
    obtain ⟨-, rfl, succeeded, failed⟩ :=
      finalMonitor?_eq_ok_some_iff.mp (foundMonitor?_eq_some_iff.mp isMonitor)
    refine .after fun type => .after fun _ => .after fun status => .after fun success =>
      .after fun error => Yields.pure fun _ => ⟨by simpa using isSome, ?_⟩
    rintro monitor isMonitor
    cases isMonitor
    exact ⟨areListed_statesOf _, succeeded, failed⟩

/-! ## Polling -/

/-- A link comes of an operation that is linked, with a monitor if there is one. -/
theorem link?_yields (operation : OperationId) (declared : PollingDecl) (access : Access) :
    Yields (context.link? operation declared access) fun found state =>
      (¬context.Links operation declared → found = none ∧
        Warns state.diagnostics.reports operation Code.invalidPollingLink) ∧
      (context.Links operation declared → ∃ link, found = some link ∧
        (link.monitor.isSome ↔ context.HasMonitor declared.operation) ∧
        ∀ monitor ∈ link.monitor, monitor.states.TellEnd) := by
  intro state _
  -- By whether all values are at hand: if not the report warns, and else the monitor is looked at.
  obtain ⟨links, -, unlinked, linked⟩ := link?_outcome context operation declared access state
  by_cases isLinked : context.Links operation declared
  · cases monitored : context.statusMonitor? declared.operation access
        (context.linkNoted operation declared state) with
    | mk outcome next =>
      rw [linked isLinked outcome next monitored]
      cases outcome with
      | error failure => trivial
      | ok monitor =>
        obtain ⟨isSome, tellEnd⟩ :=
          (statusMonitor?_yields declared.operation access).ok trivial monitored
        exact ⟨fun missing => absurd isLinked missing, fun _ => ⟨_, rfl, isSome, tellEnd⟩⟩
  · rw [unlinked isLinked]
    refine ⟨fun _ => ⟨rfl, ?_⟩, fun links => absurd links isLinked⟩
    exact (unlinkedReport?_warns isLinked).mono fun _ reported => List.mem_append_right _ reported

/-- A failure of a method alone comes from its parameters or from its request. -/
theorem buildMethod_error_iff (operation : OperationId) (client : ContainerId) (state : State)
    {failure : Failure} (structural : failure.endsRun = false) :
    (context.buildMethod operation client state).1 = .error failure ↔
      (context.requestOf operation client state).1 = .error failure := by
  have accruing := (Robust.anything context).accruing client
  unfold buildMethod requestOf
  dsimp only
  rw [← bind_assoc]
  -- Whatever follows the request only fails for a fault of the derivation.
  refine bind_error_iff (fun result => ?_) structural state
  refine (accruing.methodResponse operation _ _).bind fun response => .get_bind fun current => ?_
  split
  · exact (accruing.polling? operation _ _ _).bind fun _ => .pure _
  · exact (Keeps.pure _).bind fun _ => .pure _

/-- A method fails by itself just if what it requests does. -/
theorem method_error_iff (operation : OperationId) (client : ContainerId) (state : State)
    {failure : Failure} (structural : failure.endsRun = false) :
    (context.method operation client state).1 = .error failure ↔
      (context.requestOf operation client state).1 = .error failure := by
  -- What is done after the method is built takes back notes or marks the forms in which it is
  -- wanted.
  rw [← buildMethod_error_iff operation client state structural, method_run]
  cases context.buildMethod operation client state with
  | mk outcome built => cases outcome <;> simp [Except.map]

end Context

/-! ## Packages -/

section

variable {context : Context} {operation : OperationId} {kind : MethodKind}
  {reports more : List Diagnostic}

/-- Later reports change nothing about a method. -/
theorem Context.FollowsUp.mono (follows : context.FollowsUp operation kind reports)
    (still : ∀ report ∈ reports, report ∈ more) : context.FollowsUp operation kind more :=
  { follows with
    unlinked := fun declared isDeclared missing =>
      (follows.unlinked declared isDeclared missing).mono still
    unmonitored := fun declared isDeclared links missing =>
      (follows.unmonitored declared isDeclared links missing).mono still }

end

/--
A bakery with a monitor that wants the number of a baking: one operation hands it out, another does
not, and a third one names an operation to poll that tells no status.
-/
def bakery : Definition :=
  let steps : Service.Drafting Unit := do
    let root ← Draft.addContainer "Bakery" false none
    Draft.setService root {}
    let string ← Draft.scalar "string"
    let stage ← Draft.enumeration "Stage" none ["Rising", "Succeeded", "Failed"]
    let baking ← Draft.model { name := some "Baking" }
    let _ ← Draft.property baking "status" stage
    let watch ← Draft.operation root "watch" .get "/bakings/{number}"
    let _ ← Draft.parameter watch "number" string (.path "number")
    Draft.addResponse watch { status := .code 200, body := some { type := baking } }
    let list ← Draft.operation root "list" .get "/breads"
    Draft.addResponse list { status := .code 200, body := some { type := string } }
    let number ← Draft.freeProperty "number" string (some (.header "number"))
    let bake ← Draft.operation root "bake" .post "/bakings"
    Draft.addResponse bake { status := .code 202, headers := [number] }
    let fry ← Draft.operation root "fry" .post "/fryings"
    let order ← Draft.operation root "order" .post "/orders"
    for (operation, polling) in [(bake, watch), (fry, watch), (order, list)] do
      Draft.modifyOperation operation fun declared =>
        { declared with polling := some { operation := polling } }
  (steps.run {}).2.definition

example :
    (derivePackage bakery {}).toOption.map (fun package => package.clients.flatMap fun client =>
        client.methods.map fun method => (method.name, method.kind.label)) =
      some [("watch", "basic"), ("list", "basic"), ("bake", "lro"), ("fry", "basic"),
        ("order", "basic")] ∧
    (finalState bakery {}).diagnostics.reports.map (fun report => (report.target, report.code)) =
      [(some (.operation ⟨3⟩), some Code.invalidPollingLink),
        (some (.operation ⟨4⟩), some Code.pollingStatusMissing)] := by
  decide +kernel

end Derivation

end ClientModel
