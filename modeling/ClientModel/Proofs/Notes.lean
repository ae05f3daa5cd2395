import ClientModel.Proofs.Accrual
import ClientModel.Proofs.Calls

/-!
What deriving a method leaves behind when it fails.

Notes are only ever added while a method is derived, and only one client takes parameters. Notes on
usage are taken back where the method is not wanted on typed values, and nowhere else, so that a
method which is left out may still leave its mark on the package.
-/

namespace ClientModel.Derivation

variable {context : Context}

namespace Context

variable {operation : OperationId} {client : ContainerId}

/-! ## Parameters of clients -/

/-- What is told by the parameters of clients alone is not broken by notes on usage. -/
theorem noting_parameters (parameters : OrderedMap ContainerId (List Property)) :
    Noting context (fun state => state.clientParameters = parameters) fun _ => True :=
  -- No step of a derivation touches the table, so that each case holds as it stands.
  have frame : Frame 0 (fun state => state.clientParameters = parameters) fun _ => True :=
    { violation := fun _ => trivial
      inside := fun _ _ => Nat.zero_le _
      added := fun _ _ same => same
      changed := fun _ _ _ same _ _ => same
      marked := fun _ _ _ same _ => same
      declared := fun _ _ _ same _ => same
      builtins := fun _ _ _ same _ => same
      names := fun _ _ same => same
      diagnostics := fun _ _ _ same => same }
  -- Notes of seeds and of formats are in tables of their own.
  { toSteady := frame.steady
    node := frame.node
    search := fun _ => Keeps.answerOf _ fun _ _ => trivial
    seed := fun _ _ same => same
    bodyFormat := fun _ _ same => same }

section

variable {parameters : OrderedMap ContainerId (List Property)}

/-- Nothing is elevated where nothing is given to clients. -/
theorem elevateAll_eq_pure {wire : List Property} (given : OnCalls wire) :
    context.elevateAll client wire = pure () := by
  -- None of the parameters passes the filter.
  have none : wire.filter (·.onClient) = [] := by
    rw [List.filter_eq_nil_iff]
    intro parameter member
    simp [given parameter member]
  unfold elevateAll
  rw [none, List.forIn_nil]
  rfl

/-- A parameter that is not given to the client leaves those of clients alone. -/
theorem methodParameter?_keepsParameters {id : PropertyId}
    (own : context.isForClient client (context.definition.propertyAt id).name = false)
    (access : Access) :
    Keeps (fun state => state.clientParameters = parameters) (fun _ => True)
      (context.methodParameter? operation client access id) := by
  have noting := @noting_parameters context parameters
  unfold methodParameter?
  dsimp only
  -- A parameter of no value is left out at once; of any other the node is derived.
  split
  · exact .pure _
  · refine (noting.node _).bind fun type => ?_
    split
    · -- Its name is none of those that are given to the client.
      rename_i handedOver
      rw [onClient_parameterOf, own] at handedOver
      cases handedOver
    · refine (Keeps.parametersInScope context client).bind fun scope => ?_
      split
      · exact .pure _
      · exact (noting.addSeed _ _ _).bind fun _ => .pure _

/-- So does a request, if none of what it sends is given to the client. -/
theorem httpOperation_keepsParameters (own : context.KeepsParameters operation client)
    (access : Access) (method : List Property) :
    Keeps (fun state => state.clientParameters = parameters) (fun _ => True)
      (context.httpOperation operation client access method) := by
  have noting := @noting_parameters context parameters
  -- No parameter of the request is given to the client, for its name is none of those.
  have sent : Yields ((context.definition.operationAt operation).slots.filterMapM
      (context.slotParameter? operation client access)) fun wire _ => OnCalls wire := by
    refine Yields.filterMapM_told _ fun slot member => ?_
    refine Ensures.ending (slotParameter?_onClient operation client access slot) ?_
    intro found state isFor parameter isFound
    rw [isFor parameter isFound]
    exact own _ (List.mem_append_right _ (List.mem_map_of_mem member))
  unfold httpOperation
  refine (noting.outcomes operation access).bind fun outcomes => ?_
  refine Keeps.bind_told (Keeps.filterMapM _ fun slot =>
    noting.slotParameter? .all operation access slot) sent fun wire onCalls => ?_
  refine (noting.body? .all operation access).bind fun body => ?_
  refine Keeps.bind_told (noting.negotiateBody operation body wire method)
    (negotiateBody_onCalls operation body wire method) fun negotiated first => ?_
  refine Keeps.bind_told (noting.negotiateResponses operation outcomes negotiated.1 negotiated.2)
    (negotiateResponses_onCalls operation outcomes negotiated.1 negotiated.2)
    fun accepted second => ?_
  dsimp only
  -- Headers are given to every call, so that nothing of the request is left to elevate.
  rw [elevateAll_eq_pure (second.1 (first.1 onCalls))]
  refine (Keeps.pure ()).bind fun _ => ?_
  have traces (parameter : Property) := @Tolerant.all.searching.traceParameter
    (fun state => state.clientParameters = parameters) _ context operation client
    (context.dropUnusedSegments accepted.1 accepted.2) parameter
  exact (Keeps.mapM _ traces).bind fun _ => (Keeps.optionMapM _ traces).bind fun _ => .pure _

/-- A method none of whose parameters is given to its client leaves all clients as they are. -/
theorem buildMethod_keepsParameters (own : context.KeepsParameters operation client) :
    Keeps (fun state => state.clientParameters = parameters) (fun _ => True)
      (context.buildMethod operation client) := by
  have noting := @noting_parameters context parameters
  unfold buildMethod
  dsimp only
  -- Each declared parameter keeps the table for its own name.
  refine Keeps.bind (Ensures.filterMapM (fun _ state => state.clientParameters = parameters) _
    (fun id member _ => methodParameter?_keepsParameters
      (own id (List.mem_append_left _ member)) _) []) fun taken => ?_
  refine (httpOperation_keepsParameters own _ taken).bind fun http => ?_
  refine (noting.methodResponse operation _ _).bind fun response => .get_bind fun current => ?_
  split
  · exact (noting.polling? operation _ _ _).bind fun _ => .pure _
  · exact (Keeps.pure _).bind fun _ => .pure _

end

end Context

/-! ## Failed methods -/

/--
What a method that fails for a reason of its own leaves behind.

It leaves no notes on usage where it is not wanted on typed values, and no parameter of a client
where none of its own parameters is given to the client. In any case it takes nothing away: whatever
it notes comes after what was noted before, and no other client takes anything.
-/
theorem failed_method_notes {context : Context} {operation : OperationId} {client : ContainerId}
    {state next : State} {failure : Failure}
    (run : context.method operation client state = (.error failure, next))
    (structural : failure.endsRun = false) :
    (context.isConvenient operation = false →
        next.seeds = state.seeds ∧ next.bodyFormats = state.bodyFormats) ∧
      (context.KeepsParameters operation client →
        next.clientParameters = state.clientParameters) ∧
      state.seeds <+: next.seeds ∧ state.bodyFormats <+: next.bodyFormats ∧
      (∀ other, (state.clientParameters.get? other).getD [] <+:
        (next.clientParameters.get? other).getD []) ∧
      ∀ other ≠ client,
        next.clientParameters.get? other = state.clientParameters.get? other := by
  -- The failure at hand is the only one, and concerns the method alone.
  have own : ∀ other : Failure, Except.error (α := Method) failure = .error other →
      other.endsRun = false := by
    intro other same
    cases same
    exact structural
  obtain ⟨accrued, discards⟩ := Context.method_accrues run own
  refine ⟨discards, fun keeps => ?_, accrued.seeds, accrued.bodyFormats, accrued.taken,
    accrued.others⟩
  -- The parameters of clients are those that building the method ended with.
  have still : Keeps (fun later => later.clientParameters = state.clientParameters) _ _ :=
    Context.buildMethod_keepsParameters keeps
  rw [Context.method_run] at run
  cases builds : context.buildMethod operation client state with
  | mk built before =>
    rw [builds] at run
    cases built with
    | ok method => cases congrArg Prod.fst run
    | error reason =>
      cases congrArg Prod.fst run
      have same := (still.error rfl builds).2 structural
      have ends := congrArg (fun result => result.2.clientParameters) run
      dsimp only at ends
      rw [← ends]
      -- Whatever the notes on usage, the parameters of clients are not touched on the way out.
      split
      · exact same
      · exact same

/--
A service with two methods whose requests want a leash that nothing supplies.

The first one is sent a pet and the version of the service; the second one is not wanted on typed
values.
-/
def kennel : Service.Definition where
  types := #[{ shape := .scalar { name := "string" } },
    { shape := .model { name := some "Pet", properties := [⟨0⟩] } }]
  properties := #[{ name := "name", model := some ⟨1⟩, type := ⟨0⟩ },
    { name := "pet", type := ⟨1⟩ }, { name := "apiVersion", type := ⟨0⟩ },
    { name := "leash", type := ⟨0⟩ }]
  operations := #[
    { name := "adopt", container := ⟨0⟩, verb := .post, path := "/pets"
      parameters := [⟨1⟩, ⟨2⟩]
      slots := [⟨⟨2⟩, some .query⟩, ⟨⟨3⟩, some .query⟩]
      bodies := [{ property := some ⟨1⟩, type := ⟨1⟩ }] },
    { name := "walk", container := ⟨0⟩, verb := .post, path := "/walks"
      parameters := [⟨1⟩]
      slots := [⟨⟨3⟩, some .query⟩]
      bodies := [{ property := some ⟨1⟩, type := ⟨1⟩ }] }]
  containers := #[
    { name := "Kennel", operations := [⟨0⟩, ⟨1⟩], service := some { apiVersions := ["1"] } }]
  customizations := ({} : Service.Customizations).setConvenientMethod ⟨1⟩ none false

/-- There is no failure to report: the method is there, or its failure ends the whole run. -/
def reportsNothing : Except Failure Method → Bool
  | .ok _ => true
  | .error failure => failure.endsRun

/-- In the kennel a method that nobody wants fails, and no trace of usage is left of it. -/
theorem failed_method_notes_kennel :
    ∃ failure next, (Context.of kennel {}).method ⟨1⟩ ⟨0⟩ {} = (.error failure, next) ∧
      failure.endsRun = false ∧ (Context.of kennel {}).isConvenient ⟨1⟩ = false ∧
      (Context.of kennel {}).KeepsParameters ⟨1⟩ ⟨0⟩ ∧
      next.seeds = [] ∧ next.bodyFormats = [] ∧ next.clientParameters = {} := by
  -- The method is run to see that it fails, and the theorem tells what is left behind.
  have fails : reportsNothing ((Context.of kennel {}).method ⟨1⟩ ⟨0⟩ {}).1 = false := by
    decide +kernel
  have unwanted : (Context.of kennel {}).isConvenient ⟨1⟩ = false := by decide +kernel
  have keeps : (Context.of kennel {}).KeepsParameters ⟨1⟩ ⟨0⟩ := by
    unfold Context.KeepsParameters
    decide +kernel
  cases run : (Context.of kennel {}).method ⟨1⟩ ⟨0⟩ {} with
  | mk outcome next =>
    rw [run] at fails
    cases outcome with
    | ok method => cases fails
    | error failure =>
      obtain ⟨usage, parameters, _⟩ := failed_method_notes run fails
      exact ⟨failure, next, rfl, fails, unwanted, keeps, (usage unwanted).1, (usage unwanted).2,
        parameters keeps⟩

/-- A method that is left out may leave its notes on usage and a parameter of its client behind. -/
theorem failed_method_leaves_notes :
    ¬ ∀ (context : Context) (operation : OperationId) (client : ContainerId) (state next : State)
        (failure : Failure), context.method operation client state = (.error failure, next) →
      failure.endsRun = false →
      next.seeds = state.seeds ∧ next.bodyFormats = state.bodyFormats ∧
        next.clientParameters = state.clientParameters := by
  intro unchanged
  -- The method fails for its last parameter, after the pet was noted.
  have fails : reportsNothing ((Context.of kennel {}).method ⟨0⟩ ⟨0⟩ {}).1 = false := by
    decide +kernel
  have noted : ((Context.of kennel {}).method ⟨0⟩ ⟨0⟩ {}).2.seeds ≠ [] := by decide +kernel
  cases run : (Context.of kennel {}).method ⟨0⟩ ⟨0⟩ {} with
  | mk outcome next =>
    rw [run] at fails noted
    cases outcome with
    | ok method => cases fails
    | error failure => exact noted (unchanged _ _ _ _ _ _ run fails).1

end ClientModel.Derivation
