import ClientModel.Proofs.Closure
import ClientModel.Proofs.PollingLink
import ClientModel.Proofs.Searches
import ClientModel.Proofs.Tables

/-!
Services that have no package for the sake of a single type.

A service whose only client starts with an operation that stops the run has no package. An operation
does so if it hands out a type whose node cannot be derived, or follows one whose answer is searched
for a status without end.
-/

namespace ClientModel

open Service (Definition Operation)

namespace Service

/-- A service over the types of a definition, with one client for some operations. -/
def Definition.serving (definition : Definition) (operations : List Operation) : Definition :=
  { definition with
    operations := operations.toArray
    containers := #[{
      name := ""
      operations := (List.range operations.length).map OperationId.mk
      service := some {} }]
    customizations := {} }

/-- An operation that hands out a single type. -/
def Operation.answering (id : TypeId) : Operation :=
  { name := ""
    container := ⟨0⟩
    verb := .get
    path := ""
    responses := [{ status := .code 200, body := some { type := id } }] }

/-- An operation that carries nothing, and is followed by polling another one. -/
def Operation.following (polling : OperationId) : Operation :=
  { name := ""
    container := ⟨0⟩
    verb := .get
    path := ""
    polling := some { operation := polling } }

/-- A service over the types of a definition, with one operation that hands out a single type. -/
def Definition.handingOut (definition : Definition) (id : TypeId) : Definition :=
  definition.serving [.answering id]

/-- A service over the types of a definition that polls for a single type. -/
def Definition.pollingFor (definition : Definition) (id : TypeId) : Definition :=
  definition.serving [.following ⟨1⟩, .answering id]

end Service

namespace Derivation

variable {α β : Type} {context : Context}

/-! ## Runs that stop -/

/-- From states of one sort, a step only ever ends the run. -/
def Stops (start : State → Prop) (step : Derive α) : Prop :=
  Ensures start step (fun _ _ => False) fun failure _ => failure.endsRun = true

namespace Stops

variable {start : State → Prop}

/-- What follows a step that ends the run does not happen. -/
theorem bind {step : Derive α} {next : α → Derive β} (stops : Stops start step) :
    Stops start (step >>= next) :=
  Ensures.bind stops fun _ _ never => never.elim

/-- A step stops if it is known to fail. -/
theorem of_error {step : Derive α} (fails : ∀ state, start state →
      ∃ failure next, failure.endsRun = true ∧ step state = (.error failure, next)) :
    Stops start step := by
  -- The run is known, so it is only to be read off.
  intro state begins
  obtain ⟨failure, next, ends, run⟩ := fails state begins
  rw [run]
  exact ends

/-- An attempt at what ends the run is no help if whatever comes of a failure does not either. -/
theorem attempt {step : Derive α} {next : Except Failure α → Derive β} (stops : Stops start step)
    (rest : ∀ failure : Failure, failure.endsRun = true →
      Stops (fun _ => True) (next (.error failure))) :
    Stops start (Derivation.attempt step >>= next) := by
  -- The step only fails, so that only failures are held.
  refine Ensures.via (fun outcome _ => ∃ failure : Failure, failure.endsRun = true ∧
    outcome = .error failure) (Ensures.attempt ?_) fun outcome => ?_
  · exact stops.weaken (fun _ begins => begins) (fun _ _ never => never.elim)
      fun failure _ ends => ⟨failure, ends, rfl⟩
  · rintro state ⟨failure, ends, rfl⟩
    exact rest failure ends state trivial

/-- A list of steps stops with its first one. -/
theorem filterMapM {step : β → Derive (Option α)} {first : β} {rest : List β}
    (stops : Stops start (step first)) : Stops start ((first :: rest).filterMapM step) := by
  rw [List.filterMapM_cons]
  exact stops.bind

/-- A row of steps stops if its first step does. -/
theorem foldlM {step : α → β → Derive α} {first : β} {rest : List β} {found : α}
    (stops : Stops start (step found first)) : Stops start ((first :: rest).foldlM step found) := by
  rw [List.foldlM_cons]
  exact stops.bind

/-- A row of derivations stops if its first one does. -/
theorem mapM {step : β → Derive α} {first : β} {rest : List β}
    (stops : Stops start (step first)) : Stops start ((first :: rest).mapM step) := by
  rw [List.mapM_cons]
  exact stops.bind

end Stops

/-! ## From a method to the whole run -/

section

variable {start : State → Prop} {operation : OperationId} {client : ContainerId}

/-- Neither taking back notes nor reporting helps against a failure that ends the run. -/
theorem methodOrReport_stops (builds : Stops start (context.buildMethod operation client)) :
    Stops start (context.methodOrReport client operation) := by
  have derives : Stops start (context.method operation client) := by
    unfold Context.method
    dsimp only
    -- The method's failure is handed on, whether or not its notes are taken back first.
    refine Ensures.look fun current => Stops.attempt builds fun failure ends => ?_
    split
    · exact fun state _ => ends
    · exact fun state _ => ends
  unfold Context.methodOrReport
  refine Stops.attempt derives fun failure ends => ?_
  dsimp only
  rw [if_pos ends]
  exact fun state _ => ends

variable (definition : Definition) (operations : List Operation) (options : Options)

/-- A definition that serves operations and nothing else chooses nothing. -/
theorem serving_choices :
    (Context.of (definition.serving operations) options).choices = {} := by
  simp [Context.of, Definition.serving, Service.Customizations.resolve, Service.settle,
    OrderedMap.filterMap]

/-- A service without versions leaves no operation out. -/
theorem serving_operationsOf
    (own : ∀ operation ∈ operations, operation.container = ⟨0⟩) :
    (Context.of (definition.serving operations) options).operationsOf ⟨0⟩ =
      (List.range operations.length).map OperationId.mk := by
  -- No operation is moved, so that those of the service are the ones declared for it.
  have declared : ((Context.of (definition.serving operations) options).definition.containerAt
      ⟨0⟩).operations = (List.range operations.length).map OperationId.mk := rfl
  have isOwn (id : OperationId) : ((definition.serving operations).operationAt id).container =
      ⟨0⟩ := by
    rw [Definition.operationAt, Array.getD_eq_getD_getElem?]
    cases isThere : (definition.serving operations).operations[id.index]? with
    | none => rfl
    | some operation =>
      have listed : operations[id.index]? = some operation := by
        rw [← isThere, Definition.serving, List.getElem?_toArray]
      exact own operation (List.mem_of_getElem? listed)
  have available (id : OperationId) :
      (Context.of (definition.serving operations) options).isAvailable id = true := by
    have service : (definition.serving operations).service?
        ((definition.serving operations).operationAt id).container = some {} := by
      rw [isOwn]
      rfl
    have noVersion : options.selectedVersion [] = none := by
      unfold Options.selectedVersion
      split
      · simp
      · rfl
      · rfl
    have sameDefinition : (Context.of (definition.serving operations) options).definition =
      definition.serving operations := rfl
    have sameOptions : (Context.of (definition.serving operations) options).options = options := rfl
    simp [Context.isAvailable, sameDefinition, service, sameOptions, noVersion]
  -- With all of its operations available, what is left of the list is the list.
  unfold Context.operationsOf
  rw [serving_choices]
  simp [declared, available, Service.Choices.location?, Service.Choices.movedInto]

/-- A service has no package if the first operation of its only client stops the run. -/
theorem serving_fails (own : ∀ operation ∈ operations, operation.container = ⟨0⟩)
    (someOperation : operations ≠ []) (begins : start {})
    (builds : Stops start
      ((Context.of (definition.serving operations) options).buildMethod ⟨0⟩ ⟨0⟩)) :
    ∃ failure, derivePackage (definition.serving operations) options = .error failure := by
  -- There is one root, whose tree has no groups and whose clients are made individually.
  have roots : rootClients (definition.serving operations)
      (Context.of (definition.serving operations) options).choices =
        [{ container := ⟨0⟩, name := none }] := by
    rw [serving_choices]
    rfl
  -- A client without sub-clients consists of its methods.
  have client : Stops start ((Context.of (definition.serving operations) options).rootClient
      { container := ⟨0⟩, name := none }) := by
    unfold Context.rootClient
    have tree : (Context.of (definition.serving operations) options).clientTree ⟨0⟩ =
      .node ⟨0⟩ [] := rfl
    dsimp only
    rw [tree]
    have setup : (Context.of (definition.serving operations) options).choices.setup? ⟨0⟩ = none :=
      rfl
    have initialization :
        (Context.of (definition.serving operations) options).initializationOf ⟨0⟩ true =
          pure .individually := by
      unfold Context.initializationOf
      rw [setup]
      rfl
    obtain ⟨rest, isFirst⟩ : ∃ rest, (List.range operations.length).map OperationId.mk =
        ⟨0⟩ :: rest := by
      obtain ⟨first, others, rfl⟩ := List.exists_cons_of_ne_nil someOperation
      exact ⟨_, by rw [List.length_cons, List.range_succ_eq_map, List.map_cons]⟩
    unfold Context.clientOf
    simp only [initialization, setup, pure_bind, Option.map_none, Option.getD_none, List.mapM_nil,
      Context.clientsOf]
    rw [serving_operationsOf definition operations options own, isFirst]
    exact Stops.bind (Stops.filterMapM (methodOrReport_stops builds))
  -- The only client is derived first, and what stops it stops the run.
  have run : Stops start (Context.of (definition.serving operations) options).clients := by
    unfold Context.clients
    have sameDefinition : (Context.of (definition.serving operations) options).definition =
      definition.serving operations := rfl
    rw [sameDefinition, roots]
    exact Stops.bind (Stops.mapM client)
  have stops := run {} begins
  unfold derivePackage
  rcases isRun : ((Context.of (definition.serving operations) options).clients {} :
      Except Failure (List Client) × State) with ⟨failure | clients, state⟩
  · refine ⟨failure, ?_⟩
    simp only [ExceptT.run, isRun]
    rfl
  · rw [isRun] at stops
    exact stops.elim

end

/-! ## Types that cannot be handed out -/

section

variable {id : TypeId}

/-- An operation stops a run if the type that it hands out does. -/
theorem answering_stops {start : State → Prop} {operation : OperationId} {client : ContainerId}
    (answers : context.definition.operationAt operation = .answering id)
    (valued : context.definition.isVoidLike id = false) (stops : Stops start (context.node id)) :
    Stops start (context.buildMethod operation client) := by
  have payload : context.payload? { status := .code 200, body := some { type := id } } =
      some { type := id } := by
    simp [Context.payload?, valued]
  -- The response has no headers, so that its type comes first.
  have response (access : Access) : Stops start
      (context.response access { status := .code 200, body := some { type := id } }) := by
    unfold Context.response
    rw [payload, List.filterMapM_nil, pure_bind]
    dsimp only
    exact Stops.bind stops
  unfold Context.buildMethod
  dsimp only
  -- There are no parameters, and the response is derived first of all.
  have noParameters : (context.definition.operationAt operation).parameters = [] := by
    rw [answers]
    rfl
  rw [noParameters, List.filterMapM_nil, pure_bind]
  refine Stops.bind (Stops.bind ?_)
  unfold Context.outcomes
  rw [answers]
  exact Stops.foldlM (Stops.bind (response _))

/-- Nothing was unsettled yet, and the type was not met. -/
def Context.Begins (context : Context) (id : TypeId) (state : State) : Prop :=
  context.Settled (fun _ => False) state ∧ state.declared.get? id = none

/-- At the start of a run nothing was met. -/
theorem Context.Begins.start : context.Begins id {} :=
  ⟨.start, by simp [OrderedMap.get?]⟩

/-- A type on a cycle that is neither a model nor a union stops a run that meets it first. -/
theorem node_stops_of_cycle (placed : context.definition.MembersPlaced)
    (cyclic : Relation.TransGen context.LeadsTo id id)
    (late : context.definition.isComposite id = false) :
    Stops (context.Begins id) (context.node id) := by
  -- A type that is neither a model nor a union stands for itself.
  have own : context.definition.payloadType id = id :=
    Context.payloadType_eq (Definition.model?_of_plain late)
  unfold Context.node Context.referenceBound Context.nodeWithin
  dsimp only
  rw [own]
  refine Ensures.get_bind fun current begins => ?_
  -- The type has no node yet, so that the way around the cycle is taken.
  rw [begins.2]
  refine Stops.bind ?_
  exact (cycle_fails placed _ cyclic late).starting fun state isCurrent => isCurrent ▸ begins.1

/-- A scalar whose encoding is never found stops a run that meets it first. -/
theorem node_stops_of_encoding {scalar : Service.Scalar} {type : TypeId}
    (shape : context.definition.shapeAt id = .scalar scalar)
    (endless : context.definition.encoding? id = .error type) :
    Stops (context.Begins id) (context.node id) := by
  have own : context.definition.payloadType id = id :=
    Context.payloadType_eq (by simp [Definition.model?, shape])
  unfold Context.node Context.referenceBound Context.nodeWithin
  dsimp only
  rw [own]
  refine Ensures.get_bind fun current begins => ?_
  rw [begins.2, show (context.definition.typeAt id).shape = .scalar scalar from shape]
  refine Stops.bind ?_
  -- Whether or not the base has a node, the encoding is asked for next.
  have base (steps : Nat) : Keeps (fun _ => True) (fun failure => failure.endsRun = true)
      (Context.scalarBase? (context.nodeWithin steps) scalar) :=
    Keeps.scalarBase? scalar fun base _ _ => Frame.anything.nodeWithin steps base
  refine Ensures.via (fun _ _ => True) ?_ fun _ => ?_
  · exact (base _).weaken (fun _ _ => trivial) (fun _ _ _ => trivial) fun _ _ fails => fails.1
  · refine Stops.bind (Ensures.answerOf (fun found _ answered => ?_) fun _ _ _ _ => rfl)
    rw [endless] at answered
    cases answered

end

/-! ## Types that cannot be polled for -/

/-- A monitor is not found where the only response is searched for a status without end. -/
theorem statusMonitor?_stops {polling : OperationId} {access : Access} {id type : TypeId}
    (answers : context.definition.operationAt polling = .answering id)
    (endless : monitor? context.definition id = .error type) (state : State) :
    context.statusMonitor? polling access state =
      (.error (.violation (.endlessVariants type)), state) := by
  -- The only response has the type in question for its body.
  have carried : context.statusTypes polling = [id] := by
    rw [Context.statusTypes, answers]
    rfl
  have searched : (context.statusTypes polling).findSomeM? context.finalMonitor? = .error type := by
    rw [carried, List.findSomeM?, Context.finalMonitor?, endless]
    rfl
  unfold Context.statusMonitor?
  refine bind_error ?_
  exact congrFun (congrArg (answerOf .endlessVariants) searched) state

/-- The request of an operation that carries nothing is built at once. -/
theorem httpOperation_following {operation polling : OperationId} (client : ContainerId)
    (access : Access)
    (follows : context.definition.operationAt operation = .following polling) :
    ∃ http, context.httpOperation operation client access [] = pure (http, []) ∧
      http.responses = {} := by
  -- Nothing is sent, received or refused, so that every step of the request is done at once.
  refine ⟨{
    origin := operation
    verb := .get
    path := ""
    parameters := []
    body := none
    responses := {}
    exceptions := {} }, ?_, rfl⟩
  unfold Context.httpOperation Context.outcomes Context.body? Context.elevateAll
  simp only [follows, Service.Operation.following, List.foldlM_nil, List.filterMapM_nil, pure_bind,
    Context.negotiateBody, Context.negotiateResponses, Context.acceptedTypes?,
    Context.dropUnusedSegments]
  rfl

/-- An operation that polls for such a type alone, and needs no values for that, stops a run. -/
theorem following_stops {start : State → Prop} {operation polling : OperationId}
    {client : ContainerId} {id type : TypeId}
    (follows : context.definition.operationAt operation = .following polling)
    (answers : context.definition.operationAt polling = .answering id)
    (endless : monitor? context.definition id = .error type) :
    Stops start (context.buildMethod operation client) := by
  unfold Context.buildMethod
  dsimp only
  have noParameters : (context.definition.operationAt operation).parameters = [] := by
    rw [follows]
    rfl
  rw [noParameters, List.filterMapM_nil, pure_bind]
  obtain ⟨http, request, noResponses⟩ := httpOperation_following client
    ((context.choices.access? (.operation operation)).getD .everyone) follows
  -- Without responses there is nothing to hand back.
  have response (access : Access) :
      context.methodResponse operation {} access = pure {} := rfl
  rw [request, pure_bind]
  simp only [noResponses, response, pure_bind, follows]
  -- What is polled takes no parameters, so that all there is to do is to find the monitor.
  have linked : context.Links operation { operation := polling } := by
    rintro name ⟨property, needs, -⟩
    simp [NeedsValue, answers, Service.Operation.answering] at needs
  refine Ensures.look fun current => Stops.bind (Stops.of_error fun state _ =>
    ⟨.violation (.endlessVariants type),
      context.linkNoted operation { operation := polling } state, rfl, ?_⟩)
  exact Context.polling?_error_iff.mpr
    (Context.link?_error_iff.mpr ⟨linked, statusMonitor?_stops answers endless _⟩)

/-! ## Services without a package -/

variable {definition : Definition} {options : Options} {id type : TypeId}

/-- A service has no package if it hands out a type on a cycle without models and unions. -/
theorem handingOut_fails_of_cycle (placed : definition.MembersPlaced)
    (cyclic : Relation.TransGen (Context.of (definition.handingOut id) options).LeadsTo id id)
    (late : definition.isComposite id = false) :
    ∃ failure, derivePackage (definition.handingOut id) options = .error failure := by
  -- What refers to other types is not without values, and so the body counts.
  have valued : definition.isVoidLike id = false := by
    obtain ⟨next, ⟨reference, referred, -⟩, -⟩ := Relation.TransGen.head'_iff.mp cyclic
    change reference ∈ Context.shapeReferences _ (definition.shapeAt id) at referred
    rw [Definition.isVoidLike]
    split
    all_goals
      first
        | rfl
        | rename_i shape
          simp [shape, Context.shapeReferences] at referred
  have placed' : (Context.of (definition.handingOut id) options).definition.MembersPlaced :=
    ⟨placed.listed, placed.own, placed.once⟩
  exact serving_fails definition _ options (by simp [Service.Operation.answering]) (by simp)
    Context.Begins.start (answering_stops rfl valued (node_stops_of_cycle placed' cyclic late))

/-- A service that hands out a scalar whose encoding is never found has no package. -/
theorem handingOut_fails_of_encoding (endless : definition.encoding? id = .error type) :
    ∃ failure, derivePackage (definition.handingOut id) options = .error failure := by
  -- Only a scalar takes part in the walk.
  obtain ⟨scalar, shape⟩ : ∃ scalar, definition.shapeAt id = .scalar scalar := by
    by_contra! other
    have last (base : TypeId) : ¬definition.DefersTo id base :=
      fun ⟨scalar, shape, _⟩ => other scalar shape
    obtain ⟨encode, atOnce⟩ := Definition.encodingOr_of_not_defersTo last
    rw [Definition.encoding?, Definition.encodingWithin_eq, atOnce] at endless
    cases endless
  have valued : definition.isVoidLike id = false := by
    simp [Definition.isVoidLike, shape]
  -- The operation is the first of its client, and its only response is of the scalar.
  have same : (definition.handingOut id).encoding? = definition.encoding? := encoding?_congr rfl
  have stops : Stops ((Context.of (definition.handingOut id) options).Begins id)
      ((Context.of (definition.handingOut id) options).node id) :=
    node_stops_of_encoding shape ((congrFun same id).trans endless)
  exact serving_fails definition _ options (by simp [Service.Operation.answering]) (by simp)
    Context.Begins.start (answering_stops rfl valued stops)

/-- A service that polls for a type which is searched for a status without end has no package. -/
theorem pollingFor_fails (endless : monitor? definition id = .error type) :
    ∃ failure, derivePackage (definition.pollingFor id) options = .error failure := by
  -- The search does not depend on what is served.
  have same : monitor? (definition.pollingFor id) = monitor? definition := monitor?_congr rfl rfl
  have stops : Stops (fun _ => True)
      ((Context.of (definition.pollingFor id) options).buildMethod ⟨0⟩ ⟨0⟩) :=
    following_stops rfl rfl ((congrFun same id).trans endless)
  exact serving_fails definition _ options
    (by simp [Service.Operation.answering, Service.Operation.following]) (by simp) trivial stops

end Derivation

end ClientModel
