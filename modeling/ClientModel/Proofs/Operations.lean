import ClientModel.Proofs.Placement
import ClientModel.Proofs.Requests

/-!
Methods name only nodes that are there.

This is told of what a method takes and hands back, and of the status monitor by which a
long-running one is followed.
-/

namespace ClientModel

/-- The nodes that a status monitor names: its own, and those of its properties. -/
def StatusMonitor.nodeIds (monitor : StatusMonitor) : List NodeId :=
  monitor.type :: monitor.status.type ::
    (monitor.success.toList.map MonitorProperty.type ++
      monitor.error.toList.map MonitorProperty.type)

/-- The nodes that are named where a long-running operation is followed to its end. -/
def Polling.nodeIds (progress : Polling) : List NodeId :=
  progress.monitor.nodeIds ++ progress.finalResult.toList

/-- The nodes that a method names which one HTTP operation stands behind. -/
def ServiceMethod.nodeIds (method : ServiceMethod) : List NodeId :=
  method.operation.nodeIds ++ method.response.type.toList

/-- The nodes that a method names. -/
def Method.nodeIds (method : Method) : List NodeId :=
  method.parameters.flatMap Property.nodeIds ++
    (method.kind.service?.toList.flatMap ServiceMethod.nodeIds ++
      method.kind.polling?.toList.flatMap Polling.nodeIds)

namespace Derivation

open Service (Directive PollingDecl)

variable {context : Context} {state : State}

/-- Parameters that are admissible name what is in range. -/
theorem AdmitsAll.names {catalogue : Catalogue} {parameters : List Property}
    (admits : AdmitsAll context catalogue parameters) :
    catalogue.Holds (parameters.flatMap Property.nodeIds) :=
  Catalogue.holds_flatMap fun parameter listed => (admits parameter listed).names

/-! ## Parameters -/

/-- The parameter that is left to a method is admissible. -/
theorem methodParameter?_conveys (operation : OperationId) (client : ContainerId)
    (access : Access) (id : PropertyId) :
    Conveys (Advances context) (fun _ => True)
      (context.methodParameter? operation client access id)
      fun found state => ∀ parameter ∈ found, Admits context state.catalogue parameter := by
  unfold Context.methodParameter?
  dsimp only
  -- A parameter without a value is left out.
  split
  · exact Conveys.pure_none
  · refine (node_conveys _).onward (fun _ start => start) fun type => ?_
    -- As it is declared, whichever versions it is given with.
    have admits {state : State} (inside : state.catalogue.Holds [type]) : Admits context
        state.catalogue { context.parameterOf id type .method
          (context.definition.operationCrossId operation) client with
            serializedName := (context.definition.propertyAt id).name
            apiVersions := context.operationVersions operation } :=
      have declared := admits_parameterOf inside id .method
        (context.definition.operationCrossId operation) client
      ⟨declared.names, declared.declared, declared.version⟩
    split
    · -- What is given to the client is no parameter of the method.
      refine (elevate_conveys client _).past (fun _ known => admits known.2) fun _ => ?_
      exact Conveys.pure_none
    · -- In scope of the client nothing of its name is there, or else the parameter is dropped.
      refine (parametersInScope_conveys client).past (fun _ _ => trivial) fun scope => ?_
      split
      · exact Conveys.pure_none
      · exact (addSeed_conveys _ _ _).past (fun _ _ => trivial) fun _ =>
          Conveys.pure_some fun _ _ known => admits known.2

/-! ## Responses -/

/-- The types of success are those that responses hold. -/
theorem successTypes_subset (responses : ResponseMap) :
    successTypes responses ⊆ responses.values.flatMap HttpResponse.types := by
  intro type member
  -- A type of success is the payload of some response.
  rcases (mem_foldl_new _ _ type).mp member with none | carried
  · exact absurd none List.not_mem_nil
  · obtain ⟨response, listed, isType⟩ := List.mem_filterMap.mp carried
    refine List.mem_flatMap.mpr ⟨response, listed, List.mem_append_left _ ?_⟩
    exact Option.mem_toList.mpr isType

/-- A union that is made up for successes is in range. -/
theorem addResponseUnion_conveys (operation : OperationId) (access : Access)
    (variants : List NodeId) :
    Conveys (Advances context) (fun state => state.catalogue.Holds variants)
      (context.addResponseUnion operation access variants)
      fun node state => state.catalogue.Holds [node] := by
  unfold Context.addResponseUnion
  refine (claimName_conveys _).past (fun _ _ => trivial) fun name => ?_
  -- The union names its variants, all of which are there.
  refine (addNode_conveys rfl fun _ isBuiltin => by cases isBuiltin).onward
    (fun _ known => known) fun node => ?_
  exact (addSeed_conveys _ _ _).past (fun _ _ => trivial) fun _ =>
    Conveys.pure fun _ _ known => known.2

/-- The type of success is in range. -/
theorem successType?_conveys (operation : OperationId) (access : Access) (types : List NodeId) :
    Conveys (Advances context) (fun state => state.catalogue.Holds types)
      (context.successType? operation access types)
      fun found state => state.catalogue.Holds found.toList := by
  unfold Context.successType?
  -- No type, a single one, or a union of several.
  split
  · exact Conveys.pure fun _ _ known => known
  · exact Conveys.pure fun _ _ known => known
  · exact Conveys.map (addResponseUnion_conveys operation access _)

/-- The type of a response is in range. -/
theorem methodResponse_conveys (operation : OperationId) (responses : ResponseMap)
    (access : Access) :
    Conveys (Advances context)
      (fun state => state.catalogue.Holds (responses.values.flatMap HttpResponse.types))
      (context.methodResponse operation responses access)
      fun response state => state.catalogue.Holds response.type.toList := by
  unfold Context.methodResponse
  refine ((successType?_conveys operation access _).starting fun _ _ known =>
    known.subset (successTypes_subset responses)).bind fun found => ?_
  -- Only a type that there is can be null as well.
  cases found with
  | none => exact Conveys.pure fun _ _ known => known
  | some type =>
    refine (nodeAt_conveys type).past (fun _ _ => trivial) fun node => ?_
    split
    · -- The type that may be null is a union of the one that may not.
      refine (addNode_conveys rfl fun _ isBuiltin => by cases isBuiltin).onward
        (fun _ known => known) fun orNull => Conveys.pure fun _ _ known => known.2
    · exact Conveys.pure fun _ _ known => known

/-! ## Pages -/

/-- By induction on the way: each model on it names the next type. -/
theorem typeAlong_holds (orderly : Orderly context state) {type last : NodeId}
    {segments : List String} (inside : state.catalogue.Holds [type])
    (found : typeAlong state.catalogue type segments = some last) :
    state.catalogue.Holds [last] := by
  -- By induction on the names that lead on from here.
  induction segments generalizing type with
  | nil =>
    rw [typeAlong] at found
    rw [← Option.some.inj found]
    exact inside
  | cons segment rest ih =>
    rw [typeAlong] at found
    obtain ⟨model, isModel, found⟩ := Option.bind_eq_some_iff.mp found
    obtain ⟨property, isProperty, found⟩ := Option.bind_eq_some_iff.mp found
    refine ih (Catalogue.holds_singleton.mpr ?_) found
    have names := orderly.names type
    rw [Node.kind_of_model? isModel, Catalogue.holds_model] at names
    refine names.1 _ (List.mem_flatMap.mpr ⟨property, ?_, List.mem_cons_self⟩)
    exact List.mem_of_find?_eq_some isProperty

/-- The type of a page is in range. -/
theorem pagedResponse_holds (orderly : Orderly context state) {response : MethodResponse}
    (inside : state.catalogue.Holds response.type.toList) (pages : Paging) :
    state.catalogue.Holds (pagedResponse state.catalogue pages response).type.toList := by
  unfold pagedResponse
  -- A response that does not lead to the items of a page is handed back as it is.
  split
  · rename_i items found
    obtain ⟨type, isType, along⟩ := Option.bind_eq_some_iff.mp found
    rw [isType] at inside
    exact typeAlong_holds orderly inside along
  · exact inside

/-! ## Polling -/

/-- To follow a directive advances a run. -/
theorem followDirective_conveys (initiating polling : OperationId) (sources : List LinkSource)
    (targets : List LinkTarget) (links : LinkMap) (directive : Directive) :
    Conveys (Advances context) (fun _ => True)
      (context.followDirective initiating polling sources targets links directive)
      fun _ _ => True := by
  -- A directive that cannot be followed is reported, and nothing else happens.
  have reported {code message : String} (other : code ≠ Code.discriminatorNotConstant) :
      Conveys (Advances context) (fun _ => True)
        (reportError (.operation initiating) code message) fun _ _ => True :=
    report_conveys (by simpa using other)
  unfold Context.followDirective
  split
  · exact (reported (by decide)).bind fun _ => Conveys.pure fun _ _ _ => trivial
  · split
    · exact (reported (by decide)).bind fun _ => Conveys.pure fun _ _ _ => trivial
    · split
      · unfold Context.reportMissingSource
        split
        · exact (reported (by decide)).bind fun _ => Conveys.pure fun _ _ _ => trivial
        · exact (reported (by decide)).bind fun _ => Conveys.pure fun _ _ _ => trivial
      · exact Conveys.pure fun _ _ _ => trivial

/-- To collect the values of a link advances a run. -/
theorem linkMap?_conveys (operation : OperationId) (declared : PollingDecl) :
    Conveys (Advances context) (fun _ => True) (context.linkMap? operation declared)
      fun _ _ => True := by
  unfold Context.linkMap?
  have directed (sources : List LinkSource) (targets : List LinkTarget) :
      Conveys (Advances context) (fun _ => True) (declared.directives.foldlM
        (context.followDirective operation declared.operation sources targets) {})
        fun _ _ => True := by
    have all := Conveys.foldlM declared.directives (fun directive _ links =>
      (@followDirective_conveys context operation declared.operation sources targets links
        directive).starting fun _ _ (_ : True ∧ True) => trivial) {}
    exact all.starting fun _ _ _ => ⟨trivial, trivial⟩
  refine (directed _ _).bind fun links => ?_
  dsimp only
  -- All parameters of the polling operation are linked, or the method is warned about.
  split
  · exact Conveys.pure fun _ _ _ => trivial
  · exact (reportWarning_conveys (by decide)).bind fun _ => Conveys.pure fun _ _ _ => trivial

/-- The type of a property of a monitor is in range. -/
theorem monitorProperty_conveys (id : PropertyId) :
    Conveys (Advances context) (fun _ => True) (context.monitorProperty id)
      fun property state => state.catalogue.Holds [property.type] :=
  (node_conveys _).bind fun _ => Conveys.pure fun _ _ known => known

/-- So are those of all its properties. -/
theorem monitorProperties_convey (found : Option PropertyId) :
    Conveys (Advances context) (fun _ => True) (found.mapM context.monitorProperty)
      fun properties state =>
        state.catalogue.Holds (properties.toList.map MonitorProperty.type) := by
  refine (Conveys.optionMapM found fun id _ => monitorProperty_conveys id).ending ?_
  intro properties state _ each type member
  -- What is found comes from the one property that was looked for.
  obtain ⟨property, isProperty, rfl⟩ := List.mem_map.mp member
  obtain ⟨_, _, inside⟩ := each property (Option.mem_toList.mp isProperty)
  exact inside _ List.mem_cons_self

/-- All that a monitor names is in range. -/
theorem statusMonitor?_conveys (polling : OperationId) (access : Access) :
    Conveys (Advances context) (fun _ => True) (context.statusMonitor? polling access)
      fun found state => ∀ monitor ∈ found, state.catalogue.Holds monitor.nodeIds := by
  unfold Context.statusMonitor?
  dsimp only
  -- Only a payload with a status that comes to an end is a monitor.
  refine Conveys.answerOf.bind fun found => ?_
  split
  · exact Conveys.pure_none
  · refine (node_conveys _).onward (fun _ start => start) fun type => ?_
    refine (addSeed_conveys _ _ _).past (fun _ _ => trivial) fun _ => ?_
    refine (monitorProperty_conveys _).onward (fun _ _ => trivial) fun status => ?_
    refine (monitorProperties_convey _).onward (fun _ _ => trivial) fun success => ?_
    refine (monitorProperties_convey _).onward (fun _ _ => trivial) fun error =>
      Conveys.pure_some ?_
    rintro state _ ⟨⟨⟨⟨_, type⟩, status⟩, success⟩, error⟩
    exact (type.append status).append (success.append error)

/-- What a link refers to is what its monitor does. -/
theorem link?_conveys (operation : OperationId) (declared : PollingDecl) (access : Access) :
    Conveys (Advances context) (fun _ => True) (context.link? operation declared access)
      fun found state => ∀ link ∈ found, ∀ monitor ∈ link.monitor,
        state.catalogue.Holds monitor.nodeIds := by
  unfold Context.link?
  refine (linkMap?_conveys operation declared).bind fun parameters => ?_
  -- Without a value for each parameter there is no link.
  split
  · exact Conveys.pure_none
  · exact (statusMonitor?_conveys _ access).bind fun monitor =>
      Conveys.pure_some fun _ _ known => known

/-- All that polling names is in range. -/
theorem polling?_conveys (operation : OperationId) (declared : PollingDecl) (access : Access)
    (response : MethodResponse) :
    Conveys (Advances context) (fun state => state.catalogue.Holds response.type.toList)
      (context.polling? operation declared access response)
      fun found state => ∀ progress ∈ found, state.catalogue.Holds progress.nodeIds := by
  unfold Context.polling?
  refine (link?_conveys operation declared access).onward (fun _ _ => trivial) fun found => ?_
  -- Without a link there is no polling, and without a monitor there is none either.
  split
  · exact Conveys.pure_none
  · rename_i link
    split
    · exact (reportWarning_conveys (by decide)).past (fun _ _ => trivial) fun _ =>
        Conveys.pure_none
    · rename_i monitor isMonitor
      refine Conveys.pure_some ?_
      rintro state _ ⟨inside, told⟩
      have names := told link rfl monitor isMonitor
      refine names.append fun type isResult => ?_
      -- The result is the success property of the monitor, if any, and else what was handed back.
      rcases Option.or_eq_some_iff.mp (Option.mem_toList.mp isResult) with success | ⟨_, handed⟩
      · refine names type ?_
        obtain ⟨property, isProperty, rfl⟩ := Option.map_eq_some_iff.mp success
        simp [StatusMonitor.nodeIds, isProperty]
      · exact inside type (Option.mem_toList.mpr handed)

/-- The type of a polled response is in range. -/
theorem polledResponse_holds {catalogue : Catalogue} {progress : Option Polling}
    {response : MethodResponse} (inside : catalogue.Holds response.type.toList)
    (names : ∀ polling ∈ progress, catalogue.Holds polling.nodeIds) :
    catalogue.Holds (Context.polledResponse progress response).type.toList := by
  unfold Context.polledResponse
  -- What is polled for takes the place of what the first call hands back.
  split
  · exact inside
  · rename_i polling
    split
    · exact inside
    · exact (Catalogue.holds_append.mp (names polling rfl)).2

/-! ## Methods -/

/-- A method names what its parameters, its request and its polling do. -/
theorem holds_method {catalogue : Catalogue} {method : Method} {service : ServiceMethod}
    {pages : Option Paging} {progress : Option Polling}
    (isBuilt : method.kind = Context.methodKind service pages progress)
    (parameters : AdmitsAll context catalogue method.parameters)
    (named : catalogue.Holds service.nodeIds)
    (polled : ∀ polling ∈ progress, catalogue.Holds polling.nodeIds) :
    catalogue.Holds method.nodeIds := by
  -- A method names what its parts name, whatever kind it is of.
  rw [Method.nodeIds, isBuilt, service?_methodKind, polling?_methodKind]
  refine parameters.names.append (Catalogue.Holds.append ?_
    (Catalogue.holds_flatMap fun polling isPolling =>
      polled polling (Option.mem_toList.mp isPolling)))
  simpa using named

/-- All that a method names is in range when it is built. -/
theorem buildMethod_conveys (operation : OperationId) (client : ContainerId) :
    Conveys (Advances context) (fun _ => True) (context.buildMethod operation client)
      fun method state => state.catalogue.Holds method.nodeIds := by
  unfold Context.buildMethod
  dsimp only
  have parameters (access : Access) := Conveys.filterMapM
    (context.definition.operationAt operation).parameters fun id _ =>
      @methodParameter?_conveys context operation client access id
  -- Parameters come first, then the HTTP operation, then what is handed back.
  refine (parameters _).onward (fun _ start => start) fun parameters => ?_
  refine (httpOperation_conveys operation client _ parameters).onward (fun _ known => known.2)
    fun result => ?_
  refine (methodResponse_conveys operation result.1.responses _).onward ?_ fun response => ?_
  · exact fun _ known => known.2.1.subset fun _ member => List.mem_append_right _
      (List.mem_append_left _ member)
  -- The way to the items of a page is gone through the catalogue as it is now.
  refine Conveys.get_bind fun current consistent known => ?_
  have paged : current.catalogue.Holds (((context.definition.operationAt operation).paging.map
      context.pagingOf).elim response fun pages =>
        pagedResponse current.catalogue pages response).type.toList := by
    cases (context.definition.operationAt operation).paging.map context.pagingOf with
    | none => exact known.2
    | some pages => exact pagedResponse_holds consistent.orderly known.2 pages
  -- What is handed back is now told apart from how it was found.
  generalize ((context.definition.operationAt operation).paging.map context.pagingOf).elim response
    (fun pages => pagedResponse current.catalogue pages response) = handed at paged ⊢
  refine Conveys.starting ?_ fun state _ start =>
    (⟨start.2.1.2, start.1 ▸ paged⟩ : (state.catalogue.Holds result.1.nodeIds ∧
      AdmitsAll context state.catalogue result.2) ∧ state.catalogue.Holds handed.type.toList)
  have done (progress : Option Polling) (state : State)
      (known : ((state.catalogue.Holds result.1.nodeIds ∧
        AdmitsAll context state.catalogue result.2) ∧ state.catalogue.Holds handed.type.toList) ∧
        ∀ polling ∈ progress, state.catalogue.Holds polling.nodeIds) :
      state.catalogue.Holds (ServiceMethod.nodeIds
        { operation := result.1, response := Context.polledResponse progress handed }) :=
    known.1.1.1.append (polledResponse_holds known.1.2 known.2)
  -- A method that is not long-running has nothing to poll.
  have nothing : Conveys (Advances context) (fun _ => True) (pure none : Derive (Option Polling))
      fun found state => ∀ progress ∈ found, state.catalogue.Holds progress.nodeIds :=
    Conveys.pure_none
  split
  · refine (polling?_conveys operation _ _ handed).onward (fun _ known => known.2) fun progress =>
      Conveys.pure fun state _ known => ?_
    exact holds_method rfl known.1.1.2 (done progress state known) known.2
  · refine nothing.onward (fun _ _ => trivial) fun progress => Conveys.pure fun state _ known => ?_
    exact holds_method rfl known.1.1.2 (done progress state known) known.2

/-- So it is when it is derived. -/
theorem method_conveys (operation : OperationId) (client : ContainerId) :
    Conveys (Advances context) (fun _ => True) (context.method operation client)
      fun method state => state.catalogue.Holds method.nodeIds :=
  -- The forms in which a method is wanted name nothing.
  (buildMethod_conveys operation client).method (fun _ _ _ => .note _ _) fun _ _ _ _ names => names

end Derivation

end ClientModel
