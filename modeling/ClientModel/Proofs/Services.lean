import ClientModel.Proofs.Holding

/-!
The parameters that all clients of a service share.

They are made when they are first asked for, and are the same ever after.
-/

namespace ClientModel.Derivation

open Service (Server)

variable {α β : Type} {context : Context}

/-- All of some endpoints name only nodes that are there. -/
def EndpointsHold (catalogue : Catalogue) (endpoints : List Endpoint) : Prop :=
  ∀ endpoint ∈ endpoints, catalogue.Holds (NodeKind.endpoint endpoint).nodeIds

instance {leads : State → State → Prop} [Growing leads] (endpoints : List Endpoint) :
    Lasts leads fun state => EndpointsHold state.catalogue endpoints :=
  .of_lasting fun _ _ holds grown endpoint listed => (holds endpoint listed).mono grown.size

/-- An endpoint that takes a whole URL names the node for texts. -/
theorem holds_wholeUrl {catalogue : Catalogue} {string : NodeId} (inside : catalogue.Holds [string])
    (url : Option String) (rootId : String) :
    catalogue.Holds (NodeKind.endpoint (wholeUrl string url rootId)).nodeIds :=
  inside

/-! ## Endpoints -/

/-- The argument of a server is derived with its type in the catalogue. -/
theorem serverArgument?_derives (root : ContainerId) (id : PropertyId) :
    Conveys (Derived context) (fun state => ∀ target, context.Ready target state)
      (context.serverArgument? root id)
      fun found state => ∀ argument ∈ found, state.catalogue.Holds argument.nodeIds := by
  -- The type of an argument is derived like any other.
  have node := (@node_derives context (context.definition.propertyAt id).type).ending
    fun type state orderly stands => orderly.inside _ _ stands
  -- An argument that is bound elsewhere than to a path is reported, and left out.
  have refused {message : String} : Conveys (Derived context)
      (fun state => ∀ target, context.Ready target state)
      (do
        reportError (.property id) Code.serverArgumentNotPath message
        return (none : Option Property))
      fun found state => ∀ argument ∈ found, state.catalogue.Holds argument.nodeIds :=
    Conveys.past (reportError_conveys (by decide)) (fun _ _ => trivial) fun _ =>
      Conveys.pure_none
  -- An argument of a path is a parameter of the client.
  have taken : Conveys (Derived context) (fun state => ∀ target, context.Ready target state)
      (do
        let type ← context.node (context.definition.propertyAt id).type
        let parameter := context.parameterOf id type (.path false)
          (context.definition.fullName root) root
        return some { parameter with
          serializedName := (context.definition.propertyAt id).name, onClient := true })
      fun found state => ∀ argument ∈ found, state.catalogue.Holds argument.nodeIds := by
    refine node.onward (fun _ ready => ready _) fun type =>
      Conveys.pure_some fun state _ known => ?_
    exact (@admits_parameterOf context _ type (Catalogue.holds_singleton.mpr known.2) id
      (.path false) (context.definition.fullName root) root).names
  unfold Context.serverArgument?
  dsimp only
  split
  · exact taken
  · exact taken
  · exact refused

/-- The endpoints of a server hold the nodes of their arguments. -/
theorem serverEndpoints_derives (root : ContainerId) (string : NodeId) (server : Server) :
    Conveys (Derived context) (fun state => state.catalogue.Holds [string] ∧
        ∀ target, context.Ready target state)
      (context.serverEndpoints root string server)
      fun endpoints state => EndpointsHold state.catalogue endpoints := by
  unfold Context.serverEndpoints
  have arguments := Conveys.filterMapM server.arguments fun id _ =>
    @serverArgument?_derives context root id
  refine arguments.onward (fun _ known => known.2) fun arguments => ?_
  -- A list of one endpoint names what the endpoint does.
  have single {catalogue : Catalogue} {endpoint : Endpoint}
      (holds : catalogue.Holds (NodeKind.endpoint endpoint).nodeIds) :
      EndpointsHold catalogue [endpoint] :=
    fun other listed => List.mem_singleton.mp listed ▸ holds
  -- A server may take a whole URL: always without arguments, and otherwise unless one covers it.
  split
  · exact Conveys.pure fun _ _ known => single (holds_wholeUrl known.1.1 _ _)
  · dsimp only
    split
    · exact Conveys.pure fun _ _ known => single (Catalogue.holds_flatMap known.2)
    · refine Conveys.pure fun _ _ known endpoint listed => ?_
      rcases List.mem_cons.mp listed with rfl | other
      · exact Catalogue.holds_flatMap known.2
      · exact single (holds_wholeUrl known.1.1 _ _) endpoint other

/-- The type of an endpoint is in the catalogue. -/
theorem addEndpointType_derives (root : ContainerId) (endpoints : List Endpoint) :
    Conveys (Derived context) (fun state => EndpointsHold state.catalogue endpoints)
      (context.addEndpointType root endpoints)
      fun node state => state.catalogue.Holds [node] := by
  unfold Context.addEndpointType
  have node (endpoint : Endpoint) : Conveys (Derived context)
      (fun state => state.catalogue.Holds (NodeKind.endpoint endpoint).nodeIds)
      (addNode { kind := .endpoint endpoint }) fun added state => state.catalogue.Holds [added] :=
    @addNode_derives context { kind := .endpoint endpoint } rfl (by simp)
  have nodes := Conveys.mapM endpoints fun endpoint listed =>
    (node endpoint).starting fun state _ (known : EndpointsHold state.catalogue endpoints) =>
      known endpoint listed
  refine (nodes.ending fun found state _ each => holds_of_forall₂ each).bind fun variants => ?_
  -- A single endpoint is the type itself, and several are a union.
  split
  · exact Conveys.pure fun _ _ known => known
  · refine (claimName_derives _).past (fun _ _ => trivial) fun name => ?_
    exact (addNode_derives rfl (by simp)).starting fun _ _ known => known

/-! ## Tables -/

/-- While nodes are derived, no endpoint is noted. -/
instance Lasts.no_endpoint (root : ContainerId) :
    Lasts (Derived context) fun state => state.endpoints.get? root = none :=
  ⟨fun before after none derived => by rwa [(path_notes derived.later.path).2.1]⟩

/-- While nodes are derived, no credential is noted. -/
instance Lasts.no_credential (root : ContainerId) :
    Lasts (Derived context) fun state => state.credentials.get? root = none :=
  ⟨fun before after none derived => by rwa [(path_notes derived.later.path).2.2]⟩

/-- The endpoint of a service stays the same. -/
instance Lasts.endpoint (root : ContainerId) (parameter : Property) :
    Lasts (Advances context) fun state => state.endpoints.get? root = some parameter :=
  ⟨fun _ _ known advances => advances.endpoints _ _ known⟩

/-- Nodes are derived before something is noted. -/
theorem Conveys.derive_onward {needed held : State → Prop} [Lasts (Derived context) held]
    {step : Derive α} {told : α → State → Prop} {next : α → Derive β} {told' : β → State → Prop}
    (first : Conveys (Derived context) needed step told)
    (has : ∀ state, Consistent context state → held state → needed state)
    (rest : ∀ value, Conveys (Advances context) (fun state => held state ∧ told value state)
      (next value) told') : Conveys (Advances context) held (step >>= next) told' :=
  (first.beside.advance fun state consistent holds =>
    ⟨holds, has state consistent holds⟩).bind rest

/-- The endpoint parameter of a service is the one that is noted for it. -/
theorem endpointParameter_conveys (root : ContainerId) :
    Conveys (Advances context) (fun _ => True) (context.endpointParameter root)
      fun parameter state => state.endpoints.get? root = some parameter := by
  unfold Context.endpointParameter
  refine Conveys.get_bind fun current consistent _ => ?_
  -- The endpoint was asked for before, or is made now.
  split
  · rename_i parameter known
    exact Conveys.pure fun state _ start => start.1 ▸ known
  · rename_i missing
    refine Conveys.starting ?_ fun state _ start =>
      (by rw [start.1]; exact Option.eq_none_iff_forall_ne_some.mpr missing :
        state.endpoints.get? root = none)
    refine stringNode_derives.derive_onward (fun _ _ _ => trivial) fun string => ?_
    -- Each server has endpoints of its own, all of which are put together.
    have servers := Conveys.mapM (context.serviceAt root).servers fun server _ =>
      @serverEndpoints_derives context root string server
    have declared := servers.ending fun declared state _ each =>
      (fun endpoint listed => by
        obtain ⟨found, isFound, inFound⟩ := List.mem_flatten.mp listed
        obtain ⟨_, _, holds⟩ := partner_of_mem each.flip isFound
        exact holds endpoint inFound : EndpointsHold state.catalogue declared.flatten)
    refine declared.derive_onward (fun _ consistent known => ⟨known.2, consistent.ready⟩)
      fun declared => ?_
    refine (addEndpointType_derives root _).derive_onward (fun state _ known => ?_) fun type => ?_
    · -- Without a server the endpoint takes a whole URL.
      split
      · exact fun endpoint listed =>
          List.mem_singleton.mp listed ▸ holds_wholeUrl known.1.2 none _
      · exact known.2
    -- What is made is noted for the service, which had no endpoint so far.
    · have noted (parameter : Property) : Conveys (Advances context) (fun state =>
          state.endpoints.get? root = none ∧ IsEndpoint context state.catalogue parameter)
          (do
            modify fun state => { state with endpoints := state.endpoints.insert root parameter }
            return parameter)
          fun parameter state => state.endpoints.get? root = some parameter :=
        Conveys.bind (Conveys.modify fun state _ known =>
          ⟨Advances.addEndpoint known.1 known.2, OrderedMap.get?_insert_self _ _ _⟩) fun _ =>
            Conveys.pure fun _ _ known => known
      exact (noted _).starting fun state _ known =>
        ⟨known.1.1.1, ⟨known.2, by simp, fun isVersion => by cases isVersion⟩, rfl, rfl, rfl⟩

/-- What is noted for a service is its credential parameter, if it has one. -/
theorem credentialParameter?_conveys (root : ContainerId) :
    Conveys (Advances context) (fun _ => True) (context.credentialParameter? root)
      fun found state => state.credentials.get? root = some found := by
  unfold Context.credentialParameter?
  refine Conveys.get_bind fun current consistent _ => ?_
  -- As with the endpoint, it may be there already.
  split
  · rename_i found known
    exact Conveys.pure fun state _ start => start.1 ▸ known
  · rename_i missing
    refine Conveys.starting ?_ fun state _ start =>
      (by rw [start.1]; exact Option.eq_none_iff_forall_ne_some.mpr missing :
        state.credentials.get? root = none)
    -- It is noted even if there is none, so that it is not looked for again.
    have noted (found : Option Property) : Conveys (Advances context) (fun state =>
        state.credentials.get? root = none ∧ IsCredential context state.catalogue root found)
        (do
          modify fun state => { state with credentials := state.credentials.insert root found }
          return found)
        fun found state => state.credentials.get? root = some found := by
      refine Conveys.bind (Conveys.modify fun state _ known =>
        ⟨Advances.addCredential known.1 known.2, OrderedMap.get?_insert_self _ _ _⟩) fun _ =>
          Conveys.pure fun _ _ known => known
    dsimp only
    split
    · rename_i everyone
      -- Without a scheme that asks for anything there is no credential.
      have without (state : State) : IsCredential context state.catalogue root none :=
        { wanted := by simpa [List.filter_eq_nil_iff] using everyone
          admits := by simp
          name := by simp
          role := by simp
          plain := by simp }
      exact (noted none).starting fun state _ unnoted => ⟨unnoted, without state⟩
    · rename_i guarded
      have type (schemes : List Service.AuthScheme) : Conveys (Derived context) (fun _ => True)
          (addNode { kind := .credential schemes })
          fun added state => state.catalogue.Holds [added] :=
        (addNode_derives rfl (by simp)).starting fun _ _ _ => by simp [NodeKind.nodeIds]
      refine (type _).derive_onward (fun _ _ _ => trivial) fun type => ?_
      refine (noted _).starting fun state _ known => ⟨known.1, ?_⟩
      exact
        { wanted := by simpa [List.filter_eq_nil_iff] using guarded
          admits := fun parameter isParameter => Option.some.inj isParameter ▸
            ⟨known.2, by simp, fun isVersion => by cases isVersion⟩
          name := fun parameter isParameter => Option.some.inj isParameter ▸ rfl
          role := fun parameter isParameter => Option.some.inj isParameter ▸ rfl
          plain := fun parameter isParameter => Option.some.inj isParameter ▸ rfl }

end ClientModel.Derivation
