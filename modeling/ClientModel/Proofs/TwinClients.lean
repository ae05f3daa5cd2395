import ClientModel.Proofs.TwinMethods

/-!
Clients in two runs that are given almost the same.

They come out the same, tree by tree, but for whether methods are wanted on typed values.
-/

namespace ClientModel

namespace Client

/-! ## Methods of all clients -/

mutual

/-- Changes the methods of a client and of all clients below it. -/
def mapMethods (change : Method → Method) : Client → Client
  | ⟨name, «namespace», origin, crossId, apiVersions, initialization, methods, children⟩ =>
    ⟨name, «namespace», origin, crossId, apiVersions, initialization, methods.map change,
      mapMethodsAll change children⟩

/-- Changes the methods of some clients and of all clients below them. -/
def mapMethodsAll (change : Method → Method) : List Client → List Client
  | [] => []
  | client :: rest => mapMethods change client :: mapMethodsAll change rest

end

variable {change : Method → Method}

/-- All methods of some clients are changed client by client. -/
theorem mapMethodsAll_eq (clients : List Client) :
    mapMethodsAll change clients = clients.map (mapMethods change) := by
  -- By induction on the clients, as the function is defined.
  induction clients with
  | nil => rfl
  | cons client rest ih => rw [mapMethodsAll, ih, List.map_cons]

/-- A client keeps its name when its methods change. -/
@[simp] theorem name_mapMethods (client : Client) :
    (client.mapMethods change).name = client.name := by
  cases client
  rfl

/-- A client keeps its namespace when its methods change. -/
@[simp] theorem namespace_mapMethods (client : Client) :
    (client.mapMethods change).namespace = client.namespace := by
  cases client
  rfl

/-- A client keeps its initialization when its methods change. -/
@[simp] theorem initialization_mapMethods (client : Client) :
    (client.mapMethods change).initialization = client.initialization := by
  cases client
  rfl

mutual

/-- Methods that are left as they are leave the client as it is. -/
theorem mapMethods_id : (client : Client) → client.mapMethods id = client
  | ⟨_, _, _, _, _, _, methods, children⟩ => by
    rw [mapMethods, List.map_id, mapMethodsAll_id children]

/-- Methods that are left as they are leave all clients as they are. -/
theorem mapMethodsAll_id : (clients : List Client) → mapMethodsAll id clients = clients
  | [] => rfl
  | client :: rest => by rw [mapMethodsAll, mapMethods_id client, mapMethodsAll_id rest]

end

end Client

namespace Derivation

open Service (Server)

variable {α β : Type} {slack : Slack} {context other : Context} {left right : State}

/-- A client is handed out by its name alone. -/
theorem Context.accessor_mapMethods (crossId : String) (apiVersions : List String)
    (change : Method → Method) (child : Client) :
    Context.accessor crossId apiVersions (child.mapMethods change) =
      Context.accessor crossId apiVersions child := by
  rw [Context.accessor, Client.name_mapMethods, Context.accessor]

/-- The methods that hand out clients are wanted alike. -/
theorem Slack.adapt_accessor (crossId : String) (apiVersions : List String) (child : Client) :
    slack.adapt (Context.accessor crossId apiVersions child) =
      Context.accessor crossId apiVersions child :=
  rfl

/-- Where every operation is wanted no method is adapted. -/
theorem Slack.adapt_eq_id (wanted : ∀ operation, slack.quiet operation = false) :
    slack.adapt = id := by
  -- Only methods of operations that are not wanted are adapted.
  funext method
  obtain ⟨name, origin, access, parameters, apiVersions, crossId, deprecation, isConvenient,
    isProtocol, kind⟩ := method
  cases origin <;> simp [Slack.adapt, wanted]

namespace Pair

section

variable (sibling : Sibling slack context other)
include sibling

/-! ## Services -/

/-- The same argument is made for a server. -/
theorem serverArgument? (root : ContainerId) (id : PropertyId) :
    Pair (Twin slack) Eq (context.serverArgument? root id) (other.serverArgument? root id) := by
  unfold Context.serverArgument?
  rw [sibling.alike.propertyAt, sibling.alike.fullName, sibling.parameterOf]
  -- An argument elsewhere than on the path is reported in both runs.
  refine Pair.ite (fun _ => ?_) fun _ => ?_
  · exact (Pair.node sibling _).bind_same fun type => Pair.pure rfl
  · exact (Pair.reportError _ _ _).bind_same fun _ => Pair.pure rfl

/-- The same endpoints are made for a server. -/
theorem serverEndpoints (root : ContainerId) (string : NodeId) (server : Server) :
    Pair (Twin slack) Eq (context.serverEndpoints root string server)
      (other.serverEndpoints root string server) := by
  unfold Context.serverEndpoints
  rw [sibling.alike.fullName]
  refine Pair.bind_same (Pair.filterMapM_same _ fun id _ =>
    Pair.serverArgument? sibling root id) fun arguments => ?_
  -- With the same arguments both runs come to the same endpoints.
  split
  · exact Pair.pure rfl
  · exact Pair.ite (fun _ => Pair.pure rfl) fun _ => Pair.pure rfl

/-- Endpoints have the same type. -/
theorem addEndpointType (root : ContainerId) (endpoints : List Endpoint) :
    Pair (Twin slack) Eq (context.addEndpointType root endpoints)
      (other.addEndpointType root endpoints) := by
  unfold Context.addEndpointType
  rw [sibling.alike.containerAt, sibling.alike.namespaceOf]
  refine Pair.bind_same (Pair.mapM_same _ fun endpoint _ => Pair.addNode_same _) fun variants => ?_
  -- The union may have another name, but it is the same node.
  split
  · exact Pair.pure rfl
  · refine (Pair.claimName _).bind fun name name' same => Pair.addNode ?_
    exact ⟨rfl, same.imp fun equal => by rw [equal]⟩

/-- The same endpoint parameter is made. -/
theorem endpointParameter (root : ContainerId) :
    Pair (Twin slack) Eq (context.endpointParameter root) (other.endpointParameter root) := by
  unfold Context.endpointParameter
  rw [sibling.alike.fullName, sibling.serviceAt]
  refine Pair.look fun left right twin => ?_
  rw [twin.endpoints]
  -- Both runs have looked at the root before, or neither has.
  split
  · exact Pair.pure rfl
  · refine Pair.stringNode.bind_same fun string => ?_
    refine Pair.bind_same (Pair.mapM_same _ fun server _ =>
      Pair.serverEndpoints sibling root string server) fun declared => ?_
    refine (Pair.addEndpointType sibling root _).bind_same fun type => ?_
    refine Pair.bind_same (Pair.modify fun left right twin => ?_) fun _ => Pair.pure rfl
    exact { twin with endpoints := by rw [twin.endpoints] }

/-- The same credential parameter is made, or none. -/
theorem credentialParameter? (root : ContainerId) :
    Pair (Twin slack) Eq (context.credentialParameter? root) (other.credentialParameter? root) := by
  have noted (parameter : Option Property) : Pair (Twin slack) Eq
      (MonadState.modifyGet fun state =>
        ((), { state with credentials := state.credentials.insert root parameter }) : Derive Unit)
      (MonadState.modifyGet fun state =>
        ((), { state with credentials := state.credentials.insert root parameter })) :=
    Pair.modify fun left right twin => { twin with credentials := by rw [twin.credentials] }
  unfold Context.credentialParameter?
  dsimp only
  rw [sibling.alike.fullName, sibling.serviceAt]
  refine Pair.look fun left right twin => ?_
  rw [twin.credentials]
  -- Both runs have looked at the root before, or neither has.
  split
  · exact Pair.pure rfl
  · refine Pair.ite (fun _ => ?_) fun _ => ?_
    · exact (noted none).bind_same fun _ => Pair.pure rfl
    · refine (Pair.addNode_same _).bind_same fun type => ?_
      exact (noted _).bind_same fun _ => Pair.pure rfl

/-! ## Parameters of clients -/

/-- Clients are initialized alike. -/
theorem initializationOf (container : ContainerId) (isRoot : Bool) :
    Pair (Twin slack) Eq (context.initializationOf container isRoot)
      (other.initializationOf container isRoot) := by
  unfold Context.initializationOf
  rw [sibling.setup?]
  dsimp only
  -- The same was chosen, and what is invalid is reported in both runs.
  split
  · exact Pair.pure rfl
  · exact Pair.pure rfl
  · refine Pair.ite (fun _ => Pair.pure rfl) fun _ => ?_
    exact (Pair.reportError _ _ _).bind_same fun _ => Pair.pure rfl
  · refine Pair.ite (fun _ => Pair.pure rfl) fun _ => ?_
    exact (Pair.reportError _ _ _).bind_same fun _ => Pair.pure rfl

/-- The same parameter is made for a client's own. -/
theorem customParameter (container : ContainerId) (id : PropertyId) :
    Pair (Twin slack) Eq (context.customParameter container id)
      (other.customParameter container id) := by
  -- The node and the parameter are the same, and the client takes it in both runs.
  unfold Context.customParameter
  rw [sibling.alike.propertyAt, sibling.alike.fullName, sibling.parameterOf]
  refine (Pair.node sibling _).bind_same fun type => ?_
  refine Pair.bind_same (Pair.modify fun left right twin => ?_) fun _ => Pair.pure rfl
  exact { twin with clientParameters := by rw [twin.clientParameters] }

/-- The parameters of a client are the same, if those of its sub-clients are. -/
theorem initializationParameters (container : ContainerId) {children children' : List Client}
    (same : children'.map Client.initialization = children.map Client.initialization)
    (custom : List Property) :
    Pair (Twin slack) Eq (context.initializationParameters container children custom)
      (other.initializationParameters container children' custom) := by
  have inherited : (children'.flatMap fun child => child.initialization.parameters) =
      children.flatMap fun child => child.initialization.parameters := by
    have bare (clients : List Client) : (clients.flatMap fun child =>
        child.initialization.parameters) = (clients.map Client.initialization).flatMap
          ClientInitialization.parameters := by
      rw [List.flatMap_map]
    rw [bare, same, ← bare]
  unfold Context.initializationParameters
  rw [sibling.alike.serviceRoot?, sibling.isResourceManaged, inherited]
  -- Outside of a service there are only those of its own.
  split
  · exact Pair.pure rfl
  · refine (Pair.endpointParameter sibling _).bind_same fun endpoint => ?_
    refine (Pair.credentialParameter? sibling _).bind_same fun credential => ?_
    refine Pair.look fun left right twin => ?_
    rw [twin.clientParameters]
    exact Pair.pure rfl

/-! ## Clients -/

/-- A method that fails in one run fails in the other, and is reported alike. -/
theorem methodOrReport (container : ContainerId) (operation : OperationId) :
    Pair (Twin slack) (fun one two => two = one.map slack.adapt)
      (context.methodOrReport container operation) (other.methodOrReport container operation) := by
  unfold Context.methodOrReport
  refine (Pair.method sibling operation container).attempt (fun method method' same => ?_)
    fun failure left right states => ?_
  · -- A failure that ends one run ends the other; any other one is reported in both.
    exact Pair.pure (by rw [same, Option.map_some])
  · dsimp only
    by_cases ends : failure.endsRun = true
    · rw [if_pos ends]
      exact .error fun isOwn => states isOwn
    · rw [if_neg ends]
      have reported : Pair (Twin slack) (fun one two => two = one.map slack.adapt)
          (do Derivation.report failure.diagnostic; return none)
          (do Derivation.report failure.diagnostic; return none) :=
        (Pair.report failure.diagnostic).bind_same fun _ => Pair.pure rfl
      exact reported left right (states (by simpa using ends))

/-- Methods come out the same, but for the slack. -/
theorem methodsOf (container : ContainerId) (operations : List OperationId) :
    Pair (Twin slack) (fun one two => two = one.map slack.adapt)
      (context.methodsOf container operations) (other.methodsOf container operations) :=
  Pair.filterMapM operations fun operation _ => Pair.methodOrReport sibling container operation

end

mutual

/-- A client comes out the same, but for the slack of its methods. -/
theorem clientOf (sibling : Sibling slack context other) (isRoot : Bool) (name : String) :
    (tree : ClientTree) → Pair (Twin slack) (fun one two => two = one.mapMethods slack.adapt)
      (context.clientOf isRoot name tree) (other.clientOf isRoot name tree)
  | .node container groups => by
    unfold Context.clientOf
    dsimp only
    rw [sibling.setup?, sibling.alike.fullName, sibling.alike.service?, sibling.alike.namespaceOf,
      sibling.operationsOf]
    -- Step by step: initialization, custom parameters, sub-clients, methods and parameters.
    refine (Pair.initializationOf sibling container isRoot).bind_same fun ways => ?_
    refine Pair.bind_same (Pair.mapM_same _ fun id _ =>
      Pair.customParameter sibling container id) fun custom => ?_
    refine (clientsOf sibling groups).bind fun children children' below => ?_
    refine (Pair.methodsOf sibling container _).bind fun methods methods' own => ?_
    subst below own
    have inits : (Client.mapMethodsAll slack.adapt children).map Client.initialization =
        children.map Client.initialization := by
      rw [Client.mapMethodsAll_eq, List.map_map]
      exact List.map_congr_left fun child _ => child.initialization_mapMethods
    refine (Pair.initializationParameters sibling container inits custom).bind_same
      fun parameters => Pair.pure ?_
    -- Accessors are for the same clients, by the same names.
    rw [Client.mapMethods, List.map_append, List.map_map, Client.mapMethodsAll_eq, List.filter_map,
      List.map_map]
    simp only [Function.comp_def, Client.initialization_mapMethods, Context.accessor_mapMethods,
      Slack.adapt_accessor]

/-- Clients come out the same, but for the slack of their methods. -/
theorem clientsOf (sibling : Sibling slack context other) :
    (trees : List ClientTree) → Pair (Twin slack)
      (fun one two => two = Client.mapMethodsAll slack.adapt one)
      (context.clientsOf trees) (other.clientsOf trees)
  | [] => by
    unfold Context.clientsOf
    exact Pair.pure rfl
  | group :: rest => by
    unfold Context.clientsOf
    rw [sibling.groupName]
    -- The first tree is derived before the others.
    refine (clientOf sibling false _ group).bind fun client client' same => ?_
    refine (clientsOf sibling rest).bind fun clients clients' others => Pair.pure ?_
    rw [same, others, Client.mapMethodsAll]

end

section

variable (sibling : Sibling slack context other)
include sibling

/-- The client of a root comes out the same, but for the slack. -/
theorem rootClient (root : RootClient) :
    Pair (Twin slack) (fun one two => two = one.mapMethods slack.adapt)
      (context.rootClient root) (other.rootClient root) := by
  -- The tree below the root is the same in both runs.
  unfold Context.rootClient
  rw [sibling.rootName, sibling.clientTree]
  exact Pair.clientOf sibling true _ _

/-- The same types are orphans. -/
theorem orphans : Pair (Twin slack) Eq context.orphans other.orphans := by
  -- What is chosen for types is the same, so the same orphans are derived, in the same order.
  unfold Context.orphans
  rw [sibling.alike.orphanTypes, sibling.usage?, sibling.access?]
  refine Pair.bind_same (Pair.forIn _ (fun type _ _ => ?_) _) fun _ => Pair.pure rfl
  refine Pair.ite (fun _ => ?_) fun _ => Pair.pure rfl
  exact (Pair.node sibling type).bind_same fun _ => Pair.pure rfl

/-- Two runs that are given almost the same derive the same clients, but for the slack. -/
theorem clients :
    Pair (Twin slack) (fun one two => two = one.map (Client.mapMethods slack.adapt))
      context.clients other.clients := by
  unfold Context.clients
  rw [sibling.rootClients]
  refine Pair.bind (Pair.mapM _ fun root _ => Pair.rootClient sibling root)
    fun clients clients' same => ?_
  refine (Pair.orphans sibling).bind_same fun _ => Pair.pure ?_
  -- By induction on the clients, which are the same one by one.
  induction same with
  | nil => rfl
  | cons first _ ih => rw [first, ih, List.map_cons]

end

end Pair

end Derivation

end ClientModel
