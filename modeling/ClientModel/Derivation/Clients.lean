import ClientModel.Derivation.ClientTree
import ClientModel.Derivation.Methods
import ClientModel.Derivation.ServiceParameters

/-!
Clients and the parameters that they are made with.

Sub-clients are derived before the methods of their parent, so that the parent can take over the
parameters that were found to belong to them.
-/

namespace ClientModel.Derivation

namespace Context

variable (context : Context)

/-- How a client is made; a way that its place in the tree rules out is reported. -/
def initializationOf (container : ContainerId) (isRoot : Bool) : Derive Initialization := do
  let chosen := (context.choices.setup? container).bind (·.initialization)
  -- There is nobody above a root to make it, and a sub-client is reached through its parent.
  match isRoot, chosen with
  | true, none => return .individually
  | false, none => return .byParent
  | true, some ways =>
    if ways.isIndividual then return ways
    reportError (.container container) Code.invalidInitialization
      "a root client must be initialized individually"
    return .individually
  | false, some ways =>
    if ways.isByParent then return ways
    reportError (.container container) Code.invalidInitialization
      "a sub-client must be initializable by its parent"
    return .byParent

/-- Derives a parameter that was chosen for a client. -/
def customParameter (container : ContainerId) (id : PropertyId) : Derive Property := do
  let declared := context.definition.propertyAt id
  let type ← context.node declared.type
  let ownerId := context.definition.fullName container
  let parameter :=
    { context.parameterOf id type .method ownerId container with
      onClient := true
      serializedName := declared.name }
  -- It was asked for by name, so that no parameter in scope stands in for it.
  addClientParameter container parameter
  return parameter

/-- Derives a method; one that fails is reported and left out. -/
def methodOrReport (container : ContainerId) (operation : OperationId) :
    Derive (Option Method) := do
  match ← attempt (context.method operation container) with
  | .ok method => return some method
  | .error failure =>
    -- A fault of the derivation itself ends the run.
    if failure.endsRun then throw failure
    else
      report failure.diagnostic
      return none

/-- Derives the methods of some operations. -/
def methodsOf (container : ContainerId) (operations : List OperationId) : Derive (List Method) :=
  operations.filterMapM (context.methodOrReport container)

/-- The method that hands out a sub-client. -/
def accessor (crossId : String) (apiVersions : List String) (child : Client) : Method :=
  let name := "get" ++ Text.pascalCase child.name
  { name
    origin := none
    access := .everyone
    parameters := []
    apiVersions
    crossId := crossId ++ "." ++ name
    deprecation := none
    isConvenient := false
    isProtocol := false
    kind := .accessor child.name }

/-- The parameters, and after them those others whose name none before has. -/
def withOthers (parameters others : List Property) : List Property :=
  others.foldl
    (fun all other =>
      if all.any fun parameter => parameter.name == other.name then all else all ++ [other])
    parameters

/-- The parameters that a client is made with. -/
def initializationParameters (container : ContainerId) (children : List Client)
    (custom : List Property) : Derive (List Property) := do
  match context.definition.serviceRoot? container with
  | none => return custom
  | some root =>
    let endpoint ← context.endpointParameter root
    let credential ← context.credentialParameter? root
    -- What the methods of this client and of those below it asked for is known by now.
    let own := ((← get).clientParameters.get? container).getD []
    let inherited := children.flatMap fun child => child.initialization.parameters
    let version := (own ++ inherited).find? (·.isApiVersion)
    let subscription :=
      if context.isResourceManaged container then
        (own ++ inherited).find? (isSubscriptionName ·.name)
      else none
    return withOthers
      ([endpoint] ++ credential.toList ++ version.toList ++ subscription.toList) (custom ++ own)

/-- The name in clients of a container below another. -/
def groupName (container : ContainerId) : String :=
  context.nameOf (.container container) (context.definition.containerAt container).name

/-- The name of a client without a parent; unless it was chosen, it ends in a fixed word. -/
def rootName (root : RootClient) : String :=
  let declared := (context.definition.containerAt root.container).name
  ((root.name).or (context.choices.clientName? (.container root.container))).getD
    (if Text.ends "Client" declared then declared else declared ++ "Client")

mutual

/-- Derives a client and its sub-clients. -/
def clientOf (isRoot : Bool) (name : String) : ClientTree → Derive Client
  | .node container groups => do
    let definition := context.definition
    let initializedBy ← context.initializationOf container isRoot
    let chosen := ((context.choices.setup? container).map (·.parameters)).getD []
    -- Chosen parameters go first, so that methods find them in scope.
    let custom ← chosen.mapM (context.customParameter container)
    let children ← clientsOf groups
    let methods ← context.methodsOf container (context.operationsOf container)
    let crossId := definition.fullName container
    let apiVersions := ((definition.service? container).map (·.apiVersions)).getD []
    -- A sub-client that is only made on its own needs no accessor.
    let handedOut := children.filter fun child => child.initialization.initializedBy.isByParent
    let parameters ← context.initializationParameters container children custom
    return {
      name
      «namespace» := definition.namespaceOf container
      origin := container
      crossId
      apiVersions
      initialization := { name := name ++ "Options", initializedBy, parameters }
      methods := methods ++ handedOut.map (accessor crossId apiVersions)
      children
    }

/-- Derives sub-clients, one after the other. -/
def clientsOf : List ClientTree → Derive (List Client)
  | [] => return []
  | group :: rest => do
    let client ← clientOf false (context.groupName group.container) group
    return client :: (← clientsOf rest)

end

/-- Derives a client without a parent. -/
def rootClient (root : RootClient) : Derive Client :=
  context.clientOf true (context.rootName root) (context.clientTree root.container)

end Context

end ClientModel.Derivation
