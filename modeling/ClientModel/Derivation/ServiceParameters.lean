import ClientModel.Derivation.Parameter

/-! The parameters that all clients of a service share: its endpoint and the credentials for it. -/

namespace ClientModel.Derivation

open Service (AuthScheme Info Server)

/-- The name of the parameter for an endpoint, and of the argument that a whole URL takes. -/
def endpointName : String := "endpoint"

/-- An endpoint with a whole URL as its only argument, which may have a default. -/
def wholeUrl (string : NodeId) (url : Option String) (rootId : String) : Endpoint :=
  { serverUrl := "\x7b" ++ endpointName ++ "\x7d"
    arguments :=
      [{ name := endpointName
         type := string
         role := .path false
         onClient := true
         isGeneratedName := true
         clientDefault := url.map .text
         crossId := rootId ++ ".endpoint" }] }

namespace Context

variable (context : Context)

/-- What the container of a service says about it. -/
def serviceAt (root : ContainerId) : Info :=
  ((context.definition.containerAt root).service).getD {}

/-- Derives an argument of a server template; one bound elsewhere than to a path is an error. -/
def serverArgument? (root : ContainerId) (id : PropertyId) : Derive (Option Property) := do
  let declared := context.definition.propertyAt id
  -- An argument without a binding belongs to the template of the URL.
  let isOnPath : Bool :=
    match declared.binding with
    | none | some (.path _) => true
    | _ => false
  if isOnPath then
    let type ← context.node declared.type
    let rootId := context.definition.fullName root
    let parameter := context.parameterOf id type (.path false) rootId root
    return some { parameter with serializedName := declared.name, onClient := true }
  reportError (.property id) Code.serverArgumentNotPath
    ("server parameter '" ++ declared.name ++ "' must be a path parameter")
  return none

/-- Derives the endpoints of a server; one that admits no other URL is followed by one that does. -/
def serverEndpoints (root : ContainerId) (string : NodeId) (server : Server) :
    Derive (List Endpoint) := do
  let rootId := context.definition.fullName root
  match ← server.arguments.filterMapM (context.serverArgument? root) with
  -- A template without arguments is the default of the whole URL.
  | [] => return [wholeUrl string (some server.url) rootId]
  | arguments =>
    let endpoint : Endpoint := { serverUrl := server.url, arguments }
    if endpoint.isOverridable then return [endpoint]
    else return [endpoint, wholeUrl string none rootId]

/-- Adds the type of an endpoint, a union if there are several templates for it. -/
def addEndpointType (root : ContainerId) (endpoints : List Endpoint) : Derive NodeId := do
  match ← endpoints.mapM fun endpoint => addNode { kind := .endpoint endpoint } with
  | [only] => return only
  | variants =>
    let name ← claimName (Text.pascalCase (context.definition.containerAt root).name ++ "Endpoint")
    let «namespace» := context.definition.namespaceOf root
    addNode
      { kind := .union
          { name := some name
            isGeneratedName := true
            «namespace»
            variants
            crossId := qualified «namespace» name } }

/-- The endpoint parameter of a service, derived when it is first asked for. -/
def endpointParameter (root : ContainerId) : Derive Property := do
  if let some parameter := (← get).endpoints.get? root then return parameter
  let string ← stringNode
  let rootId := context.definition.fullName root
  let declared ← (context.serviceAt root).servers.mapM (context.serverEndpoints root string)
  let endpoints := if declared.isEmpty then [wholeUrl string none rootId] else declared.flatten
  let parameter : Property :=
    { name := endpointName
      type := ← context.addEndpointType root endpoints
      role := .endpoint
      onClient := true
      isGeneratedName := true
      crossId := rootId ++ ".endpoint" }
  modify fun state => { state with endpoints := state.endpoints.insert root parameter }
  return parameter

/-- The credential parameter of a service, unless it is open to everyone; derived only once. -/
def credentialParameter? (root : ContainerId) : Derive (Option Property) := do
  if let some parameter := (← get).credentials.get? root then return parameter
  let auth := (context.serviceAt root).auth
  let schemes := auth.filter (· != .noAuth)
  let parameter ←
    if schemes.isEmpty then pure none
    else
      let type ← addNode { kind := .credential schemes }
      let parameter : Property :=
        { name := "credential"
          type
          role := .credential
          onClient := true
          isGeneratedName := true
          -- Where no credentials will do as well, they may be left out.
          optional := auth.contains .noAuth
          crossId := context.definition.fullName root ++ ".credential" }
      pure (some parameter)
  modify fun state => { state with credentials := state.credentials.insert root parameter }
  return parameter

end Context

end ClientModel.Derivation
