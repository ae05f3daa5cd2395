import ClientModel.Derivation.Http
import ClientModel.Derivation.PollingLink

/-! The methods of clients: what they take, what they hand back, and how they come to an end. -/

namespace ClientModel.Derivation

open Service (PagingDecl PollingDecl)

/-- The type at the end of a way through properties, each given by either of its names. -/
def typeAlong (catalogue : Catalogue) (type : NodeId) : List String → Option NodeId
  | [] => some type
  | segment :: rest => do
    let model ← catalogue.model? type
    -- The name on the wire and the declared name may differ; either will do.
    let property ← model.properties.find? fun property =>
      property.serializedName == segment || property.name == segment
    typeAlong catalogue property.type rest

/-- What a method on pages hands back: the items, if the way to them can be gone. -/
def pagedResponse (catalogue : Catalogue) (pages : Paging) (response : MethodResponse) :
    MethodResponse :=
  match response.type.bind fun type => typeAlong catalogue type pages.itemSegments with
  | some items => { type := some items, resultSegments := some pages.itemSegments }
  | none => response

/-- The types that successes carry, each once and in order. -/
def successTypes (responses : ResponseMap) : List NodeId :=
  (responses.values.filterMap HttpResponse.type).foldl
    (fun types type => if types.contains type then types else types ++ [type]) []

namespace Context

variable (context : Context)

/-! ## Parameters -/

/-- Derives a parameter of a method, unless it carries no value or clients take it. -/
def methodParameter? (operation : OperationId) (client : ContainerId) (access : Access)
    (id : PropertyId) : Derive (Option Property) := do
  let declared := context.definition.propertyAt id
  if context.definition.isVoidLike declared.type then return none
  let type ← context.node declared.type
  let ownerId := context.definition.operationCrossId operation
  let parameter :=
    { context.parameterOf id type .method ownerId client with
      serializedName := declared.name
      apiVersions := context.operationVersions operation }
  -- What the client takes is asked for once, when the client is made.
  if parameter.onClient then
    context.elevate client parameter
    return none
  -- A parameter of a client around this one goes before that of the method.
  if (← context.parametersInScope client).any fun other => other.name == parameter.name then
    return none
  addSeed type .input access
  return some parameter

/-! ## Responses -/

/-- Adds the union of the types that the successes of an operation carry. -/
def addResponseUnion (operation : OperationId) (access : Access) (variants : List NodeId) :
    Derive NodeId := do
  let declared := context.definition.operationAt operation
  let name ← claimName (Text.pascalCase declared.name ++ "Response")
  let «namespace» := context.definition.namespaceOf declared.container
  let node ← addNode
    { kind := .union
        { name := some name
          isGeneratedName := true
          «namespace»
          variants
          crossId := qualified «namespace» name } }
  -- Only clients know of the union, so that no response notes it.
  addSeed node .output access
  return node

/-- The type that successes carry: the only one there is, or the union of them all. -/
def successType? (operation : OperationId) (access : Access) :
    List NodeId → Derive (Option NodeId)
  | [] => return none
  | [only] => return some only
  | types => some <$> context.addResponseUnion operation access types

/-- What a method hands back; null stands for a success that carries nothing beside others. -/
def methodResponse (operation : OperationId) (responses : ResponseMap) (access : Access) :
    Derive MethodResponse := do
  let hasEmpty := responses.values.any fun response => response.type.isNone
  match ← context.successType? operation access (successTypes responses) with
  | none => return {}
  | some type =>
    -- A type that admits null already stays as it is.
    if hasEmpty && !(← nodeAt type).nullable then
      let orNull ← addNode { nullable := true, kind := .union { variants := [type] } }
      return { type := some orNull }
    else return { type := some type }

/-! ## Pages and polling -/

/-- The pages that an operation declares. -/
def pagingOf (declared : PagingDecl) : Paging :=
  { itemSegments := declared.itemSegments
    nextLinkSegments := declared.nextLinkSegments
    nextLinkOperation := declared.nextLinkOperation.map context.operationRef }

/-- Derives how a long-running operation is followed; what is missing is reported. -/
def polling? (operation : OperationId) (declared : PollingDecl) (access : Access)
    (response : MethodResponse) : Derive (Option Polling) := do
  match ← context.link? operation declared access with
  | none => return none
  | some link =>
    match link.monitor with
    | none =>
      reportWarning (.operation operation) Code.pollingStatusMissing
        ("polling operation '" ++ context.declaredName declared.operation ++
          "' has no recognizable status property with terminal states")
      return none
    | some monitor =>
      return some {
        initialOperation := context.operationRef operation
        pollingOperation := link.operation
        parameters := link.parameters
        url := link.url
        monitor
        finalResult := (monitor.success.map MonitorProperty.type).or response.type
      }

/-- What a method hands back at the end of polling: the success property of the monitor, if any. -/
def polledResponse (polling : Option Polling) (response : MethodResponse) : MethodResponse :=
  match polling with
  | none => response
  | some progress =>
    match progress.monitor.success with
    | none => response
    | some success =>
      { type := progress.finalResult, resultSegments := some [success.serializedName] }

/-! ## Methods -/

/-- What a method does. -/
def methodKind (method : ServiceMethod) : Option Paging → Option Polling → MethodKind
  | some pages, some progress => .pollingPaging method pages progress
  | none, some progress => .polling method progress
  | some pages, none => .paging method pages
  | none, none => .basic method

/-- Derives a method without regard to the forms in which it is wanted. -/
def buildMethod (operation : OperationId) (client : ContainerId) : Derive Method := do
  let declared := context.definition.operationAt operation
  let access := (context.choices.access? (.operation operation)).getD .everyone
  let parameters ←
    declared.parameters.filterMapM (context.methodParameter? operation client access)
  let (http, parameters) ← context.httpOperation operation client access parameters
  let response ← context.methodResponse operation http.responses access
  let pages := declared.paging.map context.pagingOf
  let catalogue := (← get).catalogue
  -- Pages change what is handed back before polling is looked at, which may change it again.
  let response := pages.elim response fun pages => pagedResponse catalogue pages response
  let progress ←
    match declared.polling with
    | some polling => context.polling? operation polling access response
    | none => pure none
  let method : ServiceMethod := { operation := http, response := polledResponse progress response }
  return {
    name := context.operationName operation
    origin := some operation
    access
    parameters
    apiVersions := context.operationVersions operation
    crossId := context.definition.operationCrossId operation
    deprecation := declared.deprecation
    isConvenient := true
    isProtocol := true
    kind := methodKind method pages progress
  }

/-- Derives a method; types are not used by one that is not wanted on typed values. -/
def method (operation : OperationId) (client : ContainerId) : Derive Method := do
  let isConvenient :=
    (context.choices.convenientMethod? operation).getD context.options.convenientMethods
  let isProtocol :=
    (context.choices.protocolMethod? operation).getD context.options.protocolMethods
  -- Nodes stay even if the method fails; notes on usage may be taken back.
  let mark := (← get).usageMark
  let outcome ← attempt (context.buildMethod operation client)
  unless isConvenient do discardUsageSince mark
  match outcome with
  | .ok method => return { method with isConvenient, isProtocol }
  | .error failure => throw failure

end Context

end ClientModel.Derivation
