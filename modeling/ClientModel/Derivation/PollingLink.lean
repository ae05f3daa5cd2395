import ClientModel.Derivation.StatusMonitor

/-!
Links between an operation that starts something long-running and the operation that polls for its
end.

Every parameter of the polling operation needs a source in the exchange that started it: one that a
directive names, or else the first one of its name in the request and after that in the responses.
Once all of them have one, the URL to poll and the status to wait for are looked up.
-/

namespace ClientModel.Derivation

open Service (Definition Directive Operation PollingDecl)

/-- A value in the initiating exchange that a polling parameter can take. -/
structure LinkSource where
  kind : LinkSourceKind
  name : String
  property : PropertyId
  /-- The polling parameter that the value was marked for. -/
  marker : Option String
  deriving DecidableEq

/-- The value suits a polling parameter: it has its name or was marked for it. -/
def LinkSource.fills (source : LinkSource) (target : String) : Bool :=
  source.name == target || source.marker == some target

/-- A parameter of a polling operation. -/
structure LinkTarget where
  name : String
  property : PropertyId
  deriving DecidableEq

/-- The source of every polling parameter that has one. -/
abbrev LinkMap := OrderedMap String PropertyMapping

/-- What ties an operation to the one that polls for its end. -/
structure Link where
  operation : OperationRef
  parameters : LinkMap
  url : Option PollingUrl
  monitor : Option StatusMonitor

/-- The mapping of a polling parameter to its source. -/
def LinkTarget.mappedTo (target : LinkTarget) (source : LinkSource) : PropertyMapping :=
  { sourceKind := source.kind
    source := source.name
    sourceProperty := source.property
    target := target.name
    targetProperty := target.property }

section

variable (definition : Definition)

/-- A property as a source. -/
def linkSource (kind : LinkSourceKind) (id : PropertyId) : LinkSource :=
  let declared := definition.propertyAt id
  { kind, name := declared.name, property := id, marker := declared.markers.pollingParameter }

/-- The sources of an operation: its parameters, its bodies, then its responses one by one. -/
def linkSources (operation : Operation) : List LinkSource :=
  operation.slots.map (fun slot => linkSource definition .requestParameter slot.property) ++
    operation.bodies.flatMap (fun body =>
      (definition.payloadMembers body.type).map (linkSource definition .requestBody)) ++
    operation.responses.flatMap fun response =>
      response.headers.map (linkSource definition .responseHeader) ++
        response.body.toList.flatMap fun body =>
          (definition.payloadMembers body.type).map (linkSource definition .responseBody)

/-- The parameters of a polling operation, those of its bodies last. -/
def linkTargets (operation : Operation) : List LinkTarget :=
  -- Parameters without a value are left out of the request, and need no source.
  let slots := operation.slots.filter fun slot =>
    !definition.isVoidLike (definition.propertyAt slot.property).type
  let properties := slots.map (·.property) ++
    operation.bodies.flatMap fun body => definition.payloadMembers body.type
  properties.map fun id => { name := (definition.propertyAt id).name, property := id }

end

/-- The source that a directive names. -/
def directedSource? (sources : List LinkSource) (directive : Directive) : Option LinkSource :=
  match directive.source with
  | .request name => sources.find? fun source => source.kind.isRequest && source.name == name
  | .response name => sources.find? fun source => !source.kind.isRequest && source.name == name

namespace Context

variable (context : Context)

/-- The name of an operation as it was declared. -/
def declaredName (id : OperationId) : String :=
  (context.definition.operationAt id).name

/-- Reports that the source which a directive names is not there. -/
def reportMissingSource (initiating : OperationId) (directive : Directive) : Derive Unit :=
  match directive.source with
  | .request name =>
    reportError (.operation initiating) Code.invalidRequestParameter
      ("'" ++ name ++ "' is not a request parameter of '" ++ context.declaredName initiating ++ "'")
  | .response name =>
    reportError (.operation initiating) Code.invalidResponseProperty
      ("'" ++ name ++ "' is not a response property of '" ++ context.declaredName initiating ++ "'")

/-- Follows a directive; one that makes no sense is reported and changes nothing. -/
def followDirective (initiating polling : OperationId) (sources : List LinkSource)
    (targets : List LinkTarget) (links : LinkMap) (directive : Directive) : Derive LinkMap := do
  match targets.find? fun target => target.name == directive.target with
  | none =>
    reportError (.operation initiating) Code.invalidLinkTarget
      ("'" ++ directive.target ++ "' is not a parameter of polling operation '" ++
        context.declaredName polling ++ "'")
    return links
  | some target =>
    -- The first directive for a parameter holds.
    if links.contains target.name then
      reportError (.operation initiating) Code.conflictingParameterMapping
        ("polling parameter '" ++ target.name ++ "' is mapped more than once")
      return links
    match directedSource? sources directive with
    | none =>
      context.reportMissingSource initiating directive
      return links
    | some source => return links.insert target.name (target.mappedTo source)

/-- Maps a polling parameter, unless it is mapped, to the first source that suits it. -/
def linkByName (sources : List LinkSource) (links : LinkMap) (target : LinkTarget) : LinkMap :=
  if links.contains target.name then links
  else
    match sources.find? fun source => source.fills target.name with
    | some source => links.insert target.name (target.mappedTo source)
    | none => links

/-- The source of every polling parameter; nothing, and a report, if one has none. -/
def linkMap? (initiating : OperationId) (declared : PollingDecl) : Derive (Option LinkMap) := do
  let definition := context.definition
  let polling := declared.operation
  let sources := linkSources definition (definition.operationAt initiating)
  let targets := linkTargets definition (definition.operationAt polling)
  let directed ←
    declared.directives.foldlM (context.followDirective initiating polling sources targets) {}
  -- Directives go before names.
  let links := targets.foldl (linkByName sources) directed
  let unmatched := targets.filter fun target => !links.contains target.name
  if unmatched.isEmpty then return some links
  reportWarning (.operation initiating) Code.invalidPollingLink
    ("no value found for polling parameter(s) " ++
      ", ".intercalate (unmatched.map LinkTarget.name) ++ " of '" ++
      context.declaredName polling ++ "'")
  return none

/-! ## The URL to poll -/

/-- The name of a header on the wire. -/
def headerName (id : PropertyId) : String :=
  let declared := context.definition.propertyAt id
  match declared.binding with
  | some (.header name) => name
  | _ => declared.name

/-- The property was marked to hold the URL to poll. -/
def isPollingLocation (id : PropertyId) : Bool :=
  (context.definition.propertyAt id).markers.pollingLocation

/--
Where the URL to poll is read from.

The header made for it goes before any property that was marked for it.
-/
def pollingUrl? (operation : OperationId) : Option PollingUrl :=
  let definition := context.definition
  let responses := (definition.operationAt operation).responses
  -- The customary header is looked for in all responses before any mark.
  let conventional := (responses.flatMap (·.headers)).find? fun header =>
    Text.sameIgnoringCase (context.headerName header) "operation-location"
  let marked (inHeader : Bool) (id : PropertyId) : PollingUrl :=
    { inHeader, name := (definition.propertyAt id).name, property := id }
  match conventional with
  | some header => some { inHeader := true, name := context.headerName header, property := header }
  | none =>
    responses.findSome? fun response =>
      match response.headers.find? context.isPollingLocation with
      | some header => some (marked true header)
      | none =>
        let members := (response.body.map fun body => definition.payloadMembers body.type).getD []
        (members.find? context.isPollingLocation).map (marked false)

/-! ## The whole link -/

/-- Links an operation to the one that polls for its end, if no polling parameter lacks a source. -/
def link? (initiating : OperationId) (declared : PollingDecl) (access : Access) :
    Derive (Option Link) := do
  match ← context.linkMap? initiating declared with
  | none => return none
  | some parameters =>
    return some {
      operation := context.operationRef declared.operation
      parameters
      url := context.pollingUrl? initiating
      monitor := ← context.statusMonitor? declared.operation access
    }

end Context

end ClientModel.Derivation
