import ClientModel.Derivation.ContentType
import ClientModel.Derivation.Nodes

/-! Parameters of methods, requests and clients, made from declared properties. -/

namespace ClientModel.Derivation

open Service (Location PropertyDecl)

/-- The name is one that parameters for the version of a service have. -/
def isVersionName (name : String) : Bool :=
  let folded := String.ofList (Text.asciiLower name.toList)
  Text.occurs "apiversion" folded || Text.occurs "api-version" folded

/-- The name is the one that parameters for a subscription have. -/
def isSubscriptionName (name : String) : Bool :=
  Text.sameIgnoringCase name "subscriptionId"

/-- The name of a declared parameter on the wire: that of its place in the request, if any. -/
def wireName (declared : PropertyDecl) : String :=
  match declared.binding with
  | some (.header name) | some (.query name) | some (.path name) => name
  | _ => declared.serializedName

/-- The role of a parameter at a place of a request. -/
def roleAt : Location → Role
  | .path => .path true
  | .query => .query false
  | .header => .header
  | .body => .body [ContentType.json] ContentType.json

namespace Context

variable (context : Context)

/-- Hands a parameter over to the client if it is the version of its service or a subscription. -/
def withClientFacts (client : ContainerId) (parameter : Property) : Property :=
  let parameter :=
    match context.definition.service? client with
    | none => parameter
    | some service =>
      let parameter := { parameter with apiVersions := service.apiVersions }
      -- A service without versions has nothing to select, whatever a parameter is called.
      if isVersionName parameter.name && !service.apiVersions.isEmpty then
        { parameter with
          isApiVersion := true
          onClient := true
          clientDefault := (context.options.selectedVersion service.apiVersions).map .text }
      else parameter
  if context.isResourceManaged client && isSubscriptionName parameter.name then
    { parameter with onClient := true }
  else parameter

/-- The parameter that a declared property makes. -/
def parameterOf (id : PropertyId) (type : NodeId) (role : Role) (ownerId : String)
    (client : ContainerId) : Property :=
  let declared := context.definition.propertyAt id
  context.withClientFacts client
    { origin := some id
      name := declared.name
      clientName := context.propertyName id
      serializedName := wireName declared
      type
      optional := declared.optional
      role
      clientDefault := declared.defaultValue
      crossId := ownerId ++ "." ++ declared.name
      deprecation := declared.deprecation
      doc := declared.doc }

/-- Derives a parameter of a request; a given place goes before the one it is bound to. -/
def requestParameter (operation : OperationId) (id : PropertyId) (location : Option Location)
    (client : ContainerId) : Derive Property := do
  let declared := context.definition.propertyAt id
  match location.or (declared.binding.bind (·.location?)) with
  | none =>
    throw (.unclassifiedParameter (context.definition.operationAt operation).name declared.name id)
  | some location =>
    -- The place decides on the role; the type is that of the declaration.
    let type ← context.node declared.type
    let ownerId := context.definition.operationCrossId operation
    return context.parameterOf id type (roleAt location) ownerId client

end Context

end ClientModel.Derivation
