import ClientModel.Service.Type

/-! Declarations of properties: members of models, parameters, headers and server arguments. -/

namespace ClientModel.Service

/-- Where a property goes in an HTTP message. -/
inductive Binding where
  | header (name : String)
  | query (name : String)
  | path (name : String)
  | body
  /-- The value of the property is the whole body and not a member of it. -/
  | bodyRoot
  | statusCode
  deriving DecidableEq

/-- Headers, queries, paths and status codes belong to the envelope and not to the payload. -/
def Binding.isMetadata : Binding → Bool
  | header _ | query _ | path _ | statusCode => true
  | body | bodyRoot => false

/-- What a property means to a long-running operation. -/
structure PollingMarkers where
  status : Bool := false
  result : Bool := false
  errorResult : Bool := false
  pollingLocation : Bool := false
  /-- The parameter of the polling operation that takes this property's value. -/
  pollingParameter : Option String := none
  deriving DecidableEq

/-- A property declaration. -/
structure PropertyDecl where
  name : String
  /-- The model that the property is a member of; parameters are members of none. -/
  model : Option TypeId := none
  type : TypeId
  optional : Bool := false
  binding : Option Binding := none
  /-- The property that this one was copied from. -/
  source : Option PropertyId := none
  /-- The name in a payload, where it differs. -/
  wireName : Option String := none
  defaultValue : Option Literal := none
  markers : PollingMarkers := {}
  deprecation : Option String := none
  doc : Option String := none
  deriving DecidableEq

namespace PropertyDecl

/-- The property belongs to the envelope of a message. -/
def isMetadata (property : PropertyDecl) : Bool :=
  property.binding.any Binding.isMetadata

/-- The name of the property in a payload. -/
def serializedName (property : PropertyDecl) : String :=
  property.wireName.getD property.name

end PropertyDecl

end ClientModel.Service
