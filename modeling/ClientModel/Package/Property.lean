import ClientModel.Ids
import ClientModel.Service.Literal

/-! Properties of derived models, and the parameters of methods, requests and clients. -/

namespace ClientModel

open Service (Literal)

/-- What a property is for. -/
inductive Role where
  /-- A member of a model, which may tell its subtypes apart. -/
  | member (discriminator : Bool)
  /-- A parameter of a method or of a client. -/
  | method
  | path (urlEncode : Bool)
  | query (explode : Bool)
  | header
  | body (contentTypes : List String) (defaultContentType : String)
  | endpoint
  | credential
  deriving DecidableEq

namespace Role

/-- The word for a role. -/
def label : Role → String
  | member _ => "property"
  | method => "method"
  | path _ => "path"
  | query _ => "query"
  | header => "header"
  | body _ _ => "body"
  | endpoint => "endpoint"
  | credential => "credential"

/-- The property travels in a request. -/
def isWire : Role → Bool
  | path _ | query _ | header | body _ _ => true
  | _ => false

end Role

/-- A property of a derived model, or a parameter. -/
structure Property where
  /-- The declaration it comes from, if it comes from one. -/
  origin : Option PropertyId := none
  /-- The name in the service definition. -/
  name : String
  /-- The name in clients. -/
  clientName : String := name
  /-- The name on the wire. -/
  serializedName : String := name
  /-- The model that it is a member of. -/
  owner : Option NodeId := none
  type : NodeId
  optional : Bool := false
  role : Role
  apiVersions : List String := []
  isApiVersion : Bool := false
  /-- Given once to the client and not to every call. -/
  onClient : Bool := false
  clientDefault : Option Literal := none
  isGeneratedName : Bool := false
  crossId : String := ""
  deprecation : Option String := none
  doc : Option String := none
  deriving DecidableEq

namespace Property

/-- The property is the body of a request. -/
def isBody (property : Property) : Bool :=
  match property.role with
  | .body _ _ => true
  | _ => false

/-- The property is a header. -/
def isHeader (property : Property) : Bool :=
  property.role == .header

/-- The property tells the subtypes of its model apart. -/
def isDiscriminator (property : Property) : Bool :=
  property.role == .member true

/-- The content types of a body; other properties have none. -/
def contentTypes (property : Property) : List String :=
  match property.role with
  | .body contentTypes _ => contentTypes
  | _ => []

end Property

/-- Where a parameter of a request takes its value from. -/
inductive Source where
  /-- A parameter of the method or of the client. -/
  | parameter (property : Property)
  /-- A member of such a parameter. -/
  | member (parent : Property) (name : String)
  deriving DecidableEq

namespace Source

/-- The parameter that the value is read from. -/
def root : Source → Property
  | .parameter property => property
  | .member parent _ => parent

/-- The way to the value, with a dot before a member. -/
def path : Source → String
  | .parameter property => property.name
  | .member parent name => parent.name ++ "." ++ name

end Source

/-- A parameter of a request, and where its value comes from. -/
structure WireParameter where
  property : Property
  sources : List Source
  deriving DecidableEq

end ClientModel
