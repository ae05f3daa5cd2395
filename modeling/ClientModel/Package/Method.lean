import ClientModel.OrderedMap
import ClientModel.Usage
import ClientModel.Package.Property
import ClientModel.Service.Operation
import ClientModel.Text.Ascii

/-! Methods of clients, and the HTTP operations behind them. -/

namespace ClientModel

open Service (Statuses Verb)

/-- A header of a response. -/
structure ResponseHeader where
  origin : Option PropertyId
  name : String
  serializedName : String
  type : NodeId

/-- A response of an HTTP operation. -/
structure HttpResponse where
  type : Option NodeId
  headers : List ResponseHeader
  contentTypes : List String
  defaultContentType : Option String
  description : Option String

/-- Responses by the status codes they cover. -/
abbrev ResponseMap := OrderedMap Statuses HttpResponse

/-- What a method sends and may receive. -/
structure HttpOperation where
  origin : OperationId
  verb : Verb
  path : String
  /-- The parameters of the request other than its body. -/
  parameters : List WireParameter
  body : Option WireParameter
  responses : ResponseMap
  exceptions : ResponseMap

namespace HttpOperation

/-- The parameter with a name on the wire, whatever the case of its letters; bodies do not count. -/
def parameter? (operation : HttpOperation) (serializedName : String) : Option WireParameter :=
  operation.parameters.find? fun parameter =>
    Text.sameIgnoringCase parameter.property.serializedName serializedName

/-- Everything that goes into the request, the body last. -/
def wireParameters (operation : HttpOperation) : List WireParameter :=
  operation.parameters ++ operation.body.toList

end HttpOperation

/-- What a method hands back to its caller. -/
structure MethodResponse where
  type : Option NodeId := none
  /-- The names that lead from the payload to the value handed back. -/
  resultSegments : Option (List String) := none

/-- A reference to an operation. -/
structure OperationRef where
  origin : OperationId
  name : String
  crossId : String

/-- The pages of a method. -/
structure Paging where
  itemSegments : List String
  nextLinkSegments : Option (List String)
  nextLinkOperation : Option OperationRef

/-- The part of the initiating exchange that a polling parameter takes its value from. -/
inductive LinkSourceKind where
  | requestParameter
  | requestBody
  | responseHeader
  | responseBody
  deriving DecidableEq

namespace LinkSourceKind

/-- The word for a part of the exchange. -/
def label : LinkSourceKind → String
  | requestParameter => "RequestParameter"
  | requestBody => "RequestBody"
  | responseHeader => "ResponseHeader"
  | responseBody => "ResponseBody"

/-- The part belongs to the request. -/
def isRequest : LinkSourceKind → Bool
  | requestParameter | requestBody => true
  | responseHeader | responseBody => false

end LinkSourceKind

/-- How one parameter of the polling operation gets its value. -/
structure PropertyMapping where
  sourceKind : LinkSourceKind
  source : String
  sourceProperty : PropertyId
  target : String
  targetProperty : PropertyId

/-- Where the URL to poll is read from. -/
structure PollingUrl where
  /-- It is read from a header, and else from the body. -/
  inHeader : Bool
  name : String
  property : PropertyId

/-- A property of a status monitor. -/
structure MonitorProperty where
  origin : PropertyId
  name : String
  serializedName : String
  type : NodeId

/-- The states of a long-running operation. -/
structure States where
  succeeded : List String := []
  failed : List String := []
  canceled : List String := []
  /-- Every state that the status can be in. -/
  all : List String := []

/-- The type whose status tells how a long-running operation fares. -/
structure StatusMonitor where
  type : NodeId
  status : MonitorProperty
  states : States
  success : Option MonitorProperty
  error : Option MonitorProperty

/-- How a long-running operation is followed to its end. -/
structure Polling where
  initialOperation : OperationRef
  pollingOperation : OperationRef
  /-- The source of every parameter of the polling operation. -/
  parameters : OrderedMap String PropertyMapping
  url : Option PollingUrl
  monitor : StatusMonitor
  finalResult : Option NodeId

/-- A method behind which stands one HTTP operation. -/
structure ServiceMethod where
  operation : HttpOperation
  response : MethodResponse

/-- What a method does. -/
inductive MethodKind where
  | basic (method : ServiceMethod)
  | paging (method : ServiceMethod) (pages : Paging)
  | polling (method : ServiceMethod) (progress : Polling)
  | pollingPaging (method : ServiceMethod) (pages : Paging) (progress : Polling)
  /-- Hands out a sub-client. -/
  | accessor (client : String)

namespace MethodKind

/-- The word for what a method does. -/
def label : MethodKind → String
  | basic _ => "basic"
  | paging _ _ => "paging"
  | polling _ _ => "lro"
  | pollingPaging _ _ _ => "lropaging"
  | accessor _ => "clientaccessor"

/-- The HTTP operation and response of a method that has one. -/
def service? : MethodKind → Option ServiceMethod
  | basic method | paging method _ | polling method _ | pollingPaging method _ _ => some method
  | accessor _ => none

/-- How the method is followed to its end, if it is long-running. -/
def polling? : MethodKind → Option Polling
  | polling _ progress | pollingPaging _ _ progress => some progress
  | _ => none

/-- The pages of the method, if it has them. -/
def paging? : MethodKind → Option Paging
  | paging _ pages | pollingPaging _ pages _ => some pages
  | _ => none

end MethodKind

/-- A method of a client. -/
structure Method where
  name : String
  origin : Option OperationId
  access : Access
  parameters : List Property
  apiVersions : List String
  crossId : String
  deprecation : Option String
  /-- A method on typed values is wanted; never so for accessors. -/
  isConvenient : Bool
  /-- A method on raw requests is wanted; never so for accessors. -/
  isProtocol : Bool
  kind : MethodKind

namespace Method

/-- The HTTP operation of a method that has one. -/
def operation? (method : Method) : Option HttpOperation :=
  method.kind.service?.map ServiceMethod.operation

/-- What the method hands back, if it has an HTTP operation. -/
def response? (method : Method) : Option MethodResponse :=
  method.kind.service?.map ServiceMethod.response

/-- The parameter of a name. -/
def parameter? (method : Method) (name : String) : Option Property :=
  method.parameters.find? fun parameter => parameter.name == name

end Method

end ClientModel
