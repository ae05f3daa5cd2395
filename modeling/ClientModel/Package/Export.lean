import ClientModel.Document.Value
import ClientModel.Package.Basic

/-!
Packages as documents, the form in which generators read them.

The names and the order of the fields are part of the form.
-/

namespace ClientModel

open Service (AuthScheme Literal)

/-! ## Values that stand everywhere -/

/-- A reference to a type. -/
def NodeId.document (id : NodeId) : Document :=
  .ofNat id.index

/-- A reference to a declaration, under the kind of declaration. -/
def Declaration.document : Declaration → Document
  | .type id => .record [("Type", .ofNat id.index)]
  | .property id => .record [("Property", .ofNat id.index)]
  | .operation id => .record [("Operation", .ofNat id.index)]
  | .container id => .record [("Container", .ofNat id.index)]

/-- A literal, without a mark of its kind. -/
def Service.Literal.document : Literal → Document
  | .text value => .text value
  | .number value => .number value
  | .boolean value => .boolean value

/-- A usage, as the number that holds its bits. -/
def Usage.document (usage : Usage) : Document :=
  .ofNat usage.bits.toNat

/-- The word for who may see something. -/
def Access.document : Access → Document
  | .everyone => .text "public"
  | .withinPackage => .text "internal"

/-! ## Reports -/

/-- A remark that a report refers to. -/
def RelatedRemark.document (remark : RelatedRemark) : Document :=
  .record [("target", remark.target.document), ("message", .text remark.message)]

/-- A report. -/
def Diagnostic.document (diagnostic : Diagnostic) : Document :=
  .record
    [("target", .ofOption Declaration.document diagnostic.target),
      ("severity", .text diagnostic.severity.label),
      ("code", .ofText? diagnostic.code),
      ("message", .text diagnostic.message),
      ("related", .ofList RelatedRemark.document diagnostic.related)]

/-! ## Properties -/

/-- What a property is for, under the word for it. -/
def Role.document (role : Role) : Document :=
  .record (("kind", .text role.label) ::
    match role with
    | .member discriminator => [("discriminator", .boolean discriminator)]
    | .path urlEncode => [("url_encode", .boolean urlEncode)]
    | .query explode => [("explode", .boolean explode)]
    | .body contentTypes defaultContentType =>
      [("content_types", .ofTexts contentTypes),
        ("default_content_type", .text defaultContentType)]
    | .method | .header | .endpoint | .credential => [])

/-- A property with the sources of its value already written. -/
def Property.documentWith (sources : List Document) (property : Property) : Document :=
  .record
    [("origin", .ofOption (fun id => .ofNat id.index) property.origin),
      ("name", .text property.name),
      ("client_name", .text property.clientName),
      ("serialized_name", .text property.serializedName),
      ("owner", .ofOption NodeId.document property.owner),
      ("ty", property.type.document),
      ("optional", .boolean property.optional),
      ("kind", property.role.document),
      ("corresponding_method_params", .list sources),
      ("api_versions", .ofTexts property.apiVersions),
      ("is_api_version_param", .boolean property.isApiVersion),
      ("on_client", .boolean property.onClient),
      ("client_default_value", .ofOption Literal.document property.clientDefault),
      ("is_generated_name", .boolean property.isGeneratedName),
      ("cross_language_id", .text property.crossId),
      ("deprecation", .ofText? property.deprecation),
      ("doc", .ofText? property.doc)]

/-- A property that takes its value from no other. -/
def Property.document (property : Property) : Document :=
  property.documentWith []

/-- A source with the whole parameter that it starts from. -/
def Source.document : Source → Document
  | .parameter property =>
    .record [("kind", .text "method"), ("param", property.document)]
  | .member parent name =>
    .record [("kind", .text "property"), ("parent", parent.document), ("property", .text name)]

/-- A parameter of a request with its sources. -/
def WireParameter.document (parameter : WireParameter) : Document :=
  parameter.property.documentWith (parameter.sources.map Source.document)

/-! ## Types -/

/-- A way to authenticate, under the word for it. -/
def Service.AuthScheme.document : AuthScheme → Document
  | .apiKey location name =>
    .record [("type", .text "apiKey"), ("location", .text location.label), ("name", .text name)]
  | .http scheme => .record [("type", .text "http"), ("scheme", .text scheme)]
  | .oauth2 scopes => .record [("type", .text "oAuth2"), ("scopes", .ofTexts scopes)]
  | .noAuth => .record [("type", .text "noAuth")]

/-- The fields of a primitive type. -/
def BuiltinNode.fields (node : BuiltinNode) : List (String × Document) :=
  [("builtin", .text node.kind.label),
    ("name", .text node.name),
    ("encode", .ofText? node.encode),
    ("base", .ofOption NodeId.document node.base)]

/-- The fields of an enum. -/
def EnumNode.fields (node : EnumNode) : List (String × Document) :=
  [("name", .text node.name),
    ("is_generated_name", .boolean node.isGeneratedName),
    ("namespace", .text node.namespace),
    ("value_type", .text node.valueKind.label),
    ("values", .ofList NodeId.document node.values),
    ("is_fixed", .boolean node.isFixed),
    ("is_union_as_enum", .boolean node.isFlattenedUnion),
    ("usage", node.usage.document),
    ("access", .ofOption Access.document node.access),
    ("cross_language_id", .text node.crossId)]

/-- The fields of a value of an enum. -/
def EnumValueNode.fields (node : EnumValueNode) : List (String × Document) :=
  [("name", .text node.name),
    ("value", node.value.document),
    ("enum_type", node.enumeration.document)]

/-- The fields of a union. -/
def UnionNode.fields (node : UnionNode) : List (String × Document) :=
  [("name", .ofText? node.name),
    ("is_generated_name", .boolean node.isGeneratedName),
    ("namespace", .text node.namespace),
    ("variants", .ofList NodeId.document node.variants),
    ("usage", node.usage.document),
    ("access", .ofOption Access.document node.access),
    ("cross_language_id", .text node.crossId)]

/-- The fields of a type with a single value. -/
def ConstantNode.fields (node : ConstantNode) : List (String × Document) :=
  [("value", node.value.document),
    ("value_type", .text node.valueKind.label),
    ("name", .ofText? node.name),
    ("is_generated_name", .boolean node.isGeneratedName)]

/-- The subtypes of a model by the values that they are known by. -/
def ModelNode.subtypesDocument (subtypes : OrderedMap String NodeId) : Document :=
  .table (subtypes.entries.map fun (value, subtype) => (value, subtype.document))

/-- The fields of a model. -/
def ModelNode.fields (node : ModelNode) : List (String × Document) :=
  [("name", .text node.name),
    ("is_generated_name", .boolean node.isGeneratedName),
    ("namespace", .text node.namespace),
    ("properties", .ofList Property.document node.properties),
    ("base", .ofOption NodeId.document node.base),
    ("additional_properties", .ofOption NodeId.document node.additionalProperties),
    ("discriminator_property", .ofText? node.discriminatorProperty),
    ("discriminator_value", .ofText? node.discriminatorValue),
    ("discriminated_subtypes", .ofOption subtypesDocument node.subtypes),
    ("is_error", .boolean node.isError),
    ("usage", node.usage.document),
    ("access", .ofOption Access.document node.access),
    ("cross_language_id", .text node.crossId)]

/-- The word under which a kind of node is written. -/
def NodeKind.tag : NodeKind → String
  | .builtin _ => "builtin"
  | .enumeration _ => "enum"
  | .enumValue _ => "enumValue"
  | .union _ => "union"
  | .array _ => "array"
  | .dict _ _ => "dict"
  | .constant _ => "constant"
  | .model _ => "model"
  | .credential _ => "credential"
  | .endpoint _ => "endpoint"

/-- What is written of a node besides the word for its kind. -/
def NodeKind.fields : NodeKind → List (String × Document)
  | .builtin node => node.fields
  | .enumeration node => node.fields
  | .enumValue node => node.fields
  | .union node => node.fields
  | .array value => [("value", value.document)]
  | .dict key value => [("key", key.document), ("value", value.document)]
  | .constant node => node.fields
  | .model node => node.fields
  | .credential schemes => [("schemes", .ofList AuthScheme.document schemes)]
  | .endpoint node =>
    [("server_url", .text node.serverUrl),
      ("template_arguments", .ofList Property.document node.arguments)]

/-- What a node stands for, under the word for its kind. -/
def NodeKind.document (kind : NodeKind) : Document :=
  .record (("kind", .text kind.tag) :: kind.fields)

/-- A derived type. -/
def Node.document (node : Node) : Document :=
  .record
    [("origin", .ofOption (fun id => .ofNat id.index) node.origin),
      ("nullable", .boolean node.nullable),
      ("deprecation", .ofText? node.deprecation),
      ("doc", .ofText? node.doc),
      ("kind", node.kind.document)]

/-! ## Methods -/

/-- A header of a response. -/
def ResponseHeader.document (header : ResponseHeader) : Document :=
  .record
    [("origin", .ofOption (fun id => .ofNat id.index) header.origin),
      ("name", .text header.name),
      ("serialized_name", .text header.serializedName),
      ("ty", header.type.document)]

/-- A response of an HTTP operation. -/
def HttpResponse.document (response : HttpResponse) : Document :=
  .record
    [("ty", .ofOption NodeId.document response.type),
      ("headers", .ofList ResponseHeader.document response.headers),
      ("content_types", .ofTexts response.contentTypes),
      ("default_content_type", .ofText? response.defaultContentType),
      ("description", .ofText? response.description)]

/-- Responses by the status codes that they cover. -/
def ResponseMap.document (responses : ResponseMap) : Document :=
  .table (responses.entries.map fun (statuses, response) => (statuses.label, response.document))

/-- An HTTP operation. -/
def HttpOperation.document (operation : HttpOperation) : Document :=
  .record
    [("origin", .ofNat operation.origin.index),
      ("verb", .text operation.verb.label),
      ("path", .text operation.path),
      ("parameters", .ofList WireParameter.document operation.parameters),
      ("body", .ofOption WireParameter.document operation.body),
      ("responses", ResponseMap.document operation.responses),
      ("exceptions", ResponseMap.document operation.exceptions)]

/-- What a method hands back. -/
def MethodResponse.document (response : MethodResponse) : Document :=
  .record
    [("ty", .ofOption NodeId.document response.type),
      ("result_segments", .ofOption .ofTexts response.resultSegments)]

/-- A reference to an operation. -/
def OperationRef.document (operation : OperationRef) : Document :=
  .record
    [("origin", .ofNat operation.origin.index),
      ("name", .text operation.name),
      ("cross_language_id", .text operation.crossId)]

/-- The pages of a method. -/
def Paging.document (paging : Paging) : Document :=
  .record
    [("item_segments", .ofTexts paging.itemSegments),
      ("next_link_segments", .ofOption .ofTexts paging.nextLinkSegments),
      ("next_link_operation", .ofOption OperationRef.document paging.nextLinkOperation)]

/-- How a parameter of the polling operation gets its value. -/
def PropertyMapping.document (mapping : PropertyMapping) : Document :=
  .record
    [("source_kind", .text mapping.sourceKind.label),
      ("source", .text mapping.source),
      ("source_property", .ofNat mapping.sourceProperty.index),
      ("target", .text mapping.target),
      ("target_property", .ofNat mapping.targetProperty.index)]

/-- Where the URL to poll is read from. -/
def PollingUrl.document (url : PollingUrl) : Document :=
  .record
    [("location", .text (if url.inHeader then "ResponseHeader" else "ResponseBody")),
      ("name", .text url.name),
      ("property", .ofNat url.property.index)]

/-- A property of a status monitor. -/
def MonitorProperty.document (property : MonitorProperty) : Document :=
  .record
    [("origin", .ofNat property.origin.index),
      ("name", .text property.name),
      ("serialized_name", .text property.serializedName),
      ("ty", property.type.document)]

/-- The states of a long-running operation. -/
def States.document (states : States) : Document :=
  .record
    [("succeeded", .ofTexts states.succeeded),
      ("failed", .ofTexts states.failed),
      ("canceled", .ofTexts states.canceled),
      ("states", .ofTexts states.all)]

/-- A status monitor. -/
def StatusMonitor.document (monitor : StatusMonitor) : Document :=
  .record
    [("monitor_type", monitor.type.document),
      ("status_property", monitor.status.document),
      ("terminal_states", monitor.states.document),
      ("success_property", .ofOption MonitorProperty.document monitor.success),
      ("error_property", .ofOption MonitorProperty.document monitor.error)]

/-- How a long-running operation is followed. -/
def Polling.document (polling : Polling) : Document :=
  .record
    [("initial_operation", polling.initialOperation.document),
      ("polling_operation", polling.pollingOperation.document),
      ("parameter_map", .table (polling.parameters.entries.map fun (target, mapping) =>
        (target, mapping.document))),
      ("polling_link", .ofOption PollingUrl.document polling.url),
      ("status_monitor", polling.monitor.document),
      ("final_result", .ofOption NodeId.document polling.finalResult)]

/-- The HTTP operation and the response of a method. -/
def ServiceMethod.document (method : ServiceMethod) : Document :=
  .record [("operation", method.operation.document), ("response", method.response.document)]

/-- What a method does, under the word for it. -/
def MethodKind.document : MethodKind → Document
  | .basic method => .record [("kind", .text "basic"), ("method", method.document)]
  | .paging method pages =>
    .record [("kind", .text "paging"), ("method", method.document), ("paging", pages.document)]
  | .polling method progress =>
    .record [("kind", .text "lro"), ("method", method.document), ("lro", progress.document)]
  | .pollingPaging method pages progress =>
    .record
      [("kind", .text "lroPaging"), ("method", method.document), ("paging", pages.document),
        ("lro", progress.document)]
  | .accessor client => .record [("kind", .text "clientAccessor"), ("client", .text client)]

/-- A method of a client. -/
def Method.document (method : Method) : Document :=
  .record
    [("name", .text method.name),
      ("origin", .ofOption (fun id => .ofNat id.index) method.origin),
      ("access", method.access.document),
      ("parameters", .ofList Property.document method.parameters),
      ("api_versions", .ofTexts method.apiVersions),
      ("cross_language_id", .text method.crossId),
      ("deprecation", .ofText? method.deprecation),
      ("generate_convenient", .boolean method.isConvenient),
      ("generate_protocol", .boolean method.isProtocol),
      ("kind", method.kind.document)]

/-! ## Clients and packages -/

/-- How a client is made. -/
def ClientInitialization.document (initialization : ClientInitialization) : Document :=
  .record
    [("name", .text initialization.name),
      ("initialized_by", .ofNat initialization.initializedBy.bits),
      ("parameters", .ofList Property.document initialization.parameters)]

mutual

/-- A client with its sub-clients. -/
def Client.document : Client → Document
  | ⟨name, «namespace», origin, crossId, apiVersions, initialization, methods, children⟩ =>
    .record
      [("name", .text name),
        ("namespace", .text «namespace»),
        ("origin", .ofNat origin.index),
        ("cross_language_id", .text crossId),
        ("api_versions", .ofTexts apiVersions),
        ("initialization", initialization.document),
        ("methods", .ofList Method.document methods),
        ("children", .list (Client.documents children))]

/-- Clients, each with its sub-clients. -/
def Client.documents : List Client → List Document
  | [] => []
  | client :: rest => Client.document client :: Client.documents rest

end

/-- A package. -/
def Package.document (package : Package) : Document :=
  .record
    [("name", .text package.name),
      ("clients", .list (Client.documents package.clients)),
      ("catalogue", .list (package.catalogue.nodes.toList.map Node.document)),
      ("models", .ofList NodeId.document package.models),
      ("enums", .ofList NodeId.document package.enums),
      ("unions", .ofList NodeId.document package.unions),
      ("diagnostics", .ofList Diagnostic.document package.diagnostics)]

end ClientModel
