import ClientModel.Derivation.Sources

/-! The HTTP operations of methods: requests, responses, and the sources of what is sent. -/

namespace ClientModel.Derivation

open Service (Binding BodyDecl ResponseDecl WireSlot)

/-- A header of a request that says which content types are sent or accepted. -/
structure Negotiation where
  name : String
  serializedName : String
  /-- The end of the names that are made up for its constants. -/
  suffix : String
  /-- Whether a single content type makes a constant of the header. -/
  isConstant : String → Bool

/-- The header for the content type of a body; a client has to spell out one that is not JSON. -/
def contentTypeHeader : Negotiation :=
  { name := "contentType"
    serializedName := "Content-Type"
    suffix := "ContentType"
    isConstant := ContentType.isJson }

/-- The header for the content types that are accepted. -/
def acceptHeader : Negotiation :=
  { name := "accept"
    serializedName := "Accept"
    suffix := "Accept"
    isConstant := fun _ => true }

/-- The method parameters and, unless one has its name already, one more for a header. -/
def withHeaderParameter (parameters : List Property) (header : Property) : List Property :=
  if parameters.any fun parameter => parameter.name == header.name then parameters
  else parameters ++ [{ header with role := .method, serializedName := header.name }]

/-- Texts without those that repeat an earlier one. -/
def withoutRepeats (texts : List String) : List String :=
  texts.foldl (fun kept text => if kept.contains text then kept else kept ++ [text]) []

/-- Responses that were sorted into successes and errors. -/
structure Outcomes where
  successes : ResponseMap := {}
  errors : ResponseMap := {}

namespace Context

variable (context : Context)

/-! ## Responses -/

/-- Derives a header of a response; one that carries no value is left out. -/
def responseHeader? (access : Access) (id : PropertyId) : Derive (Option ResponseHeader) := do
  let declared := context.definition.propertyAt id
  if context.definition.isVoidLike declared.type then return none
  let type ← context.node declared.type
  addSeed type .output access
  -- Only a binding to a header renames it on the wire.
  let serializedName :=
    match declared.binding with
    | some (.header name) => name
    | _ => declared.name
  return some { origin := some id, name := declared.name, serializedName, type }

/-- The body of a response, unless it carries no value. -/
def payload? (response : ResponseDecl) : Option Service.ResponseBody :=
  response.body.filter fun body => !context.definition.isVoidLike body.type

/-- The response is an error: it is for any status, or carries an error model. -/
def isErrorResponse (response : ResponseDecl) : Bool :=
  -- A model that stands for a payload counts by the named one that it copies.
  response.status == .wildcard ||
    (context.payload? response).any fun body =>
      (context.definition.model? (context.definition.payloadType body.type)).any (·.isError)

/-- Derives a response. -/
def response (access : Access) (declared : ResponseDecl) : Derive HttpResponse := do
  let headers ← declared.headers.filterMapM (context.responseHeader? access)
  let (type, contentTypes) ←
    match context.payload? declared with
    | none => pure (none, [])
    | some body =>
      let type ← context.node body.type
      let contentTypes := ContentType.orJson body.contentTypes
      -- Errors are also noted apart, whatever else the type is used for.
      let exception := if context.isErrorResponse declared then Usage.exception else Usage.none
      addSeed type (Usage.output ||| ContentType.usages contentTypes ||| exception) access
      pure (some type, contentTypes)
  return {
    type
    headers
    contentTypes
    defaultContentType := ContentType.default? contentTypes
    description := declared.description
  }

/-- Adds a response to those for successes or errors, where the first one for a status is kept. -/
def addResponse (operation : OperationId) (access : Access) (outcomes : Outcomes)
    (declared : ResponseDecl) : Derive Outcomes := do
  -- Types are noted to be used even where the response is not kept.
  let response ← context.response access declared
  let isError := context.isErrorResponse declared
  match (if isError then outcomes.errors else outcomes.successes).get? declared.status with
  | some earlier =>
    if earlier.type != response.type then
      reportWarning (.operation operation) Code.multipleResponseTypes
        ("status " ++ declared.status.label ++ " of '" ++
          (context.definition.operationAt operation).name ++
          "' declares more than one response type; keeping the first")
    return outcomes
  | none =>
    if isError then
      return { outcomes with errors := outcomes.errors.insert declared.status response }
    else return { outcomes with successes := outcomes.successes.insert declared.status response }

/-- Derives the responses of an operation. -/
def outcomes (operation : OperationId) (access : Access) : Derive Outcomes :=
  (context.definition.operationAt operation).responses.foldlM
    (context.addResponse operation access) {}

/-! ## Requests -/

/-- Derives a parameter of a request other than its body; one without a value is left out. -/
def slotParameter? (operation : OperationId) (client : ContainerId) (access : Access)
    (slot : WireSlot) : Derive (Option Property) := do
  let declared := context.definition.propertyAt slot.property
  if context.definition.isVoidLike declared.type then return none
  let parameter ← context.requestParameter operation slot.property slot.location client
  -- The body of a request is declared apart from the places of its parameters.
  if parameter.isBody then
    throw (.unexpectedParameterKind declared.name "path, query or header" "body" slot.property)
  addSeed parameter.type .input access
  return some parameter

/-- The parameter for a body that no property was declared for, named after the model it holds. -/
def unnamedBody (operation : OperationId) (client : ContainerId) (type : NodeId) (role : Role) :
    Derive Property := do
  -- A made-up name of a model tells a caller nothing.
  let name :=
    match ← modelAt? type with
    | some model => if model.isGeneratedName then "body" else Text.lowerFirstCase model.name
    | none => "body"
  return context.withClientFacts client
    { name
      serializedName := "body"
      type
      role
      isGeneratedName := true
      crossId := context.definition.operationCrossId operation ++ ".body" }

/-- The parameter for a body of the given type and role, made from the property declared for it. -/
def bodyParameter (operation : OperationId) (client : ContainerId) (declared : Option PropertyId)
    (type : NodeId) (role : Role) : Derive Property := do
  match declared with
  | some property =>
    let parameter ← context.requestParameter operation property (some .body) client
    -- The role tells the content types, which a property does not know.
    return { parameter with role, type }
  | none => context.unnamedBody operation client type role

/-- Derives the body of a request, for which all declared bodies must be of one type. -/
def body? (operation : OperationId) (client : ContainerId) (access : Access) :
    Derive (Option Property) := do
  let definition := context.definition
  let declared := definition.operationAt operation
  match declared.bodies with
  | [] => return none
  | first :: others =>
    -- Copies of one model are of one type, so that payloads are compared.
    let payload := definition.payloadType first.type
    if others.any fun other => definition.payloadType other.type != payload then
      throw (.divergentBodyTypes declared.name operation)
    if definition.isVoidLike first.type then return none
    let contentTypes :=
      ContentType.orJson (withoutRepeats (declared.bodies.flatMap BodyDecl.contentTypes))
    let usual := (ContentType.default? contentTypes).getD ContentType.json
    let role : Role := .body contentTypes usual
    let type ← context.node first.type
    let body ← context.bodyParameter operation client first.property type role
    -- Of a named model the caller hands over a whole value.
    let isGenerated := (← modelAt? type).any (·.isGeneratedName)
    let spread := if first.spread && isGenerated then Usage.spread else Usage.none
    let usage := Usage.input ||| ContentType.usages contentTypes ||| spread
    addSeed type usage access
    addBodyFormat type (usage.contains .multipartFormData)
    return some body

/-- Derives a header for content types: a constant where nothing is left to choose, else a text. -/
def negotiationHeader (operation : OperationId) (negotiation : Negotiation)
    (contentTypes : List String) (optional : Bool) : Derive Property := do
  -- A name is made up only where it is needed, since each is handed out once.
  let constant (value : String) : Derive NodeId := do
    let name ← claimName
      (Text.pascalCase (context.definition.operationAt operation).name ++ negotiation.suffix)
    addConstant (.text value) (some name)
  let type ←
    match ContentType.orJson contentTypes with
    | [only] => if negotiation.isConstant only then constant only else stringNode
    | _ => stringNode
  return {
    name := negotiation.name
    serializedName := negotiation.serializedName
    type
    optional
    role := .header
    isGeneratedName := true
    crossId := context.definition.operationCrossId operation ++ "." ++ negotiation.name
  }

/-- The parameters of a request and a method, with a header for content types if it is missing. -/
def negotiate (operation : OperationId) (negotiation : Negotiation) (contentTypes : List String)
    (optional : Bool) (wire method : List Property) : Derive (List Property × List Property) := do
  -- Names of headers do not tell letter cases apart.
  let isThere := wire.any fun parameter =>
    parameter.isHeader && Text.sameIgnoringCase parameter.serializedName negotiation.serializedName
  if isThere then return (wire, method)
  let header ← context.negotiationHeader operation negotiation contentTypes optional
  return (wire ++ [header], withHeaderParameter method header)

/-- The method parameters without those for segments that the path of the request does not have. -/
def dropUnusedSegments (wire method : List Property) : List Property :=
  let definition := context.definition
  let isSegment (parameter : Property) : Bool :=
    match parameter.role with
    | .path _ => true
    | _ => false
  -- Copies of a property stand for the one that was declared first.
  let segments := (wire.filter isSegment).filterMap fun parameter =>
    parameter.origin.map definition.rootSource
  method.filter fun parameter =>
    match parameter.origin with
    | none => true
    | some origin =>
      match (definition.propertyAt origin).binding with
      | some (.path _) => segments.contains (definition.rootSource origin)
      | _ => true

/-- The content types of the first response that carries something, successes before errors. -/
def acceptedTypes? (outcomes : Outcomes) : Option (List String) :=
  ((outcomes.successes.values ++ outcomes.errors.values).find? fun response =>
    response.type.isSome).map HttpResponse.contentTypes

/-- Finds the sources of a parameter of a request. -/
def traceParameter (operation : OperationId) (client : ContainerId)
    (methodParameters : List Property) (parameter : Property) : Derive WireParameter := do
  -- Clients may have taken further parameters since the method was begun.
  let supply : Supply :=
    { clientParameters := ← context.parametersInScope client
      methodParameters
      catalogue := (← get).catalogue }
  let sources ← context.sources operation client supply parameter
  return { property := parameter, sources }

/-- The parameters of a request and a method, with a header for the content type of a body. -/
def negotiateBody (operation : OperationId) (body : Option Property)
    (wire method : List Property) : Derive (List Property × List Property) :=
  match body with
  | some body =>
    context.negotiate operation contentTypeHeader body.contentTypes body.optional wire method
  | none => return (wire, method)

/-- The parameters of a request and a method, with a header for what the responses carry. -/
def negotiateResponses (operation : OperationId) (outcomes : Outcomes)
    (wire method : List Property) : Derive (List Property × List Property) :=
  match acceptedTypes? outcomes with
  | some contentTypes => context.negotiate operation acceptHeader contentTypes false wire method
  | none => return (wire, method)

/-- Lets a client take those parameters of a request that are given to clients. -/
def elevateAll (client : ContainerId) (wire : List Property) : Derive Unit :=
  for parameter in wire.filter (·.onClient) do
    -- A client knows a parameter by its own name, not by that on the wire.
    context.elevate client { parameter with serializedName := parameter.name }

/-- Derives the HTTP operation of a method, and the parameters that the method has in the end. -/
def httpOperation (operation : OperationId) (client : ContainerId) (access : Access)
    (parameters : List Property) : Derive (HttpOperation × List Property) := do
  let declared := context.definition.operationAt operation
  -- Responses come first: what is noted is noted in this order.
  let outcomes ← context.outcomes operation access
  let wire ← declared.slots.filterMapM (context.slotParameter? operation client access)
  let body ← context.body? operation client access
  let (wire, parameters) ← context.negotiateBody operation body wire parameters
  let (wire, parameters) ← context.negotiateResponses operation outcomes wire parameters
  -- Headers are in place, and the client takes its share before sources are looked for.
  let parameters := context.dropUnusedSegments wire parameters
  context.elevateAll client wire
  let traced ← wire.mapM (context.traceParameter operation client parameters)
  let tracedBody ← body.mapM (context.traceParameter operation client parameters)
  return (
    { origin := operation
      verb := declared.verb
      path := declared.path
      parameters := traced
      body := tracedBody
      responses := outcomes.successes
      exceptions := outcomes.errors },
    parameters)

end Context

end ClientModel.Derivation
