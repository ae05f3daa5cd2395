import ClientModel.Derivation.Clients
import ClientModel.Proofs.Alike
import ClientModel.Proofs.Runs

/-!
Runs that are given almost the same.

Two runs on definitions with the same tables may differ in the names that were chosen for types, and
in which operations are wanted as methods on typed values. Whatever else they ask of what they are
given comes out the same.
-/

namespace ClientModel.Derivation

open Service (Choices Definition)

/-- How far two runs may differ in what they are given. -/
structure Slack where
  /-- Types may go by different names. -/
  free : Prop := False
  /-- The models that go by another name in the second run. -/
  renamed : TypeId → Prop := fun _ => False
  /-- The operations that the second run does not want on typed values, whatever the first does. -/
  quiet : OperationId → Bool := fun _ => false

namespace Slack

/-- The same, or something that may differ since names may. -/
def Same {α : Type} (slack : Slack) (left right : α) : Prop :=
  slack.free ∨ right = left

variable {slack : Slack} {α β : Type}

/-- A value is the same as itself, however much is left open. -/
theorem Same.rfl {value : α} : slack.Same value value :=
  Or.inr (Eq.refl _)

/-- What equal values make equal is as much the same as they are. -/
theorem Same.imp {left right : α} {left' right' : β} (same : slack.Same left right)
    (equal : right = left → right' = left') : slack.Same left' right' :=
  same.imp_right equal

/-- The same function makes the same of what is the same. -/
theorem Same.map {left right : α} (same : slack.Same left right) (f : α → β) :
    slack.Same (f left) (f right) :=
  same.imp (congrArg f)

end Slack

/--
A run is given what another is given, but for the slack between them.

No body without a property of its own may hold a renamed model, since the parameter for such a body
is named after the model.
-/
structure Sibling (slack : Slack) (context other : Context) : Prop where
  alike : Alike context.definition other.definition
  options : other.options = context.options
  roots : other.roots = context.roots
  clientName? : ∀ target, target.type? = none →
    other.choices.clientName? target = context.choices.clientName? target
  typeName? : ∀ type, slack.Same (context.choices.clientName? (.type type))
    (other.choices.clientName? (.type type))
  modelName : ∀ type model name, context.definition.model? type = some model →
    model.name = some name → ¬ slack.renamed type →
    other.nameOf (.type type) name = context.nameOf (.type type) name
  renamed_isModel : ∀ type, slack.renamed type → (context.definition.model? type).isSome
  usage? : other.choices.usage? = context.choices.usage?
  access? : other.choices.access? = context.choices.access?
  setup? : other.choices.setup? = context.choices.setup?
  locations : other.choices.locations = context.choices.locations
  alias? : other.choices.alias? = context.choices.alias?
  clients : other.choices.clients = context.choices.clients
  protocolMethod? : other.choices.protocolMethod? = context.choices.protocolMethod?
  isConvenient : ∀ operation,
    other.isConvenient operation = (context.isConvenient operation && !slack.quiet operation)
  spared : ∀ operation body, (context.definition.operationAt operation).bodies.head? = some body →
    body.property = none → ¬ slack.renamed (context.definition.payloadType body.type)

/-- The same clients are asked for where the same containers are declared and customized. -/
theorem roots_congr {definition other : Definition} {options : Options}
    (alike : Alike definition other)
    (clients : (Context.of other options).choices.clients =
      (Context.of definition options).choices.clients) :
    (Context.of other options).roots = (Context.of definition options).roots := by
  -- Roots are read off the containers and the clients that were chosen.
  have containerIds := alike.containerIds
  have containerAt := alike.containerAt
  show (rootClients other (Context.of other options).choices).map _ =
    (rootClients definition (Context.of definition options).choices).map _
  simp only [rootClients, clients, containerIds, containerAt]

/-- All but names and wanted methods is given to two runs alike where it was chosen alike. -/
theorem Sibling.of_choices {slack : Slack} {definition other : Definition} {options : Options}
    (alike : Alike definition other)
    (choices : { other.customizations.resolve options.scope with
        clientNames := (definition.customizations.resolve options.scope).clientNames
        convenientMethods := (definition.customizations.resolve options.scope).convenientMethods } =
      definition.customizations.resolve options.scope)
    (clientName? : ∀ target, target.type? = none →
      (Context.of other options).choices.clientName? target =
        (Context.of definition options).choices.clientName? target)
    (typeName? : ∀ type, slack.Same
      ((Context.of definition options).choices.clientName? (.type type))
      ((Context.of other options).choices.clientName? (.type type)))
    (modelName : ∀ type model name, definition.model? type = some model → model.name = some name →
      ¬ slack.renamed type → (Context.of other options).nameOf (.type type) name =
        (Context.of definition options).nameOf (.type type) name)
    (renamed_isModel : ∀ type, slack.renamed type → (definition.model? type).isSome)
    (isConvenient : ∀ operation, (Context.of other options).isConvenient operation =
      ((Context.of definition options).isConvenient operation && !slack.quiet operation))
    (spared : ∀ operation body, (definition.operationAt operation).bodies.head? = some body →
      body.property = none → ¬ slack.renamed (definition.payloadType body.type)) :
    Sibling slack (Context.of definition options) (Context.of other options) where
  -- What is read off the choices is the same for either, as they agree but for names and wanted
  -- methods.
  alike := alike
  options := rfl
  roots := roots_congr alike (congrArg Choices.clients choices :)
  clientName? := clientName?
  typeName? := typeName?
  modelName := modelName
  renamed_isModel := renamed_isModel
  usage? := (congrArg Choices.usage? choices :)
  access? := (congrArg Choices.access? choices :)
  setup? := (congrArg Choices.setup? choices :)
  locations := (congrArg Choices.locations choices :)
  alias? := (congrArg Choices.alias? choices :)
  clients := (congrArg Choices.clients choices :)
  protocolMethod? := (congrArg Choices.protocolMethod? choices :)
  isConvenient := isConvenient
  spared := spared

namespace Sibling

variable {slack : Slack} {context other : Context} (sibling : Sibling slack context other)
include sibling

/-! ## Names -/

/-- Siblings call properties the same. -/
theorem propertyName : other.propertyName = context.propertyName := by
  funext id
  simp only [Context.propertyName, Context.nameOf, sibling.clientName? (.property id) rfl,
    sibling.alike.propertyAt]

/-- Siblings call operations the same. -/
theorem operationName : other.operationName = context.operationName := by
  funext id
  simp only [Context.operationName, Context.nameOf, sibling.clientName? (.operation id) rfl,
    sibling.alike.operationAt]

/-- Siblings call the clients of groups the same. -/
theorem groupName : other.groupName = context.groupName := by
  funext container
  simp only [Context.groupName, Context.nameOf, sibling.clientName? (.container container) rfl,
    sibling.alike.containerAt]

/-- Siblings call the clients of roots the same. -/
theorem rootName : other.rootName = context.rootName := by
  funext root
  simp only [Context.rootName, sibling.clientName? (.container root.container) rfl,
    sibling.alike.containerAt]

/-- Siblings refer to operations alike. -/
theorem operationRef : other.operationRef = context.operationRef := by
  funext id
  simp only [Context.operationRef, sibling.operationName, sibling.alike.operationCrossId]

/-- Operations are declared under the same names. -/
theorem declaredName : other.declaredName = context.declaredName := by
  funext id
  simp only [Context.declaredName, sibling.alike.operationAt]

/-- Types lie in the same namespaces. -/
theorem namespaceName : other.namespaceName = context.namespaceName := by
  funext id
  simp only [Context.namespaceName, sibling.alike.typeAt, sibling.alike.fullName]

/-- Types go by the same name as far as names are bound to be the same. -/
theorem nameOf_type (id : TypeId) (declared : String) :
    slack.Same (context.nameOf (.type id) declared) (other.nameOf (.type id) declared) :=
  (sibling.typeName? id).map fun name? => name?.getD declared

/-- Where no names differ, paths make the same names. -/
theorem candidateName (bound : ¬ slack.free) : other.candidateName = context.candidateName := by
  -- Candidates are put together of what the segments of the path are called.
  have names : other.typeName? = context.typeName? := by
    funext id
    simp only [Context.typeName?, (sibling.typeName? id).resolve_left bound, sibling.alike.typeAt]
  have segments : other.segmentName? = context.segmentName? := by
    funext segment
    simp only [Context.segmentName?, names]
  funext path
  simp only [Context.candidateName, segments]

/-! ## Versions and clients -/

/-- The same services are managed by resources. -/
theorem isResourceManaged : other.isResourceManaged = context.isResourceManaged := by
  funext container
  simp only [Context.isResourceManaged, sibling.options, sibling.alike.service?]

/-- Operations have the same versions. -/
theorem operationVersions : other.operationVersions = context.operationVersions := by
  funext id
  simp only [Context.operationVersions, sibling.alike.operationAt, sibling.alike.service?]

/-- The same operations are available. -/
theorem isAvailable : other.isAvailable = context.isAvailable := by
  funext id
  simp only [Context.isAvailable, sibling.options, sibling.alike.operationAt,
    sibling.alike.service?, sibling.operationVersions]

/-- Clients have the same operations. -/
theorem operationsOf : other.operationsOf = context.operationsOf := by
  funext container
  simp only [Context.operationsOf, Choices.location?, Choices.movedInto, sibling.locations,
    sibling.alike.containerAt, sibling.isAvailable]

/-- Containers have the same trees of clients. -/
theorem clientTree : other.clientTree = context.clientTree := by
  -- By induction on the depth, as a tree is made of those below it.
  have within (depth : Nat) (container : ContainerId) :
      other.clientTreeWithin depth container = context.clientTreeWithin depth container := by
    induction depth generalizing container with
    | zero => rfl
    | succ depth ih =>
      have same : other.clientTreeWithin depth = context.clientTreeWithin depth := funext ih
      simp only [Context.clientTreeWithin, sibling.alike.containerAt, sibling.roots,
        sibling.operationsOf, same]
  funext container
  simp only [Context.clientTree, ← sibling.alike.containers, within]

/-- The same containers have clients of their own at the root. -/
theorem rootClients : rootClients other.definition other.choices =
    rootClients context.definition context.choices := by
  simp only [Derivation.rootClients, sibling.clients, sibling.alike.containerIds,
    sibling.alike.containerAt]

/-- Roots have the same services. -/
theorem serviceAt : other.serviceAt = context.serviceAt := by
  funext root
  simp only [Context.serviceAt, sibling.alike.containerAt]

/-! ## Types -/

/-- Models have the same members. -/
theorem memberIds : other.memberIds = context.memberIds := by
  funext model
  simp only [Context.memberIds, sibling.alike.isVoidLike, sibling.alike.propertyAt]

/-- Unions are flattened alike. -/
theorem flattened? : other.flattened? = context.flattened? := by
  funext variants
  simp only [Context.flattened?, sibling.alike.shapeAt, sibling.alike.standardScalar?]

/-- References may be followed equally far. -/
theorem referenceBound : other.referenceBound = context.referenceBound := by
  simp only [Context.referenceBound, ← sibling.alike.types]

/-! ## Requests and responses -/

/-- What a client knows of a parameter is told alike. -/
theorem withClientFacts : other.withClientFacts = context.withClientFacts := by
  funext client parameter
  simp only [Context.withClientFacts, sibling.alike.service?, sibling.options,
    sibling.isResourceManaged]

/-- Parameters are made alike. -/
theorem parameterOf : other.parameterOf = context.parameterOf := by
  funext id type role ownerId client
  simp only [Context.parameterOf, sibling.alike.propertyAt, sibling.propertyName,
    sibling.withClientFacts]

/-- The same parameters are held to be the same. -/
theorem isSame : other.isSame = context.isSame := by
  funext wanted candidate
  simp only [Context.isSame, Context.sameDeclaration, Context.hasAlias, sibling.alike.rootSource,
    sibling.alias?]

/-- The client supplies the same. -/
theorem clientSupplier? : other.clientSupplier? = context.clientSupplier? := by
  funext client supply wanted
  simp only [Context.clientSupplier?, sibling.isResourceManaged, sibling.isSame]

/-- Responses have the same payloads. -/
theorem payload? : other.payload? = context.payload? := by
  funext response
  simp only [Context.payload?, sibling.alike.isVoidLike]

/-- The same responses are errors. -/
theorem isErrorResponse : other.isErrorResponse = context.isErrorResponse := by
  funext response
  simp only [Context.isErrorResponse, sibling.payload?, sibling.alike.model?,
    sibling.alike.payloadType]

/-- The same segments are dropped. -/
theorem dropUnusedSegments : other.dropUnusedSegments = context.dropUnusedSegments := by
  funext wire method
  simp only [Context.dropUnusedSegments, sibling.alike.rootSource, sibling.alike.propertyAt]

/-! ## Pages and polling -/

/-- Pages are told alike. -/
theorem pagingOf : other.pagingOf = context.pagingOf := by
  funext declared
  simp only [Context.pagingOf, sibling.operationRef]

/-- The same URL is polled. -/
theorem pollingUrl? : other.pollingUrl? = context.pollingUrl? := by
  -- It is a header that is marked, or else a property that is.
  have headers : other.headerName = context.headerName := by
    funext id
    simp only [Context.headerName, sibling.alike.propertyAt]
  have marked : other.isPollingLocation = context.isPollingLocation := by
    funext id
    simp only [Context.isPollingLocation, sibling.alike.propertyAt]
  funext operation
  simp only [Context.pollingUrl?, sibling.alike.operationAt, sibling.alike.propertyAt,
    sibling.alike.payloadMembers, headers, marked]

/-- Types come to the same monitors. -/
theorem finalMonitor? : other.finalMonitor? = context.finalMonitor? := by
  -- The states of a monitor are those of the type that its status has.
  have states : other.withStates? = context.withStates? := by
    funext found
    simp only [Context.withStates?, sibling.alike.statesOf, sibling.alike.propertyAt]
  funext id
  simp only [Context.finalMonitor?, sibling.alike.monitor?, states]

/-- The same types are searched for a status. -/
theorem statusTypes : other.statusTypes = context.statusTypes := by
  funext polling
  simp only [Context.statusTypes, sibling.alike.operationAt]

/-- The first monitor found is the same. -/
theorem firstMonitor? : other.firstMonitor? = context.firstMonitor? := by
  funext candidates
  simp only [Context.firstMonitor?, sibling.finalMonitor?]

end Sibling

end ClientModel.Derivation
