import ClientModel.Options
import ClientModel.Package.Client
import ClientModel.Derivation.Error
import ClientModel.Derivation.NameRegistry
import ClientModel.Derivation.Reach
import ClientModel.Service.Definition

/-! What a run is given, what it has found so far, and the small steps that it consists of. -/

namespace ClientModel.Derivation

open Service (Choices Definition Literal)

/-- What a run is given. -/
structure Context where
  definition : Definition
  options : Options
  /-- The customizations for the scope of the run. -/
  choices : Choices
  /-- The containers whose clients have no parent. -/
  roots : List ContainerId

namespace Context

variable (context : Context)

/-- The name of a declaration in clients. -/
def nameOf (target : Declaration) (declared : String) : String :=
  (context.choices.clientName? target).getD declared

/-- The name of a property in clients. -/
def propertyName (id : PropertyId) : String :=
  context.nameOf (.property id) (context.definition.propertyAt id).name

/-- The name of an operation in clients. -/
def operationName (id : OperationId) : String :=
  context.nameOf (.operation id) (context.definition.operationAt id).name

/-- The conventions of resource management hold in a container. -/
def isResourceManaged (container : ContainerId) : Bool :=
  context.options.resourceManagement.getD
    ((context.definition.service? container).any (·.resourceManagement))

/-- A reference to an operation. -/
def operationRef (id : OperationId) : OperationRef :=
  { origin := id
    name := context.operationName id
    crossId := context.definition.operationCrossId id }

/-- The versions of its service in which an operation exists. -/
def operationVersions (id : OperationId) : List String :=
  let operation := context.definition.operationAt id
  match context.definition.service? operation.container with
  | none => []
  | some service =>
    let versions := service.apiVersions
    -- Without a mark an operation is there from the first version, and to the last.
    let first := (operation.versions.added.bind versions.idxOf?).getD 0
    let last := (operation.versions.removed.bind versions.idxOf?).getD versions.length
    (versions.take last).drop first

/-- The operation exists in the version that the run is about. -/
def isAvailable (id : OperationId) : Bool :=
  context.options.version == .all ||
    let container := (context.definition.operationAt id).container
    match context.definition.service? container with
    | none => true
    | some service =>
      match context.options.selectedVersion service.apiVersions with
      | some selected => (context.operationVersions id).contains selected
      | none => true

end Context

/-- What a run has found so far. -/
structure State where
  catalogue : Catalogue := {}
  /-- The node of every type declaration that was met. -/
  declared : OrderedMap TypeId NodeId := {}
  /-- The node that stands for a primitive kind without a declaration. -/
  builtins : OrderedMap BuiltinKind NodeId := {}
  names : NameRegistry := {}
  /-- The parameters that clients take, by the container of the client. -/
  clientParameters : OrderedMap ContainerId (List Property) := {}
  /-- The endpoint parameter of every service that was met. -/
  endpoints : OrderedMap ContainerId Property := {}
  /-- The credential parameter of every service that was met, if it wants credentials. -/
  credentials : OrderedMap ContainerId (Option Property) := {}
  seeds : List Seed := []
  /-- The types of bodies, each with whether it was sent as a multipart message. -/
  bodyFormats : List (NodeId × Bool) := []
  diagnostics : Diagnostics := {}

/-- A step of a run. What was found stays found when a step fails. -/
abbrev Derive := ExceptT Failure (StateM State)

/-- What a step comes to, where a failure of it is no failure of the run. -/
def attempt {α : Type} (step : Derive α) : Derive (Except Failure α) :=
  fun state =>
    -- The state that a failure leaves behind is kept.
    let (outcome, state) := step state
    (.ok outcome, state)

/-- What a search comes to; a run cannot go on after one that never comes to anything. -/
def answerOf {α : Type} (endless : TypeId → Violation) : Except TypeId α → Derive α
  | .ok found => return found
  | .error type => throw (.violation (endless type))

/-! ## Nodes -/

/-- Adds a node to the catalogue. -/
def addNode (node : Node) : Derive NodeId := do
  let catalogue := (← get).catalogue
  modify fun state => { state with catalogue := state.catalogue.push node }
  return ⟨catalogue.size⟩

/-- Changes a node of the catalogue. -/
def modifyNode (id : NodeId) (change : Node → Node) : Derive Unit :=
  modify fun state => { state with catalogue := state.catalogue.modify id change }

/-- A node of the catalogue. -/
def nodeAt (id : NodeId) : Derive Node :=
  return (← get).catalogue.nodeAt id

/-- The model that a node stands for. -/
def modelAt? (id : NodeId) : Derive (Option ModelNode) :=
  return (← get).catalogue.model? id

/-- Records the node of a type declaration, which must have no other. -/
def remember (type : TypeId) (node : NodeId) : Derive Unit := do
  let earlier := (← get).declared.get? type
  modify fun state => { state with declared := state.declared.insert type node }
  -- Remembering the same node again does no harm.
  if let some first := earlier then
    if first != node then throw (.violation (.projectedTwice type first node))

/-- The node of a primitive kind; the name counts only when the node is made. -/
def builtinNode (kind : BuiltinKind) (name : String) : Derive NodeId := do
  match (← get).builtins.get? kind with
  | some id => return id
  | none =>
    let id ← addNode { kind := .builtin { kind, name, encode := kind.defaultEncode } }
    modify fun state => { state with builtins := state.builtins.insert kind id }
    return id

/-- The node for texts. -/
def stringNode : Derive NodeId :=
  builtinNode .string "string"

/-- A new node for a literal; a name that is given was made up. -/
def addConstant (value : Literal) (name : Option String) : Derive NodeId :=
  addNode
    { kind := .constant
        { value, valueKind := .ofLiteral value, name, isGeneratedName := name.isSome } }

/-- Makes up a name for something without a declaration. -/
def claimName (candidate : String) : Derive String := do
  let (name, names) := (← get).names.claim candidate
  modify fun state => { state with names }
  return name

/-! ## Notes for later -/

/-- Notes that a type is used. -/
def addSeed (type : NodeId) (usage : Usage) (access : Access) : Derive Unit :=
  modify fun state => { state with seeds := state.seeds ++ [{ type, usage, access }] }

/-- Notes the format in which a body is sent. -/
def addBodyFormat (type : NodeId) (isMultipart : Bool) : Derive Unit :=
  modify fun state => { state with bodyFormats := state.bodyFormats ++ [(type, isMultipart)] }

/-- Notes a report. -/
def report (diagnostic : Diagnostic) : Derive Unit :=
  modify fun state => { state with diagnostics := state.diagnostics.add diagnostic }

/-- Notes an error. -/
def reportError (target : Declaration) (code message : String) : Derive Unit :=
  modify fun state =>
    { state with diagnostics := state.diagnostics.error (some target) code message }

/-- Notes a warning. -/
def reportWarning (target : Declaration) (code message : String) : Derive Unit :=
  modify fun state =>
    { state with diagnostics := state.diagnostics.warning (some target) code message }

/-- How many notes on usage there are: seeds, and formats of bodies. -/
structure UsageMark where
  seeds : Nat
  bodyFormats : Nat
  deriving DecidableEq

/-- How many notes on usage a run has taken. -/
def State.usageMark (state : State) : UsageMark :=
  { seeds := state.seeds.length, bodyFormats := state.bodyFormats.length }

/-- Forgets the notes on usage that were taken after a mark. -/
def discardUsageSince (mark : UsageMark) : Derive Unit :=
  modify fun state =>
    { state with
      seeds := state.seeds.take mark.seeds
      bodyFormats := state.bodyFormats.take mark.bodyFormats }

/-! ## Parameters of clients -/

/-- The parameters that a client and the clients around it take, nearest first. -/
def State.parametersInScope (state : State) (definition : Definition) (client : ContainerId) :
    List Property :=
  (definition.enclosing client).flatMap fun container =>
    (state.clientParameters.get? container).getD []

/-- The parameters that a client and the clients around it take, nearest first. -/
def Context.parametersInScope (context : Context) (client : ContainerId) : Derive (List Property) :=
  return (← get).parametersInScope context.definition client

/-- Lets a client take one more parameter. -/
def addClientParameter (client : ContainerId) (parameter : Property) : Derive Unit :=
  modify fun state =>
    { state with
      clientParameters :=
        state.clientParameters.alter client fun before => before.getD [] ++ [parameter] }

/-- Lets a client take a parameter, unless one in scope has its name or is as well the version. -/
def Context.elevate (context : Context) (client : ContainerId) (parameter : Property) :
    Derive Unit := do
  -- A version that goes by another name serves as well.
  let isServed := (← context.parametersInScope client).any fun other =>
    other.name == parameter.name || (other.isApiVersion && parameter.isApiVersion)
  unless isServed do
    addClientParameter client { parameter with onClient := true, role := .method }

end ClientModel.Derivation
