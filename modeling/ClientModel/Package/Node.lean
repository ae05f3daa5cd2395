import ClientModel.OrderedMap
import ClientModel.Usage
import ClientModel.Package.Builtin
import ClientModel.Package.Property
import ClientModel.Service.Container
import ClientModel.Text.Ascii

/-! Derived types: nodes that refer to one another by their places in a catalogue. -/

namespace ClientModel

open Service (AuthScheme Literal)

/-- A primitive type. -/
structure BuiltinNode where
  kind : BuiltinKind
  /-- The name of the scalar, as declared. -/
  name : String
  encode : Option String := none
  /-- The scalar that a custom scalar extends. -/
  base : Option NodeId := none

/-- A type with a single value. -/
structure ConstantNode where
  value : Literal
  valueKind : BuiltinKind
  /-- A name that was made up for the constant. -/
  name : Option String := none
  isGeneratedName : Bool := false

/-- An enum. -/
structure EnumNode where
  name : String
  isGeneratedName : Bool := false
  «namespace» : String
  valueKind : BuiltinKind
  values : List NodeId := []
  /-- The enum admits no values but those listed. -/
  isFixed : Bool := true
  /-- The enum was declared as a union of literals. -/
  isFlattenedUnion : Bool := false
  usage : Usage := .none
  access : Option Access := none
  crossId : String

/-- A value of an enum. -/
structure EnumValueNode where
  name : String
  value : Literal
  enumeration : NodeId

/-- A union. -/
structure UnionNode where
  name : Option String := none
  isGeneratedName : Bool := false
  «namespace» : String := ""
  variants : List NodeId := []
  usage : Usage := .none
  access : Option Access := none
  crossId : String := ""

/-- A model. -/
structure ModelNode where
  name : String
  isGeneratedName : Bool := false
  «namespace» : String
  properties : List Property := []
  base : Option NodeId := none
  additionalProperties : Option NodeId := none
  /-- The wire name of the property that tells subtypes apart. -/
  discriminatorProperty : Option String := none
  /-- The value of that property by which this subtype is known. -/
  discriminatorValue : Option String := none
  /-- The subtypes, by the value that each is known by. -/
  subtypes : Option (OrderedMap String NodeId) := none
  isError : Bool := false
  usage : Usage := .none
  access : Option Access := none
  crossId : String

/-- The property of a name. -/
def ModelNode.property? (model : ModelNode) (name : String) : Option Property :=
  model.properties.find? fun property => property.name == name

/-- A template of server URLs, and the parameters of clients that fill it. -/
structure Endpoint where
  serverUrl : String
  arguments : List Property

/-- The template is a single argument between braces, so that a caller may give any URL. -/
def Endpoint.isOverridable (endpoint : Endpoint) : Bool :=
  endpoint.arguments.length == 1 && Text.starts "\x7b" endpoint.serverUrl &&
    Text.ends "\x7d" endpoint.serverUrl

/-- What a node stands for. -/
inductive NodeKind where
  | builtin (node : BuiltinNode)
  | enumeration (node : EnumNode)
  | enumValue (node : EnumValueNode)
  | union (node : UnionNode)
  | array (value : NodeId)
  | dict (key value : NodeId)
  | constant (node : ConstantNode)
  | model (node : ModelNode)
  | credential (schemes : List AuthScheme)
  | endpoint (node : Endpoint)

/-- The word for what a node stands for. -/
def NodeKind.label : NodeKind → String
  | builtin _ => "builtin"
  | enumeration _ => "enum"
  | enumValue _ => "enumvalue"
  | union _ => "union"
  | array _ => "array"
  | dict _ _ => "dict"
  | constant _ => "constant"
  | model _ => "model"
  | credential _ => "credential"
  | endpoint _ => "endpoint"

/-- A derived type. -/
structure Node where
  /-- The declaration it comes from, if it comes from one. -/
  origin : Option TypeId := none
  nullable : Bool := false
  deprecation : Option String := none
  doc : Option String := none
  kind : NodeKind

namespace Node

/-- The model that a node stands for. -/
def model? (node : Node) : Option ModelNode :=
  match node.kind with
  | .model model => some model
  | _ => none

/-- The enum that a node stands for. -/
def enumeration? (node : Node) : Option EnumNode :=
  match node.kind with
  | .enumeration enumeration => some enumeration
  | _ => none

/-- The union that a node stands for. -/
def union? (node : Node) : Option UnionNode :=
  match node.kind with
  | .union union => some union
  | _ => none

/-- The name of a node, where it has one. -/
def name? (node : Node) : Option String :=
  match node.kind with
  | .model model => some model.name
  | .enumeration enumeration => some enumeration.name
  | .union union => union.name
  | .constant constant => constant.name
  | .enumValue value => some value.name
  | .builtin builtin => some builtin.name
  | _ => none

/-- The usage of a model, an enum or a union; other nodes carry none. -/
def usage? (node : Node) : Option Usage :=
  match node.kind with
  | .model model => some model.usage
  | .enumeration enumeration => some enumeration.usage
  | .union union => some union.usage
  | _ => none

/-- Who may see a model, an enum or a union. -/
def access? (node : Node) : Option Access :=
  match node.kind with
  | .model model => model.access
  | .enumeration enumeration => enumeration.access
  | .union union => union.access
  | _ => none

/-- Changes the model that a node stands for; other nodes stay as they are. -/
def mapModel (node : Node) (change : ModelNode → ModelNode) : Node :=
  match node.kind with
  | .model model => { node with kind := .model (change model) }
  | _ => node

/-- Changes the enum that a node stands for; other nodes stay as they are. -/
def mapEnumeration (node : Node) (change : EnumNode → EnumNode) : Node :=
  match node.kind with
  | .enumeration enumeration => { node with kind := .enumeration (change enumeration) }
  | _ => node

/-- Changes the union that a node stands for; other nodes stay as they are. -/
def mapUnion (node : Node) (change : UnionNode → UnionNode) : Node :=
  match node.kind with
  | .union union => { node with kind := .union (change union) }
  | _ => node

/-- The node carries usage and access: it is a model, an enum or a union. -/
def carriesUsage (node : Node) : Bool :=
  node.usage?.isSome

/-- Changes the usage and the access of a node that carries them; other nodes stay as they are. -/
def mapUse (node : Node) (change : Usage → Option Access → Usage × Option Access) : Node :=
  match node.kind with
  | .model model =>
    let (usage, access) := change model.usage model.access
    { node with kind := .model { model with usage, access } }
  | .enumeration enumeration =>
    let (usage, access) := change enumeration.usage enumeration.access
    { node with kind := .enumeration { enumeration with usage, access } }
  | .union union =>
    let (usage, access) := change union.usage union.access
    { node with kind := .union { union with usage, access } }
  | _ => node

/-- Sets who may see a node that carries usage. -/
def setAccess (node : Node) (access : Option Access) : Node :=
  node.mapUse fun usage _ => (usage, access)

end Node

/-- All derived types of a run, each at the place that its identifier names. -/
structure Catalogue where
  nodes : Array Node := #[]

namespace Catalogue

variable (catalogue : Catalogue)

/-- The node of an identifier; one out of range reads as a type that may hold anything. -/
def nodeAt (id : NodeId) : Node :=
  catalogue.nodes.getD id.index { kind := .builtin { kind := .any, name := "" } }

/-- How many nodes there are. -/
def size : Nat :=
  catalogue.nodes.size

/-- The identifiers of all nodes, in order. -/
def ids : List NodeId :=
  (List.range catalogue.size).map NodeId.mk

/-- Changes one node. -/
def modify (id : NodeId) (change : Node → Node) : Catalogue :=
  ⟨catalogue.nodes.modify id.index change⟩

/-- Changes every node. -/
def map (change : Node → Node) : Catalogue :=
  ⟨catalogue.nodes.map change⟩

/-- The catalogue with one more node at its end. -/
def push (node : Node) : Catalogue :=
  ⟨catalogue.nodes.push node⟩

/-- The model that an identifier stands for. -/
def model? (id : NodeId) : Option ModelNode :=
  (catalogue.nodeAt id).model?

/-- The first model of a name. -/
def findModel? (name : String) : Option NodeId :=
  catalogue.ids.find? fun id => (catalogue.model? id).any fun model => model.name == name

/-- The first enum of a name. -/
def findEnumeration? (name : String) : Option NodeId :=
  catalogue.ids.find? fun id =>
    (catalogue.nodeAt id).enumeration?.any fun enumeration => enumeration.name == name

/-- The first union of a name. -/
def findUnion? (name : String) : Option NodeId :=
  catalogue.ids.find? fun id =>
    (catalogue.nodeAt id).union?.any fun union => union.name == some name

end Catalogue

end ClientModel
