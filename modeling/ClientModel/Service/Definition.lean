import ClientModel.Service.Customization

/-! Service definitions: tables of declarations that refer to one another, and questions on them. -/

namespace ClientModel.Service

/-- A service definition with its customizations. -/
structure Definition where
  types : Array TypeDecl := #[]
  properties : Array PropertyDecl := #[]
  operations : Array Operation := #[]
  containers : Array Container := #[]
  customizations : Customizations := {}

namespace Definition

variable (definition : Definition)

/-- A type declaration; an identifier out of range reads as the unknown type. -/
def typeAt (id : TypeId) : TypeDecl :=
  definition.types.getD id.index { shape := .intrinsic .unknown }

/-- A property declaration; an identifier out of range reads as a nameless property. -/
def propertyAt (id : PropertyId) : PropertyDecl :=
  definition.properties.getD id.index { name := "", type := ⟨0⟩ }

/-- An operation declaration; an identifier out of range reads as one that does nothing. -/
def operationAt (id : OperationId) : Operation :=
  definition.operations.getD id.index { name := "", container := ⟨0⟩, verb := .get, path := "" }

/-- A container declaration; an identifier out of range reads as an empty namespace. -/
def containerAt (id : ContainerId) : Container :=
  definition.containers.getD id.index { name := "" }

/-- The identifiers of all operations, in order. -/
def operationIds : List OperationId :=
  (List.range definition.operations.size).map OperationId.mk

/-- The identifiers of all containers, in order. -/
def containerIds : List ContainerId :=
  (List.range definition.containers.size).map ContainerId.mk

/-! ## Types -/

/-- What a type declares. -/
def shapeAt (id : TypeId) : Shape :=
  (definition.typeAt id).shape

/-- The model that a type declares, if it does. -/
def model? (id : TypeId) : Option Model :=
  match definition.shapeAt id with
  | .model model => some model
  | _ => none

/-- The type carries no value: `void` or `never`. -/
def isVoidLike (id : TypeId) : Bool :=
  match definition.shapeAt id with
  | .intrinsic .void | .intrinsic .never => true
  | _ => false

/-- The type is `null`. -/
def isNull (id : TypeId) : Bool :=
  definition.shapeAt id == .intrinsic .null

/-- The name of the scalar without a base that a scalar extends, found within the given steps. -/
def standardScalarWithin : Nat → TypeId → Option String
  | 0, _ => none
  | steps + 1, id =>
    match definition.shapeAt id with
    | .scalar scalar =>
      match scalar.base with
      | some base => standardScalarWithin steps base
      | none => some scalar.name
    | _ => none

/-- The name of the standard scalar that a scalar extends in the end. -/
def standardScalar? (id : TypeId) : Option String :=
  definition.standardScalarWithin definition.types.size id

/--
The nearest encoding declared by a scalar or one of its bases, found within the given steps.

Where these do not suffice, the answer is the type that comes next.
-/
def encodingWithin : Nat → TypeId → Except TypeId (Option String)
  | 0, id => .error id
  | steps + 1, id =>
    match definition.shapeAt id with
    | .scalar scalar =>
      match scalar.encode, scalar.base with
      | some encode, _ => .ok (some encode)
      -- A scalar that is its own base has no other one.
      | none, some base => if base = id then .ok none else encodingWithin steps base
      | none, none => .ok none
    | _ => .ok none

/--
The nearest encoding that a scalar or one of its bases declares.

A walk that is still under way after more steps than there are types never ends.
-/
def encoding? (id : TypeId) : Except TypeId (Option String) :=
  definition.encodingWithin (definition.types.size + 1) id

/-- A type and its bases up to the first one that was met before. -/
def lineageWithin : Nat → List TypeId → TypeId → List TypeId
  | 0, _, _ => []
  | steps + 1, met, id =>
    if met.contains id then []
    else
      id ::
        match (definition.model? id).bind Model.base with
        | some base => lineageWithin steps (id :: met) base
        | none => []

/-- A type and its bases, nearest first; all but the last are models, so the table bounds them. -/
def lineage (id : TypeId) : List TypeId :=
  definition.lineageWithin (definition.types.size + 1) [] id

/-- The properties of a model, inherited ones first. -/
def allProperties (id : TypeId) : List PropertyId :=
  ((definition.lineage id).reverse.filterMap definition.model?).flatMap Model.properties

/-- The properties of a model that belong to its payload, inherited ones first. -/
def payloadProperties (id : TypeId) : List PropertyId :=
  (definition.allProperties id).filter fun property => !(definition.propertyAt property).isMetadata

/-! ## Properties -/

/-- The property at the end of a chain of copies, found within the given steps. -/
def rootSourceWithin : Nat → PropertyId → PropertyId
  | 0, id => id
  | steps + 1, id =>
    match (definition.propertyAt id).source with
    | some source => if source == id then id else rootSourceWithin steps source
    | none => id

/-- The property that a property was first copied from; itself if it is no copy. -/
def rootSource (id : PropertyId) : PropertyId :=
  definition.rootSourceWithin definition.properties.size id

/-! ## Containers -/

/-- A container and the containers around it, nearest first, up to the given number. -/
def enclosingWithin : Nat → ContainerId → List ContainerId
  | 0, _ => []
  | steps + 1, id =>
    id ::
      match (definition.containerAt id).parent with
      | some parent => enclosingWithin steps parent
      | none => []

/-- A container and all containers around it, nearest first. -/
def enclosing (id : ContainerId) : List ContainerId :=
  definition.enclosingWithin (definition.containers.size + 1) id

/-- The names from the outermost container down to this one, with dots between them. -/
def fullName (id : ContainerId) : String :=
  ".".intercalate ((definition.enclosing id).reverse.map fun container =>
    (definition.containerAt container).name)

/-- The namespace of what a container becomes: an interface adds nothing to its parent's. -/
def namespaceOf (id : ContainerId) : String :=
  let container := definition.containerAt id
  match container.isInterface, container.parent with
  | true, some parent => definition.fullName parent
  | _, _ => definition.fullName id

/-- The nearest container, from this one outwards, that declares a service. -/
def serviceRoot? (id : ContainerId) : Option ContainerId :=
  (definition.enclosing id).find? fun container => (definition.containerAt container).service.isSome

/-- The service that a container belongs to. -/
def service? (id : ContainerId) : Option Info :=
  (definition.serviceRoot? id).bind fun root => (definition.containerAt root).service

/-- The second container is the first one or encloses it. -/
def isWithin (id ancestor : ContainerId) : Bool :=
  (definition.enclosing id).contains ancestor

/-- The types that services want although no operation may refer to them. -/
def orphanTypes : List TypeId :=
  (definition.containerIds.filterMap fun id => (definition.containerAt id).service).flatMap
    Info.orphanTypes

/-- The identifier under which the derived form of an operation is known in every language. -/
def operationCrossId (id : OperationId) : String :=
  let operation := definition.operationAt id
  definition.fullName operation.container ++ "." ++ operation.name

end Definition

end ClientModel.Service
