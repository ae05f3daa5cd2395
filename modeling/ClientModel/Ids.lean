/-! The identifiers of declarations and of the nodes derived from them: positions in tables. -/

namespace ClientModel

/-- A type declaration. -/
structure TypeId where
  index : Nat
  deriving DecidableEq

/-- A property declaration: a member of a model, a parameter or a header. -/
structure PropertyId where
  index : Nat
  deriving DecidableEq

/-- An operation declaration. -/
structure OperationId where
  index : Nat
  deriving DecidableEq

/-- A namespace or an interface. -/
structure ContainerId where
  index : Nat
  deriving DecidableEq

/-- A node of the catalogue of derived types. -/
structure NodeId where
  index : Nat
  deriving DecidableEq

/-- How a type declaration is named in messages. -/
def TypeId.label (id : TypeId) : String := s!"TypeDeclId#{id.index}"

/-- How a property declaration is named in messages. -/
def PropertyId.label (id : PropertyId) : String := s!"PropertyId#{id.index}"

/-- How an operation declaration is named in messages. -/
def OperationId.label (id : OperationId) : String := s!"OperationId#{id.index}"

/-- How a container is named in messages. -/
def ContainerId.label (id : ContainerId) : String := s!"ContainerId#{id.index}"

/-- How a node is named in messages. -/
def NodeId.label (id : NodeId) : String := s!"SdkTypeId#{id.index}"

/-- Any declaration: what a customization is about and what a diagnostic points at. -/
inductive Declaration where
  | type (id : TypeId)
  | property (id : PropertyId)
  | operation (id : OperationId)
  | container (id : ContainerId)
  deriving DecidableEq

namespace Declaration

/-- How a declaration is named in messages. -/
def label : Declaration → String
  | type id => id.label
  | property id => id.label
  | operation id => id.label
  | container id => id.label

/-- The identifier of a type declaration. -/
def type? : Declaration → Option TypeId
  | type id => some id
  | _ => none

/-- The identifier of a property declaration. -/
def property? : Declaration → Option PropertyId
  | property id => some id
  | _ => none

/-- The identifier of an operation declaration. -/
def operation? : Declaration → Option OperationId
  | operation id => some id
  | _ => none

/-- The identifier of a container. -/
def container? : Declaration → Option ContainerId
  | container id => some id
  | _ => none

/-- The place of a declaration in the order of all: types, properties, operations, containers. -/
def rank : Declaration → Nat × Nat
  | type id => (0, id.index)
  | property id => (1, id.index)
  | operation id => (2, id.index)
  | container id => (3, id.index)

/-- The first declaration comes no later than the second. -/
def notAfter (left right : Declaration) : Bool :=
  left.rank.1 < right.rank.1 || (left.rank.1 == right.rank.1 && left.rank.2 ≤ right.rank.2)

/-- Declarations in order. -/
def sort (declarations : List Declaration) : List Declaration :=
  declarations.mergeSort notAfter

end Declaration

end ClientModel
