import ClientModel.Ids
import ClientModel.Service.Literal

/-! Declarations of types in a service definition. -/

namespace ClientModel.Service

/-- The final state of a long-running operation that a value stands for. -/
inductive FinalState where
  | succeeded
  | failed
  | canceled
  deriving DecidableEq

/-- The final state that a value names by convention. -/
def FinalState.ofName? : String → Option FinalState
  | "Succeeded" => some succeeded
  | "Failed" => some failed
  | "Canceled" => some canceled
  | _ => none

/-- The conventional name of a final state. -/
def FinalState.name : FinalState → String
  | succeeded => "Succeeded"
  | failed => "Failed"
  | canceled => "Canceled"

/-- Types that the language of definitions brings along. -/
inductive Intrinsic where
  | null
  | void
  | never
  | unknown
  deriving DecidableEq

/-- The name of an intrinsic type. -/
def Intrinsic.name : Intrinsic → String
  | null => "null"
  | void => "void"
  | never => "never"
  | unknown => "unknown"

/-- The intrinsic type of a name. -/
def Intrinsic.ofName? (name : String) : Option Intrinsic :=
  [null, void, never, unknown].find? fun intrinsic => intrinsic.name == name

/-- A scalar: a standard one has neither namespace nor base, a custom one extends its base. -/
structure Scalar where
  name : String
  namespaceId : Option ContainerId := none
  base : Option TypeId := none
  /-- How values are encoded on the wire, where that is said. -/
  encode : Option String := none
  deriving DecidableEq

/-- An enum with its members. -/
structure Enumeration where
  name : String
  namespaceId : Option ContainerId := none
  members : List TypeId := []
  deriving DecidableEq

/-- A member of an enum; without a value of its own it stands for its name. -/
structure Member where
  name : String
  value : Option Literal := none
  parent : TypeId
  finalState : Option FinalState := none
  deriving DecidableEq

/-- One of the types that a union admits. -/
structure Variant where
  name : Option String := none
  type : TypeId
  finalState : Option FinalState := none
  deriving DecidableEq

/-- A union, named or not. -/
structure Union where
  name : Option String := none
  namespaceId : Option ContainerId := none
  variants : List Variant := []
  deriving DecidableEq

/-- A model: a composite of properties, with the models it extends and that extend it. -/
structure Model where
  name : Option String := none
  namespaceId : Option ContainerId := none
  properties : List PropertyId := []
  base : Option TypeId := none
  derived : List TypeId := []
  /-- The wire name of the property that tells the derived models apart. -/
  discriminator : Option String := none
  additionalProperties : Option TypeId := none
  isError : Bool := false
  deriving DecidableEq

/-- What a type declaration declares. -/
inductive Shape where
  | scalar (declared : Scalar)
  | intrinsic (declared : Intrinsic)
  | literal (value : Literal)
  | enumeration (declared : Enumeration)
  | member (declared : Member)
  | union (declared : Union)
  | array (element : TypeId)
  | record (value : TypeId)
  | model (declared : Model)
  deriving DecidableEq

/-- A type declaration. -/
structure TypeDecl where
  shape : Shape
  deprecation : Option String := none
  doc : Option String := none
  deriving DecidableEq

namespace TypeDecl

/-- The declared name, for the shapes that carry one. -/
def name? (declaration : TypeDecl) : Option String :=
  match declaration.shape with
  | .scalar scalar => some scalar.name
  | .enumeration enumeration => some enumeration.name
  | .member member => some member.name
  | .union union => union.name
  | .model model => model.name
  | _ => none

/-- The namespace a type is declared in. -/
def namespace? (declaration : TypeDecl) : Option ContainerId :=
  match declaration.shape with
  | .scalar scalar => scalar.namespaceId
  | .enumeration enumeration => enumeration.namespaceId
  | .union union => union.namespaceId
  | .model model => model.namespaceId
  | _ => none

end TypeDecl

end ClientModel.Service
