/-! How derived types are used, who may see them, and how clients come into being. -/

namespace ClientModel

/-- A set of ways in which a type is used; every operation that reaches the type adds to it. -/
structure Usage where
  bits : UInt32
  deriving DecidableEq

namespace Usage

def none : Usage := ⟨0⟩
def input : Usage := ⟨2⟩
def output : Usage := ⟨4⟩
def apiVersionEnum : Usage := ⟨8⟩
def jsonMergePatch : Usage := ⟨16⟩
def multipartFormData : Usage := ⟨32⟩
/-- An anonymous body put together from single parameters; never passed on to other types. -/
def spread : Usage := ⟨64⟩
def exception : Usage := ⟨128⟩
def json : Usage := ⟨256⟩
def xml : Usage := ⟨512⟩

/-- The ways that have names, in the order in which they are listed. -/
def named : List (Usage × String) :=
  [(input, "Input"), (output, "Output"), (apiVersionEnum, "ApiVersionEnum"),
    (jsonMergePatch, "JsonMergePatch"), (multipartFormData, "MultipartFormData"),
    (spread, "Spread"), (exception, "Exception"), (json, "Json"), (xml, "Xml")]

/-- Both usages together. -/
def union (left right : Usage) : Usage := ⟨left.bits ||| right.bits⟩

/-- What both usages have. -/
def common (left right : Usage) : Usage := ⟨left.bits &&& right.bits⟩

/-- What the first usage has and the second has not. -/
def difference (left right : Usage) : Usage := ⟨left.bits &&& ~~~right.bits⟩

/-- No way of use at all. -/
def isEmpty (usage : Usage) : Bool := usage.bits == 0

/-- Everything in the second usage is in the first. -/
def contains (usage part : Usage) : Bool := usage.bits &&& part.bits == part.bits

/-- The usages have something in common. -/
def intersects (left right : Usage) : Bool := left.bits &&& right.bits != 0

/-- What is passed on to the types that a type refers to. -/
def propagated (usage : Usage) : Usage := usage.difference spread

/-- A usage as it is shown to a reader; ways without a name are left out. -/
def label (usage : Usage) : String :=
  if usage.isEmpty then "UsageFlags(None)"
  else
    let names := named.filterMap fun (way, name) => if usage.contains way then some name else .none
    "UsageFlags(" ++ " | ".intercalate names ++ ")"

instance : OrOp Usage := ⟨union⟩
instance : AndOp Usage := ⟨common⟩

end Usage

/-- Who may see a method or a type. -/
inductive Access where
  | everyone
  | withinPackage
  deriving DecidableEq

namespace Access

/-- The way in which a visibility is shown to a reader. -/
def label : Access → String
  | everyone => "Public"
  | withinPackage => "Internal"

/-- The wider of two accesses. -/
def widest : Access → Access → Access
  | withinPackage, withinPackage => withinPackage
  | _, _ => everyone

end Access

/-- The ways in which a client may be made: on its own, by its parent, or both. -/
inductive Initialization where
  | individually
  | byParent
  | both
  deriving DecidableEq

namespace Initialization

/-- A client may be made on its own. -/
def isIndividual : Initialization → Bool
  | individually | both => true
  | byParent => false

/-- A client may be made by its parent. -/
def isByParent : Initialization → Bool
  | byParent | both => true
  | individually => false

/-- The number that stands for the ways: one for the client itself, two for its parent. -/
def bits : Initialization → Nat
  | individually => 1
  | byParent => 2
  | both => 3

/-- The ways that a number stands for; nothing for zero and for numbers beyond three. -/
def ofBits? : Nat → Option Initialization
  | 1 => some individually
  | 2 => some byParent
  | 3 => some both
  | _ => none

/-- Every way of the second is one of the first. -/
def contains (ways part : Initialization) : Bool :=
  (!part.isIndividual || ways.isIndividual) && (!part.isByParent || ways.isByParent)

/-- All the ways of either. -/
def union : Initialization → Initialization → Initialization
  | individually, individually => individually
  | byParent, byParent => byParent
  | _, _ => both

/-- The way in which the ways are shown to a reader. -/
def label : Initialization → String
  | individually => "InitializedBy(Individually)"
  | byParent => "InitializedBy(Parent)"
  | both => "InitializedBy(Individually | Parent)"

end Initialization

end ClientModel
