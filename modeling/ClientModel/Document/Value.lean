import ClientModel.Decimal.Double

/-! Documents: trees of named and listed values, the form in which a package leaves the library. -/

namespace ClientModel

open Decimal (Double)

/--
A document.

A record has the fixed fields of some structure, a table the entries of some map; both keep their
order.
-/
inductive Document where
  | null
  | boolean (value : Bool)
  | integer (value : Int)
  | number (value : Double)
  | text (value : String)
  | list (items : List Document)
  | record (fields : List (String × Document))
  | table (entries : List (String × Document))

namespace Document

/-- A natural number as a document. -/
def ofNat (n : Nat) : Document :=
  .integer n

/-- An optional value as a document; nothing is written as null. -/
def ofOption {α : Type} (write : α → Document) : Option α → Document
  | none => .null
  | some value => write value

/-- A list of values as a document. -/
def ofList {α : Type} (write : α → Document) (values : List α) : Document :=
  .list (values.map write)

/-- An optional text as a document. -/
def ofText? : Option String → Document :=
  ofOption .text

/-- A list of texts as a document. -/
def ofTexts : List String → Document :=
  ofList .text

/-- The value of a field of a record or a table; of a repeated name the last one counts. -/
def field? (name : String) : Document → Option Document
  | .record fields | .table fields => fields.reverse.lookup name
  | _ => none

end Document

end ClientModel
