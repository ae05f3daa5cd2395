import ClientModel.Decimal.Notation

/-! Literal values: the types that admit one value, the values of enum members, and defaults. -/

namespace ClientModel.Service

open Decimal (Double)

/-- A literal value. -/
inductive Literal where
  | text (value : String)
  | number (value : Double)
  | boolean (value : Bool)
  deriving DecidableEq

namespace Literal

/-- The text of a textual literal. -/
def text? : Literal → Option String
  | text value => some value
  | _ => none

/-- A literal as it is shown to a reader; a text stands between quotes just as it is. -/
def display : Literal → String
  | text value => "\"" ++ value ++ "\""
  | number value => value.display
  | boolean value => if value then "true" else "false"

end Literal

end ClientModel.Service
