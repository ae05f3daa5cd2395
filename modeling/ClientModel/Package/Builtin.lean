import ClientModel.Service.Literal

/-! The primitive kinds that every target language knows. -/

namespace ClientModel

open Service (Literal)

/-- A primitive kind. -/
inductive BuiltinKind where
  | any
  | string
  | boolean
  | bytes
  | int8
  | int16
  | int32
  | int64
  | uint8
  | uint16
  | uint32
  | uint64
  | safeInt
  | integer
  | float32
  | float64
  | float
  | decimal
  | decimal128
  | numeric
  | url
  | plainDate
  | plainTime
  | utcDateTime
  | offsetDateTime
  | duration
  deriving DecidableEq

namespace BuiltinKind

/-- The name of a kind. -/
def label : BuiltinKind → String
  | any => "any"
  | string => "string"
  | boolean => "boolean"
  | bytes => "bytes"
  | int8 => "int8"
  | int16 => "int16"
  | int32 => "int32"
  | int64 => "int64"
  | uint8 => "uint8"
  | uint16 => "uint16"
  | uint32 => "uint32"
  | uint64 => "uint64"
  | safeInt => "safeInt"
  | integer => "integer"
  | float32 => "float32"
  | float64 => "float64"
  | float => "float"
  | decimal => "decimal"
  | decimal128 => "decimal128"
  | numeric => "numeric"
  | url => "url"
  | plainDate => "plainDate"
  | plainTime => "plainTime"
  | utcDateTime => "utcDateTime"
  | offsetDateTime => "offsetDateTime"
  | duration => "duration"

/-- The kinds of numbers. -/
def numericKinds : List BuiltinKind :=
  [int8, int16, int32, int64, uint8, uint16, uint32, uint64, safeInt, integer, float32, float64,
    float, decimal, decimal128, numeric]

/-- The kinds that a standard scalar can have. -/
def scalarKinds : List BuiltinKind :=
  [string, boolean, bytes] ++ numericKinds ++
    [url, plainDate, plainTime, utcDateTime, offsetDateTime, duration]

/-- The name of the standard scalar of a kind. -/
def scalarName (kind : BuiltinKind) : String :=
  if kind == safeInt then "safeint" else kind.label

/-- The kind of a standard scalar; scalars that are not known may hold anything. -/
def ofScalarName (name : String) : BuiltinKind :=
  (scalarKinds.find? fun kind => kind.scalarName == name).getD any

/-- How values of the kind are encoded on the wire unless something else is said. -/
def defaultEncode : BuiltinKind → Option String
  | bytes => some "base64"
  | utcDateTime | offsetDateTime => some "rfc3339"
  | duration => some "ISO8601"
  | _ => none

/-- Values of the kind are numbers. -/
def isNumeric (kind : BuiltinKind) : Bool :=
  numericKinds.contains kind

/-- The kind of a literal; a number without a fraction is taken for a whole one. -/
def ofLiteral : Literal → BuiltinKind
  | .text _ => string
  | .boolean _ => boolean
  | .number value => if value.isIntegral then int32 else float32

/-- The kind that literals have in common: they are numbers of one kind, or else taken for texts. -/
def ofLiterals (values : List Literal) : BuiltinKind :=
  let kinds := values.map ofLiteral
  if kinds.isEmpty || kinds.any fun kind => !kind.isNumeric then string
  else if kinds.contains float32 then float32
  else int32

end BuiltinKind

end ClientModel
