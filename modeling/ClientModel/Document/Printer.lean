import ClientModel.Document.Value
import ClientModel.Decimal.Notation

/-! Documents as text: JSON with two spaces for each level, or without any white space. -/

namespace ClientModel.Document

open Decimal (Double)

/-- The lower-case hexadecimal digit of a number below sixteen. -/
def hexDigit (n : Nat) : Char :=
  if n < 10 then Char.ofNat ('0'.toNat + n) else Char.ofNat ('a'.toNat + (n - 10))

/-- How one character stands in a quoted text. -/
def escape (c : Char) : List Char :=
  match c with
  | '"' => ['\\', '"']
  | '\\' => ['\\', '\\']
  | '\n' => ['\\', 'n']
  | '\r' => ['\\', 'r']
  | '\t' => ['\\', 't']
  | '\x08' => ['\\', 'b']
  | '\x0c' => ['\\', 'f']
  | c =>
    if c.toNat < 0x20 then
      ['\\', 'u', '0', '0', hexDigit (c.toNat / 16), hexDigit (c.toNat % 16)]
    else [c]

/-- A text in quotes. -/
def quote (text : String) : String :=
  String.ofList ('"' :: text.toList.flatMap escape ++ ['"'])

/-- A line break and the spaces that start a line of the given level. -/
def lineBreak (level : Nat) : String :=
  String.ofList ('\n' :: List.replicate (2 * level) ' ')

/-- The items of a list or fields of a record, each on a line of its own between two brackets. -/
def block (opening closing : String) (level : Nat) : List String → String
  | [] => opening ++ closing
  | items =>
    opening ++ lineBreak (level + 1) ++ ("," ++ lineBreak (level + 1)).intercalate items ++
      lineBreak level ++ closing

mutual

/-- The indented text of a document that begins on a line of the given level. -/
def prettyAt (level : Nat) : Document → String
  | .null => "null"
  | .boolean value => if value then "true" else "false"
  | .integer value => toString value
  | .number value => value.written.getD "null"
  | .text value => quote value
  | .list items => block "[" "]" level (prettyItems (level + 1) items)
  | .record fields => block "\x7b" "\x7d" level (prettyFields (level + 1) fields)
  | .table entries => block "\x7b" "\x7d" level (prettyFields (level + 1) entries)

/-- The texts of the items of a list. -/
def prettyItems (level : Nat) : List Document → List String
  | [] => []
  | item :: rest => prettyAt level item :: prettyItems level rest

/-- The texts of the fields of a record, each with its name. -/
def prettyFields (level : Nat) : List (String × Document) → List String
  | [] => []
  | (name, value) :: rest => (quote name ++ ": " ++ prettyAt level value) :: prettyFields level rest

end

/-- The indented text of a document. -/
def pretty (document : Document) : String :=
  prettyAt 0 document

mutual

/-- The text of a document on one line. -/
def compact : Document → String
  | .null => "null"
  | .boolean value => if value then "true" else "false"
  | .integer value => toString value
  | .number value => value.written.getD "null"
  | .text value => quote value
  | .list items => "[" ++ ",".intercalate (compactItems items) ++ "]"
  | .record fields => "\x7b" ++ ",".intercalate (compactFields fields) ++ "\x7d"
  | .table entries => "\x7b" ++ ",".intercalate (compactFields entries) ++ "\x7d"

/-- The texts of the items of a list, each on one line. -/
def compactItems : List Document → List String
  | [] => []
  | item :: rest => compact item :: compactItems rest

/-- The texts of the fields of a record with their names, each on one line. -/
def compactFields : List (String × Document) → List String
  | [] => []
  | (name, value) :: rest => (quote name ++ ":" ++ compact value) :: compactFields rest

end

end ClientModel.Document
