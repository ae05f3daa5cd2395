import ClientModel.Document.Value

/-!
Reading documents from JSON text.

A number with a fraction or an exponent is read as the nearest binary64 number, any other one as the
whole number it spells.
-/

namespace ClientModel.Document

open Decimal (Double)

/-- The text without its leading white space. -/
def skipSpace (input : List Char) : List Char :=
  input.dropWhile fun c => c == ' ' || c == '\n' || c == '\r' || c == '\t'

/-- The value of a hexadecimal digit. -/
def hexValue? (c : Char) : Option Nat :=
  if '0' ≤ c && c ≤ '9' then some (c.toNat - '0'.toNat)
  else if 'a' ≤ c && c ≤ 'f' then some (c.toNat - 'a'.toNat + 10)
  else if 'A' ≤ c && c ≤ 'F' then some (c.toNat - 'A'.toNat + 10)
  else none

/-- Four hexadecimal digits and the text after them. -/
def readCodeUnit? : List Char → Option (Nat × List Char)
  | a :: b :: c :: d :: rest => do
    let a ← hexValue? a
    let b ← hexValue? b
    let c ← hexValue? c
    let d ← hexValue? d
    return (((a * 16 + b) * 16 + c) * 16 + d, rest)
  | _ => none

/-- The character of an escape that begins after `\u`, where two surrogates make one character. -/
def readEscaped? (input : List Char) : Option (Char × List Char) := do
  let (unit, rest) ← readCodeUnit? input
  if 0xD800 ≤ unit && unit < 0xDC00 then
    match rest with
    | '\\' :: 'u' :: rest =>
      let (low, rest) ← readCodeUnit? rest
      if 0xDC00 ≤ low && low < 0xE000 then
        return (Char.ofNat (0x10000 + (unit - 0xD800) * 0x400 + (low - 0xDC00)), rest)
      else none
    | _ => none
  else if 0xDC00 ≤ unit && unit < 0xE000 then none
  else return (Char.ofNat unit, rest)

/-- The rest of a quoted text after its opening quote; `taken` holds its characters in reverse. -/
def readQuoted? : Nat → List Char → List Char → Option (String × List Char)
  | 0, _, _ => none
  | fuel + 1, taken, input =>
    match input with
    | '"' :: rest => some (String.ofList taken.reverse, rest)
    | '\\' :: 'u' :: rest => do
      let (c, rest) ← readEscaped? rest
      readQuoted? fuel (c :: taken) rest
    | '\\' :: '"' :: rest => readQuoted? fuel ('"' :: taken) rest
    | '\\' :: '\\' :: rest => readQuoted? fuel ('\\' :: taken) rest
    | '\\' :: '/' :: rest => readQuoted? fuel ('/' :: taken) rest
    | '\\' :: 'b' :: rest => readQuoted? fuel ('\x08' :: taken) rest
    | '\\' :: 'f' :: rest => readQuoted? fuel ('\x0c' :: taken) rest
    | '\\' :: 'n' :: rest => readQuoted? fuel ('\n' :: taken) rest
    | '\\' :: 'r' :: rest => readQuoted? fuel ('\r' :: taken) rest
    | '\\' :: 't' :: rest => readQuoted? fuel ('\t' :: taken) rest
    | '\\' :: _ => none
    | c :: rest => readQuoted? fuel (c :: taken) rest
    | [] => none

/-- The whole number that decimal digits spell. -/
def valueOfDigits (digits : List Char) : Nat :=
  digits.foldl (fun value digit => 10 * value + (digit.toNat - '0'.toNat)) 0

/-- The fraction of a number, if a point starts one: its digits and the text after them. -/
def readFraction? : List Char → Option (List Char × List Char)
  | '.' :: rest =>
    let digits := rest.takeWhile Char.isDigit
    if digits.isEmpty then none else some (digits, rest.dropWhile Char.isDigit)
  | input => some ([], input)

/-- The exponent of a number, if the text starts with one. -/
def readExponent? (input : List Char) : Option (Option Int × List Char) :=
  match input with
  | c :: rest =>
    if c == 'e' || c == 'E' then
      let (negative, rest) :=
        match rest with
        | '-' :: rest => (true, rest)
        | '+' :: rest => (false, rest)
        | rest => (false, rest)
      let digits := rest.takeWhile Char.isDigit
      if digits.isEmpty then none
      else
        let size : Int := valueOfDigits digits
        some (some (if negative then -size else size), rest.dropWhile Char.isDigit)
    else some (none, input)
  | [] => some (none, [])

/-- A number that stands at the start of a text. -/
def readNumber? (input : List Char) : Option (Document × List Char) := do
  let (negative, unsigned) :=
    match input with
    | '-' :: rest => (true, rest)
    | rest => (false, rest)
  let whole := unsigned.takeWhile Char.isDigit
  if whole.isEmpty then none
  let (fraction, rest) ← readFraction? (unsigned.dropWhile Char.isDigit)
  let (exponent, rest) ← readExponent? rest
  let digits := valueOfDigits (whole ++ fraction)
  if fraction.isEmpty && exponent.isNone then
    -- Whole numbers have no negative zero, so that spelling is read as a floating one.
    if negative && digits == 0 then return (.number (Double.ofDecimal true 0 0), rest)
    return (.integer (if negative then -(digits : Int) else digits), rest)
  else
    let exponent := exponent.getD 0 - fraction.length
    return (.number (Double.ofDecimal negative digits exponent), rest)

mutual

/-- A document that stands at the start of a text, and the text after it. -/
def readValue? : Nat → List Char → Option (Document × List Char)
  | 0, _ => none
  | fuel + 1, input =>
    match skipSpace input with
    | 'n' :: 'u' :: 'l' :: 'l' :: rest => some (.null, rest)
    | 't' :: 'r' :: 'u' :: 'e' :: rest => some (.boolean true, rest)
    | 'f' :: 'a' :: 'l' :: 's' :: 'e' :: rest => some (.boolean false, rest)
    | '"' :: rest => do
      let (value, rest) ← readQuoted? (rest.length + 1) [] rest
      return (.text value, rest)
    | '[' :: rest =>
      match skipSpace rest with
      | ']' :: rest => some (.list [], rest)
      | rest => do
        let (items, rest) ← readItems? fuel rest
        return (.list items, rest)
    | '\x7b' :: rest =>
      match skipSpace rest with
      | '\x7d' :: rest => some (.record [], rest)
      | rest => do
        let (fields, rest) ← readFields? fuel rest
        return (.record fields, rest)
    | input => readNumber? input

/-- The items of a list up to its closing bracket. -/
def readItems? : Nat → List Char → Option (List Document × List Char)
  | 0, _ => none
  | fuel + 1, input => do
    let (item, rest) ← readValue? fuel input
    match skipSpace rest with
    | ']' :: rest => return ([item], rest)
    | ',' :: rest =>
      let (items, rest) ← readItems? fuel rest
      return (item :: items, rest)
    | _ => none

/-- The fields of a record up to its closing bracket. -/
def readFields? : Nat → List Char → Option (List (String × Document) × List Char)
  | 0, _ => none
  | fuel + 1, input => do
    let '"' :: rest := skipSpace input | none
    let (name, rest) ← readQuoted? (rest.length + 1) [] rest
    let ':' :: rest := skipSpace rest | none
    let (value, rest) ← readValue? fuel rest
    match skipSpace rest with
    | '\x7d' :: rest => return ([(name, value)], rest)
    | ',' :: rest =>
      let (fields, rest) ← readFields? fuel rest
      return ((name, value) :: fields, rest)
    | _ => none

end

/--
The document that a whole text spells.

Every step of the reader consumes a character or goes down into the value that starts at one, so
twice the length of the text bounds their number.
-/
def parse? (input : String) : Option Document := do
  let characters := input.toList
  let (document, rest) ← readValue? (2 * characters.length + 2) characters
  if (skipSpace rest).isEmpty then return document else none

end ClientModel.Document
