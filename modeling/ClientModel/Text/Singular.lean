import ClientModel.Text.Ascii

/-! English singulars of the names of collections, as far as the ending of a name tells. -/

namespace ClientModel.Text

/-- Endings from which a plural drops two letters. -/
def sibilantEndings : List String := ["sses", "xes", "ches", "shes", "zes"]

/-- Endings that look plural and are not. -/
def singularEndings : List String := ["ss", "us", "is"]

/-- The name without its last `count` characters. -/
def dropLast (count : Nat) (name : String) : String :=
  String.ofList (name.toList.take (name.toList.length - count))

/--
The best guess at the singular of a name; endings are compared without regard to ASCII case.

A name that consists of its ending alone stays as it is, where that ending is `ies` or `s`.
-/
def singular (name : String) : String :=
  let folded := String.ofList (asciiLower name.toList)
  if ends "ies" folded && name.toList.length > 3 then dropLast 3 name ++ "y"
  else if sibilantEndings.any (ends · folded) then dropLast 2 name
  else if singularEndings.any (ends · folded) then name
  else if ends "s" folded && name.toList.length > 1 then dropLast 1 name
  else name

end ClientModel.Text
