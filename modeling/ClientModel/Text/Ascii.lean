/-! Comparisons of text that look at letters of the ASCII alphabet without regard to case. -/

namespace ClientModel.Text

/-- The text with every ASCII capital in lower case. -/
def asciiLower (text : List Char) : List Char :=
  text.map Char.toLower

/-- Two texts are the same but for the case of ASCII letters. -/
def sameIgnoringCase (left right : String) : Bool :=
  asciiLower left.toList == asciiLower right.toList

/-- The first text starts the second one. -/
def starts (start text : String) : Bool :=
  start.toList.isPrefixOf text.toList

/-- The first text ends the second one. -/
def ends (ending text : String) : Bool :=
  ending.toList.reverse.isPrefixOf text.toList.reverse

/-- The first list of characters stands somewhere in the second one. -/
def occursIn (part : List Char) : List Char → Bool
  | [] => part.isEmpty
  | text@(_ :: rest) => part.isPrefixOf text || occursIn part rest

/-- The first text stands somewhere in the second one. -/
def occurs (part text : String) : Bool :=
  occursIn part.toList text.toList

end ClientModel.Text
