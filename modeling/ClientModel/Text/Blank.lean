import ClientModel.Text.Run

/-! White space, and lists of names separated by commas. -/

namespace ClientModel.Text

/-- Runs of the white space characters of Unicode. -/
def blankRuns : List Run := [
    ⟨0x9, 0xD, 1⟩, ⟨0x20, 0x20, 1⟩, ⟨0x85, 0x85, 1⟩, ⟨0xA0, 0xA0, 1⟩, ⟨0x1680, 0x1680, 1⟩,
    ⟨0x2000, 0x200A, 1⟩, ⟨0x2028, 0x2029, 1⟩, ⟨0x202F, 0x202F, 1⟩, ⟨0x205F, 0x205F, 1⟩,
    ⟨0x3000, 0x3000, 1⟩]

/-- A character is white space. -/
def isBlank (c : Char) : Bool :=
  inRuns blankRuns c

/-- The text without the white space at its two ends. -/
def trim (text : List Char) : List Char :=
  ((text.dropWhile isBlank).reverse.dropWhile isBlank).reverse

/-- The pieces of a text between its commas. -/
def splitCommas : List Char → List (List Char)
  | [] => [[]]
  | c :: rest =>
    if c == ',' then [] :: splitCommas rest
    else
      match splitCommas rest with
      | [] => [[c]]
      | piece :: pieces => (c :: piece) :: pieces

/-- The names in a list with commas; white space around a name and empty names do not count. -/
def listedNames (text : String) : List String :=
  (((splitCommas text.toList).map trim).filter (!·.isEmpty)).map String.ofList

end ClientModel.Text
