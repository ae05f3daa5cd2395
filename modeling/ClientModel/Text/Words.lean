import ClientModel.Text.Identifier
import ClientModel.Text.CaseMapping

/-! Words of an identifier, and the names that are put together from them. -/

namespace ClientModel.Text

/-- A character belongs to a word; underscores separate words although identifiers admit them. -/
def isWordCharacter (c : Char) : Bool :=
  c != '_' && continuesIdentifier c

/--
A word ends between two of its characters.

It does after a lower-case letter or a digit that a capital follows, and before the last capital of
an acronym, which the lower-case letter after it gives away.
-/
def endsBetween (previous current : Char) (next : Option Char) : Bool :=
  isUpper current &&
    (isLower previous || previous.isDigit || (isUpper previous && next.any isLower))

/-- The words of a text that begins inside the word whose characters are given in reverse. -/
def wordsFrom : List Char → List Char → List (List Char)
  | [], [] => []
  | word@(_ :: _), [] => [word.reverse]
  | [], c :: rest =>
    if isWordCharacter c then wordsFrom [c] rest else wordsFrom [] rest
  | word@(previous :: _), c :: rest =>
    if !isWordCharacter c then word.reverse :: wordsFrom [] rest
    else if endsBetween previous c rest.head? then word.reverse :: wordsFrom [c] rest
    else wordsFrom (c :: word) rest

/-- The words of a text, in order. -/
def words (text : List Char) : List (List Char) :=
  wordsFrom [] text

/-- The word with its first character in upper case. -/
def capitalize : List Char → List Char
  | [] => []
  | c :: rest => upperForm c ++ rest

/-- The words of a text, each capitalized, without anything between them. -/
def pascal (text : List Char) : List Char :=
  (words text).flatMap capitalize

/-- The words of a text, the first in lower case and each later one capitalized. -/
def camel (text : List Char) : List Char :=
  match words text with
  | [] => []
  | first :: rest => lower first ++ rest.flatMap capitalize

/-- The text with its first character in lower case. -/
def lowerFirst : List Char → List Char
  | [] => []
  | c :: rest => lowerForm c ++ rest

/-- The words of a name. -/
def wordsOf (name : String) : List String :=
  (words name.toList).map String.ofList

/-- A name in Pascal case. -/
def pascalCase (name : String) : String :=
  String.ofList (pascal name.toList)

/-- A name in camel case. -/
def camelCase (name : String) : String :=
  String.ofList (camel name.toList)

/-- A name with a lower-case first character. -/
def lowerFirstCase (name : String) : String :=
  String.ofList (lowerFirst name.toList)

end ClientModel.Text
