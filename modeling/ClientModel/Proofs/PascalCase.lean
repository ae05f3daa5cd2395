import Mathlib.Data.List.Basic
import ClientModel.Derivation.Naming
import ClientModel.Proofs.Words
import ClientModel.Text.Ascii

/-!
Texts of the ASCII alphabet in Pascal case.

Words that are joined get new neighbours, and where they are cut apart again need not be where they
were joined. That does no harm: nothing but a capital begins a word inside of a text without
separators, and a capital is left as it is.
-/

namespace ClientModel.Text

/-! ## The tables on ASCII -/

/-- A text has only characters of the ASCII alphabet. -/
def IsAscii (text : List Char) : Prop :=
  ∀ c ∈ text, c.toNat < 128

instance (text : List Char) : Decidable (IsAscii text) :=
  List.decidableBAll (fun c : Char => c.toNat < 128) text

/-- What holds of each of the 128 code points holds of all of ASCII. -/
theorem forall_ascii (p : Char → Prop) (each : ∀ code < 128, p (Char.ofNat code)) {c : Char}
    (ascii : c.toNat < 128) : p c := by
  -- A character is told by its code point, and the code points of ASCII are counted.
  have here := each c.toNat ascii
  rwa [Char.ofNat_toNat] at here

/-- Letters and digits are in ASCII. -/
theorem toNat_lt_of_isAlphanum {c : Char} (plain : c.isAlphanum) : c.toNat < 128 := by
  -- Each of the three ranges ends before the end of ASCII.
  delta Char.isAlphanum Char.isAlpha Char.isUpper Char.isLower Char.isDigit at plain
  simp only [UInt32.le_iff_toNat_le, Bool.or_eq_true, Bool.and_eq_true, decide_eq_true_eq,
    Char.reduceVal, UInt32.reduceToNat] at plain
  have code : c.toNat = c.val.toNat := rfl
  omega

/-- What comes before a run is not in it. -/
theorem Run.has_eq_false_of_lt {run : Run} {code : Nat} (before : code < run.first) :
    run.has code = false := by
  have apart : ¬ run.first ≤ code := by omega
  simp [Run.has, apart]

/-- Where all but the first runs begin beyond a character, those first ones decide about it. -/
theorem inRuns_eq_take {runs : List Run} {bound : Nat} (count : Nat)
    (beyond : (runs.drop count).all fun run => bound ≤ run.first) {c : Char}
    (before : c.toNat < bound) : inRuns runs c = inRuns (runs.take count) c := by
  rw [List.all_eq_true] at beyond
  -- A run that begins beyond a character does not have it.
  have outside : (runs.drop count).any (fun run => run.has c.toNat) = false := by
    rw [List.any_eq_false]
    intro run listed
    have after := of_decide_eq_true (beyond run listed)
    rw [Run.has_eq_false_of_lt (by omega)]
    exact Bool.false_ne_true
  rw [inRuns, ← List.take_append_drop count runs, List.any_append, outside, Bool.or_false,
    List.take_append_drop, inRuns]

/-- The same of shifts, where no character up to there is expanded. -/
theorem mapCase_eq_take {shifts : List Shift} {expansions : List (Nat × List Nat)} {bound : Nat}
    (count : Nat) (unexpanded : expansions.all fun entry => bound ≤ entry.1)
    (beyond : (shifts.drop count).all fun shift => bound ≤ shift.run.first) {c : Char}
    (before : c.toNat < bound) :
    mapCase shifts expansions c = mapCase (shifts.take count) [] c := by
  rw [List.all_eq_true] at unexpanded beyond
  -- What is expanded begins at the bound, so the character is not.
  have single : expansions.lookup c.toNat = none := by
    rw [List.lookup_eq_none_iff]
    intro entry listed
    have after := of_decide_eq_true (unexpanded entry listed)
    rw [bne_iff_ne]
    omega
  -- As with runs, what begins beyond the character does not concern it.
  have outside : (shifts.drop count).find? (fun shift => shift.run.has c.toNat) = none := by
    rw [List.find?_eq_none]
    intro shift listed
    have after := of_decide_eq_true (beyond shift listed)
    rw [Run.has_eq_false_of_lt (by omega)]
    exact Bool.false_ne_true
  have found : shifts.find? (fun shift => shift.run.has c.toNat) =
      (shifts.take count).find? fun shift => shift.run.has c.toNat := by
    rw [← List.take_append_drop count shifts, List.find?_append, outside, Option.or_none,
      List.take_append_drop]
  rw [mapCase, mapCase, single, found, List.lookup_nil]

/-- In ASCII, letters and digits make words. -/
theorem isWordCharacter_of_ascii {c : Char} (ascii : c.toNat < 128) :
    isWordCharacter c = c.isAlphanum := by
  -- Four runs of the table begin in ASCII: the digits, the capitals, the underscore, the others.
  rw [isWordCharacter, continuesIdentifier, inRuns_eq_take 4 (by decide +kernel) ascii]
  refine forall_ascii
    (fun c => (c != '_' && inRuns (identifierRuns.take 4) c) = c.isAlphanum) ?_ ascii
  decide +kernel

/-- In ASCII the letters in upper case are the plain ones. -/
theorem isUpper_of_ascii {c : Char} (ascii : c.toNat < 128) : isUpper c = c.isUpper := by
  -- The runs beyond ASCII do not matter, and what is left is decided code point by code point.
  rw [isUpper, inRuns_eq_take 1 (by decide +kernel) ascii]
  refine forall_ascii (fun c => inRuns (uppercaseRuns.take 1) c = c.isUpper) ?_ ascii
  decide +kernel

/-- In ASCII a character has one upper-case form, which is the plain one. -/
theorem upperForm_of_ascii {c : Char} (ascii : c.toNat < 128) : upperForm c = [c.toUpper] := by
  -- The shifts beyond ASCII do not matter, and what is left is decided code point by code point.
  rw [upperForm, mapCase_eq_take 1 (by decide +kernel) (by decide +kernel) ascii]
  refine forall_ascii (fun c => mapCase (upperShifts.take 1) [] c = [c.toUpper]) ?_ ascii
  decide +kernel

/-- In upper case an ASCII character is not in lower case, and otherwise it is what it was. -/
theorem toUpper_of_ascii {c : Char} (ascii : c.toNat < 128) :
    c.toUpper.isLower = false ∧ c.toUpper.toLower = c.toLower ∧
      c.toUpper.isAlphanum = c.isAlphanum ∧ (c.isLower = false → c.toUpper = c) := by
  refine forall_ascii (fun c => c.toUpper.isLower = false ∧ c.toUpper.toLower = c.toLower ∧
    c.toUpper.isAlphanum = c.isAlphanum ∧ (c.isLower = false → c.toUpper = c)) ?_ ascii
  decide +kernel

/-- In ASCII no letter is in upper and in lower case. -/
theorem isLower_of_isUpper {c : Char} (ascii : c.toNat < 128) (capital : c.isUpper) :
    c.isLower = false := by
  refine forall_ascii (fun c => c.isUpper → c.isLower = false) ?_ ascii capital
  decide +kernel

/-! ## Capitals -/

/-- Between two characters of words, a word ends before a capital only. -/
theorem isUpper_of_endsBetween {previous current : Char} {next : Option Char}
    (ends : endsBetween previous current next) : isUpper current = true := by
  -- The rule asks for a capital first, whatever is around it.
  rw [endsBetween, Bool.and_eq_true] at ends
  exact ends.1

/-- To capitalize a word in ASCII is to raise its first character. -/
theorem capitalize_eq_modifyHead {word : List Char} (ascii : IsAscii word) :
    capitalize word = word.modifyHead Char.toUpper := by
  -- Only a word that has a first character changes.
  cases word with
  | nil => rfl
  | cons c rest =>
    rw [capitalize, upperForm_of_ascii (ascii c List.mem_cons_self)]
    rfl

/-- Only where a word begins, something is capitalized. -/
theorem capitalize_append {word : List Char} (nonempty : word ≠ []) (rest : List Char) :
    capitalize (word ++ rest) = capitalize word ++ rest := by
  -- The first character of both together is that of the word.
  obtain ⟨c, others, rfl⟩ := List.exists_cons_of_ne_nil nonempty
  rw [List.cons_append, capitalize, capitalize, List.append_assoc]

/-- A word that does not begin with a lower-case letter is capitalized already. -/
theorem capitalize_eq_self {word : List Char} (ascii : IsAscii word)
    (begins : ∀ c ∈ word.head?, ¬ c.isLower) : capitalize word = word := by
  rw [capitalize_eq_modifyHead ascii]
  -- The one character that could change is in upper case, or is no letter.
  cases word with
  | nil => rfl
  | cons c rest =>
    obtain ⟨_, _, _, unchanged⟩ := toUpper_of_ascii (ascii c List.mem_cons_self)
    rw [List.modifyHead_cons, unchanged (by simpa using begins c rfl)]

/-- A word that is capitalized is the same but for the case. -/
theorem asciiLower_capitalize {word : List Char} (ascii : IsAscii word) :
    asciiLower (capitalize word) = asciiLower word := by
  rw [capitalize_eq_modifyHead ascii]
  -- The character that changes is the same but for the case.
  cases word with
  | nil => rfl
  | cons c rest =>
    rw [List.modifyHead_cons, asciiLower, List.map_cons,
      (toUpper_of_ascii (ascii c List.mem_cons_self)).2.1]
    rfl

/--
Among letters and digits alone, the word that goes on is capitalized, and nothing behind it is
changed, wherever other words are cut off there.
-/
theorem flatMap_capitalize_wordsFrom (previous : Char) (earlier : List Char) {rest : List Char}
    (plain : ∀ c ∈ rest, c.isAlphanum) :
    (wordsFrom (previous :: earlier) rest).flatMap capitalize =
      capitalize (previous :: earlier).reverse ++ rest := by
  -- The word that goes on is generalised, since it grows or is cut off with each character.
  induction rest generalizing previous earlier with
  | nil => simp [wordsFrom]
  | cons c rest ih =>
    rw [List.forall_mem_cons] at plain
    have ascii : c.toNat < 128 := toNat_lt_of_isAlphanum plain.1
    have belongs : isWordCharacter c = true := by rw [isWordCharacter_of_ascii ascii, plain.1]
    rw [wordsFrom, if_neg (by simp [belongs])]
    by_cases ends : endsBetween previous c rest.head? = true
    · -- The next word begins with a capital, and capitalizing it comes to nothing.
      have capital : c.isUpper = true := by
        rw [← isUpper_of_ascii ascii]
        exact isUpper_of_endsBetween ends
      have settled : capitalize [c] = [c] :=
        capitalize_eq_self (by simpa [IsAscii] using ascii)
          (by simpa using isLower_of_isUpper ascii capital)
      rw [if_pos ends, List.flatMap_cons, ih c [] plain.2, List.reverse_singleton, settled,
        List.singleton_append]
    · have begun : (previous :: earlier).reverse ≠ [] := by simp
      rw [if_neg ends, ih c (previous :: earlier) plain.2, List.reverse_cons,
        capitalize_append begun, List.append_assoc, List.singleton_append]

/-- Of letters and digits alone, the Pascal case changes the first one at most. -/
theorem pascal_eq_capitalize {text : List Char} (plain : ∀ c ∈ text, c.isAlphanum) :
    pascal text = capitalize text := by
  -- The first character begins the only word that is not cut off from another one.
  cases text with
  | nil => rfl
  | cons c rest =>
    rw [List.forall_mem_cons] at plain
    have belongs : isWordCharacter c = true := by
      rw [isWordCharacter_of_ascii (toNat_lt_of_isAlphanum plain.1), plain.1]
    rw [pascal, words, wordsFrom, if_pos belongs, flatMap_capitalize_wordsFrom c [] plain.2,
      List.reverse_singleton, ← capitalize_append (List.cons_ne_nil c []), List.singleton_append]

/-! ## Pascal form -/

/-- A text is in Pascal form: letters and digits, the first of which is not in lower case. -/
structure IsPascal (text : List Char) : Prop where
  plain : ∀ c ∈ text, c.isAlphanum
  begins : ∀ c ∈ text.head?, ¬ c.isLower

/-- A text in Pascal form is in ASCII. -/
theorem IsPascal.isAscii {text : List Char} (isPascal : IsPascal text) : IsAscii text :=
  fun c within => toNat_lt_of_isAlphanum (isPascal.plain c within)

/-- Letters and digits come into Pascal form by being capitalized. -/
theorem isPascal_capitalize {word : List Char} (plain : ∀ c ∈ word, c.isAlphanum) :
    IsPascal (capitalize word) := by
  rw [capitalize_eq_modifyHead fun c within => toNat_lt_of_isAlphanum (plain c within)]
  -- What is raised is a letter or a digit still, and no longer in lower case.
  cases word with
  | nil => exact ⟨by simp, by simp⟩
  | cons c rest =>
    rw [List.forall_mem_cons] at plain
    obtain ⟨raised, _, alphanum, _⟩ := toUpper_of_ascii (toNat_lt_of_isAlphanum plain.1)
    rw [List.modifyHead_cons]
    exact ⟨List.forall_mem_cons.mpr ⟨alphanum.trans plain.1, plain.2⟩, by simp [raised]⟩

/-- Texts in Pascal form stay in it when they are joined. -/
theorem isPascal_flatMap {α : Type} {items : List α} {text : α → List Char}
    (each : ∀ item ∈ items, IsPascal (text item)) : IsPascal (items.flatMap text) where
  plain c within := by
    obtain ⟨item, listed, within⟩ := List.mem_flatMap.mp within
    exact (each item listed).plain c within
  begins c first := by
    -- The first character is that of the first text with anything in it.
    rw [List.head?_flatMap] at first
    obtain ⟨item, listed, first⟩ := List.exists_of_findSome?_eq_some first
    exact (each item listed).begins c first

/-- The Pascal case of a text is in Pascal form. -/
theorem isPascal_pascal {text : List Char} (ascii : IsAscii text) : IsPascal (pascal text) := by
  -- Each word is put together of characters of the text that belong to words.
  refine isPascal_flatMap fun word listed => isPascal_capitalize fun c within => ?_
  obtain ⟨inText, belongs⟩ := mem_of_mem_words listed within
  rwa [isWordCharacter_of_ascii (ascii c inText)] at belongs

/-- The texts in Pascal form are those that are their own Pascal case. -/
theorem pascal_eq_self_iff {text : List Char} (ascii : IsAscii text) :
    pascal text = text ↔ IsPascal text := by
  -- What Pascal case leaves is in that form, and to a text in that form it does nothing.
  constructor
  · intro same
    rw [← same]
    exact isPascal_pascal ascii
  · intro isPascal
    rw [pascal_eq_capitalize isPascal.plain, capitalize_eq_self ascii isPascal.begins]

/-- But for the case, the Pascal case of a text is the text without what is no letter or digit. -/
theorem asciiLower_pascal {text : List Char} (ascii : IsAscii text) :
    asciiLower (pascal text) = asciiLower (text.filter Char.isAlphanum) := by
  have each : ∀ word ∈ words text, asciiLower (capitalize word) = asciiLower word := by
    intro word listed
    exact asciiLower_capitalize fun c within => ascii c (mem_of_mem_words listed within).1
  -- Words are put together again, and what is between them has been left out.
  calc
    asciiLower (pascal text) = (words text).flatMap (fun word => asciiLower (capitalize word)) :=
      List.map_flatMap
    _ = (words text).flatMap asciiLower := List.flatMap_congr each
    _ = asciiLower (words text).flatten := List.map_flatten.symm
    _ = asciiLower (text.filter isWordCharacter) := by rw [flatten_words]
    _ = asciiLower (text.filter Char.isAlphanum) := by
      rw [List.filter_congr fun c within => isWordCharacter_of_ascii (ascii c within)]

/--
The Pascal case of a name in ASCII is its own Pascal case. It has letters and digits only, the first
of which is not in lower case, and but for the case it is the name without everything else.
-/
theorem pascalCase_of_ascii (name : String) (ascii : IsAscii name.toList) :
    pascalCase (pascalCase name) = pascalCase name ∧ IsPascal (pascalCase name).toList ∧
      sameIgnoringCase (pascalCase name) (String.ofList (name.toList.filter Char.isAlphanum)) := by
  have isPascal := isPascal_pascal ascii
  have settled : pascal (pascal name.toList) = pascal name.toList :=
    (pascal_eq_self_iff isPascal.isAscii).mpr isPascal
  -- Idempotent; in Pascal form; and the same text but for the case.
  refine ⟨?_, ?_, ?_⟩
  · rw [pascalCase, pascalCase, String.toList_ofList, settled]
  · rw [pascalCase, String.toList_ofList]
    exact isPascal
  · rw [sameIgnoringCase, pascalCase, String.toList_ofList, String.toList_ofList, beq_iff_eq]
    exact asciiLower_pascal ascii

/-- Two single letters, joined, are one word with the acronym behind them, and stay as they are. -/
theorem pascalCase_of_ascii_server :
    IsAscii "get_a_b-HTTPServer".toList ∧
      pascalCase "get_a_b-HTTPServer" = "GetABHTTPServer" ∧
      wordsOf "get_a_b-HTTPServer" = ["get", "a", "b", "HTTP", "Server"] ∧
      wordsOf "GetABHTTPServer" = ["Get", "ABHTTP", "Server"] ∧
      pascalCase (pascalCase "get_a_b-HTTPServer") = pascalCase "get_a_b-HTTPServer" ∧
      IsPascal (pascalCase "get_a_b-HTTPServer").toList ∧
      sameIgnoringCase (pascalCase "get_a_b-HTTPServer")
        (String.ofList ("get_a_b-HTTPServer".toList.filter Char.isAlphanum)) := by
  have ascii : IsAscii "get_a_b-HTTPServer".toList := by decide
  exact ⟨ascii, by decide +kernel, by decide +kernel, by decide +kernel,
    pascalCase_of_ascii _ ascii⟩

end ClientModel.Text

namespace ClientModel.Derivation.Context

open Text (IsAscii IsPascal)

/-- The name that a path in ASCII makes is in Pascal form. -/
theorem isPascal_candidateName (context : Context) {path : List Segment}
    (ascii : ∀ segment ∈ path,
      IsAscii ((context.segmentName? segment).getD segment.word).toList) :
    IsPascal (context.candidateName path).toList := by
  -- The name is joined of words that are each in Pascal form.
  rw [candidateName, String.toList_join, List.flatMap_map]
  refine Text.isPascal_flatMap fun segment listed => ?_
  rw [Text.pascalCase, String.toList_ofList]
  exact Text.isPascal_pascal (ascii segment (List.mem_of_mem_drop listed))

end ClientModel.Derivation.Context
