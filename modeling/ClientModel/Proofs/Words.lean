import ClientModel.Text.Words

/-!
Where the words of a text stand in it.

Words can also be cut out of a text at the offsets of its bytes. That fails where an offset is not
one at which a character begins, and where a character beside the current one is asked for that is
not there; neither ever happens. What is cut out are the words, apart from one another and in order,
and nothing is left between them but characters that belong to no word.
-/

namespace ClientModel.Text

/-! ## What words hold -/

/-- Joined again, the words of a text are the text without what separates them. -/
theorem flatten_wordsFrom (word text : List Char) :
    (wordsFrom word text).flatten = word.reverse ++ text.filter isWordCharacter := by
  -- By the recursion of the words, whose cases say what happens to one character.
  fun_induction wordsFrom word text with
  | case1 => rfl
  | case2 previous earlier => simp
  | case3 c rest belongs ih => simp [ih, belongs]
  | case4 c rest separates ih => simp [ih, separates]
  | case5 previous earlier c rest separates ih =>
    rw [List.flatten_cons, ih, List.filter_cons_of_neg (by simpa using separates)]
    rfl
  | case6 previous earlier c rest belongs ends ih =>
    rw [List.flatten_cons, ih, List.filter_cons_of_pos (by simpa using belongs)]
    rfl
  | case7 previous earlier c rest belongs goesOn ih =>
    rw [ih, List.filter_cons_of_pos (by simpa using belongs), List.reverse_cons,
      List.append_assoc]
    rfl

/-- The words of a text have all of its characters that belong to words. -/
theorem flatten_words (text : List Char) : (words text).flatten = text.filter isWordCharacter :=
  flatten_wordsFrom [] text

/-- What is in a word is in the text, and separates no words. -/
theorem mem_of_mem_words {text word : List Char} (listed : word ∈ words text) {c : Char}
    (within : c ∈ word) : c ∈ text ∧ isWordCharacter c = true := by
  -- The words together are the text without what separates them.
  have joined : c ∈ (words text).flatten := List.mem_flatten_of_mem listed within
  rw [flatten_words] at joined
  exact List.mem_filter.mp joined

/-! ## Cutting at offsets -/

/-- The part of a text between two offsets, if both stand between characters and are in order. -/
def part? (text : String) (first last : Nat) : Option String :=
  if inside : String.Pos.Raw.IsValid text ⟨first⟩ ∧ String.Pos.Raw.IsValid text ⟨last⟩ ∧
      first ≤ last then
    some (text.extract ⟨⟨first⟩, inside.1⟩ ⟨⟨last⟩, inside.2.1⟩)
  else none

/-- Characters that follow one another, each with the offset at which it begins. -/
def places : Nat → List Char → List (Nat × Char)
  | _, [] => []
  | offset, c :: rest => (offset, c) :: places (offset + c.utf8Size) rest

/-- A word, and the offsets between which it was cut out. -/
structure Cut where
  first : Nat
  last : Nat
  word : String

/-- What was cut out so far, and the offset at which the word that goes on begins, if one does. -/
structure Cutting where
  cuts : List Cut := []
  begun : Option Nat := none

namespace Cutting

/-- Cuts out the word between two offsets; another one may begin behind it. -/
def close? (text : String) (cutting : Cutting) (first last : Nat) (begun : Option Nat) :
    Option Cutting :=
  (part? text first last).map fun word =>
    { cuts := cutting.cuts ++ [{ first, last, word }], begun }

/-- The turn of the character at an index; within a word, those beside it are looked at as well. -/
def turn? (text : String) (characters : List (Nat × Char)) (cutting : Cutting) (index : Nat) :
    Option Cutting := do
  let (offset, c) ← characters[index]?
  match cutting.begun with
  | none => return if isWordCharacter c then { cutting with begun := some offset } else cutting
  | some first =>
    if !isWordCharacter c then cutting.close? text first offset none
    else
      let (_, previous) ← if index = 0 then none else characters[index - 1]?
      if endsBetween previous c (characters[index + 1]?.map Prod.snd) then
        cutting.close? text first offset (some offset)
      else return cutting

/-- Within a word, what a turn comes to is up to the characters beside the current one. -/
theorem turn?_eq_of_begun (text : String) {characters : List (Nat × Char)} {cutting : Cutting}
    {index first offset place : Nat} {previous c : Char} (begun : cutting.begun = some first)
    (positive : index ≠ 0) (current : characters[index]? = some (offset, c))
    (behind : characters[index - 1]? = some (place, previous)) :
    cutting.turn? text characters index =
      if isWordCharacter c = false then cutting.close? text first offset none
      else if endsBetween previous c (characters[index + 1]?.map Prod.snd) then
        cutting.close? text first offset (some offset)
      else some cutting := by
  simp [turn?, begun, positive, current, behind]

/-- At the end of a text, the word that goes on is cut out as well. -/
def finish? (text : String) (cutting : Cutting) : Option Cutting :=
  match cutting.begun with
  | none => some cutting
  | some first => cutting.close? text first text.utf8ByteSize none

end Cutting

/-- The words that are cut out of a text, one character after the other. -/
def cuts? (text : String) : Option (List Cut) := do
  let characters := places 0 text.toList
  let cutting ← (List.range characters.length).foldlM (Cutting.turn? text characters) {}
  return (← cutting.finish? text).cuts

/-! ## Offsets -/

/-- How many bytes characters take up. -/
def size (characters : List Char) : Nat :=
  (String.ofList characters).utf8ByteSize

/-- Texts take as much room together as they take each. -/
theorem size_append (left right : List Char) : size (left ++ right) = size left + size right := by
  -- Room is counted in bytes, and these are those of the one and of the other.
  rw [size, String.ofList_append, String.utf8ByteSize_append]
  rfl

/-- A text takes no less room than its beginning. -/
theorem size_le_append (left right : List Char) : size left ≤ size (left ++ right) := by
  rw [size_append]
  exact Nat.le_add_right _ _

/-- A text takes the room of its first character and of the rest. -/
theorem size_cons (c : Char) (rest : List Char) : size (c :: rest) = c.utf8Size + size rest := by
  -- A character is a text by itself.
  rw [← List.singleton_append, size_append, size, ← String.singleton_eq_ofList,
    String.utf8ByteSize_singleton]

/-- What stands between other parts of a text is found between their ends. -/
theorem part?_append (before word after : String) :
    part? (before ++ word ++ after) before.utf8ByteSize (before ++ word).utf8ByteSize =
      some word := by
  have starts : String.Pos.Raw.IsValid (before ++ word ++ after) ⟨before.utf8ByteSize⟩ :=
    String.Pos.Raw.isValid_iff_exists_append.mpr
      ⟨before, word ++ after, String.append_assoc .., rfl⟩
  have ends : String.Pos.Raw.IsValid (before ++ word ++ after) ⟨(before ++ word).utf8ByteSize⟩ :=
    String.Pos.Raw.isValid_iff_exists_append.mpr ⟨before ++ word, after, rfl, rfl⟩
  rw [part?, dif_pos ⟨starts, ends, by simp⟩, Option.some.injEq, ← String.toByteArray_inj]
  -- Of the bytes of the three parts, those in the middle are left.
  simp only [String.toByteArray_extract, String.toByteArray_append, String.utf8ByteSize_append]
  rw [ByteArray.append_assoc, ← Nat.add_zero before.utf8ByteSize, Nat.add_assoc, Nat.zero_add,
    ByteArray.extract_append_size_add' String.size_toByteArray.symm]
  exact ByteArray.extract_append_eq_left String.size_toByteArray.symm

/-- The same of characters. -/
theorem part?_of_toList {text : String} {before word after : List Char}
    (split : text.toList = before ++ word ++ after) :
    part? text (size before) (size (before ++ word)) = some (String.ofList word) := by
  -- Words are characters here and places are bytes, so the text is first written as three texts.
  have whole : text = String.ofList before ++ String.ofList word ++ String.ofList after := by
    rw [← String.ofList_append, ← String.ofList_append, ← split, String.ofList_toList]
  rw [whole, size, size, String.ofList_append]
  exact part?_append _ _ _

/-- Behind some characters stands the next one, at an offset of their size. -/
theorem getElem?_places (offset : Nat) (before rest : List Char) :
    (places offset (before ++ rest))[before.length]? =
      rest.head?.map fun c => (offset + size before, c) := by
  -- By induction on the characters before it.
  induction before generalizing offset with
  | nil => cases rest <;> rfl
  | cons c before ih =>
    rw [List.cons_append, places, List.length_cons, List.getElem?_cons_succ, ih, size_cons,
      Nat.add_assoc]

/-- The character at an index is the first one behind as many others. -/
theorem getElem?_places_toList {text : String} {before rest : List Char} {index : Nat}
    (split : text.toList = before ++ rest) (isIndex : index = before.length) :
    (places 0 text.toList)[index]? = rest.head?.map fun c => (size before, c) := by
  rw [split, isIndex, getElem?_places, Nat.zero_add]

/-- There are as many places as characters. -/
theorem length_places (offset : Nat) (characters : List Char) :
    (places offset characters).length = characters.length := by
  -- By induction on the characters: each has one place.
  induction characters generalizing offset with
  | nil => rfl
  | cons c rest ih => rw [places, List.length_cons, ih, List.length_cons]

/-! ## What was cut out so far -/

/--
Some characters of a text are done with, a word goes on, and the rest is left.

The words that were cut out and those from here on are the words of the text, and of what is done
with, all characters of words are in words that were cut out.
-/
structure Cutting.Reaches (text : String) (cutting : Cutting) (done word rest : List Char) :
    Prop where
  split : text.toList = done ++ word ++ rest
  begun_eq : cutting.begun = if word = [] then none else some (size done)
  within : ∀ c ∈ word, isWordCharacter c
  words_eq : wordsOf text =
    cutting.cuts.map Cut.word ++ (wordsFrom word.reverse rest).map String.ofList
  stand : ∀ cut ∈ cutting.cuts, cut.word ≠ "" ∧ part? text cut.first cut.last = some cut.word
  before : ∀ cut ∈ cutting.cuts, cut.last ≤ size done
  apart : cutting.cuts.Pairwise fun earlier later => earlier.last ≤ later.first
  kept : String.join (cutting.cuts.map Cut.word) = String.ofList (done.filter isWordCharacter)

namespace Cutting.Reaches

variable {text : String} {cutting : Cutting} {done word rest : List Char}

/-- At the start of a text nothing is done. -/
theorem start (text : String) : Reaches text {} [] [] text.toList where
  split := rfl
  begun_eq := rfl
  within := by simp
  words_eq := rfl
  stand := by simp
  before := by simp
  apart := .nil
  kept := rfl

/-- A word is cut out where it ends; behind it are characters of no word, or another word begins. -/
theorem close (reaches : cutting.Reaches text done word rest) (nonempty : word ≠ [])
    (gap other left : List Char) (further : rest = gap ++ other ++ left)
    (between : gap.filter isWordCharacter = []) (within : ∀ c ∈ other, isWordCharacter c)
    (ends : wordsFrom word.reverse rest = word :: wordsFrom other.reverse left) :
    ∃ next,
      cutting.close? text (size done) (size (done ++ word))
        (if other = [] then none else some (size (done ++ word ++ gap))) = some next ∧
      next.Reaches text (done ++ word ++ gap) other left := by
  have found := part?_of_toList reaches.split
  refine ⟨_, by rw [close?, found, Option.map_some], ?_⟩
  -- The word that ends is done with, and so is the gap; each part below is told of it.
  have beyond := size_le_append (done ++ word) gap
  refine
    { split := by rw [reaches.split, further]; simp only [List.append_assoc]
      begun_eq := rfl
      within := within
      words_eq := ?words_eq
      stand := ?stand
      before := ?before
      apart := ?apart
      kept := ?kept }
  case words_eq =>
    rw [reaches.words_eq, ends]
    simp
  case stand =>
    -- The cuts so far were told of, and the new one is the word that ends.
    intro cut listed
    rcases List.mem_append.mp listed with earlier | new
    · exact reaches.stand cut earlier
    · rw [List.mem_singleton.mp new]
      exact ⟨by simpa using nonempty, found⟩
  case before =>
    intro cut listed
    rcases List.mem_append.mp listed with earlier | new
    · exact Nat.le_trans (reaches.before cut earlier)
        (Nat.le_trans (size_le_append done word) beyond)
    · rw [List.mem_singleton.mp new]
      exact beyond
  case apart =>
    rw [List.pairwise_append]
    refine ⟨reaches.apart, List.pairwise_singleton _ _, fun cut earlier new isNew => ?_⟩
    rw [List.mem_singleton.mp isNew]
    exact reaches.before cut earlier
  case kept =>
    have whole : word.filter isWordCharacter = word := List.filter_eq_self.mpr reaches.within
    rw [List.map_append, String.join_append, reaches.kept, List.filter_append, List.filter_append,
      whole, between, List.append_nil, String.ofList_append]
    simp

/-- A character of a word goes on with the one that has begun, or begins one. -/
theorem extend {c : Char} (reaches : cutting.Reaches text done word (c :: rest))
    (belongs : isWordCharacter c)
    (goesOn : wordsFrom word.reverse (c :: rest) = wordsFrom (c :: word.reverse) rest) :
    Reaches text { cutting with begun := some (size done) } done (word ++ [c]) rest := by
  -- The cuts are as before, and the word that has begun has one character more.
  refine { reaches with
    split := by rw [reaches.split]; simp
    begun_eq := by rw [if_neg (by simp)]
    within := fun other listed => ?_
    words_eq := ?_ }
  · rcases List.mem_append.mp listed with old | new
    · exact reaches.within other old
    · rw [List.mem_singleton.mp new]
      exact belongs
  · rw [reaches.words_eq, goesOn, List.reverse_append]
    rfl

/-- Between words, a character begins one or is passed over. -/
theorem turn_between {c : Char} (reaches : cutting.Reaches text done [] (c :: rest)) :
    ∃ next done' word', cutting.turn? text (places 0 text.toList) done.length = some next ∧
      done' ++ word' = done ++ [c] ∧ next.Reaches text done' word' rest := by
  have begun := reaches.begun_eq
  rw [if_pos rfl] at begun
  have current := getElem?_places_toList reaches.split (by rw [List.append_nil])
  rw [List.append_nil, List.head?_cons, Option.map_some] at current
  -- What belongs to no word is done with at once.
  by_cases belongs : isWordCharacter c
  · refine ⟨_, done, [c], ?_, rfl, reaches.extend belongs ?_⟩
    · rw [turn?, current]
      simp [begun, belongs]
    · rw [List.reverse_nil, wordsFrom, if_pos belongs]
  · refine ⟨cutting, done ++ [c], [], ?_, List.append_nil _, ?_⟩
    · rw [turn?, current]
      simp [begun, belongs]
    · refine { reaches with
        split := by rw [reaches.split]; simp
        begun_eq := begun
        words_eq := ?_
        before := fun cut listed =>
          Nat.le_trans (reaches.before cut listed) (size_le_append done [c])
        kept := ?_ }
      · rw [reaches.words_eq, List.reverse_nil, wordsFrom, if_neg belongs]
      · rw [reaches.kept]
        simp [belongs]

/-- Within a word, a character goes on with it or ends it; then it may begin the next one. -/
theorem turn_within {c previous : Char} {earlier : List Char}
    (reaches : cutting.Reaches text done (earlier ++ [previous]) (c :: rest)) :
    ∃ next done' word', cutting.turn? text (places 0 text.toList)
        (done ++ (earlier ++ [previous])).length = some next ∧
      done' ++ word' = done ++ (earlier ++ [previous]) ++ [c] ∧
      next.Reaches text done' word' rest := by
  have nonempty : earlier ++ [previous] ≠ [] := by simp
  have positive : (done ++ (earlier ++ [previous])).length ≠ 0 := by simp
  have begun := reaches.begun_eq
  rw [if_neg nonempty] at begun
  -- The characters before and after the current one are where they are looked for.
  have current := getElem?_places_toList reaches.split rfl
  have behind : (places 0 text.toList)[(done ++ (earlier ++ [previous])).length - 1]? =
      some (size (done ++ earlier), previous) := by
    have split : text.toList = (done ++ earlier) ++ previous :: c :: rest := by
      rw [reaches.split]
      simp
    exact getElem?_places_toList split (by simp)
  have ahead : (places 0 text.toList)[(done ++ (earlier ++ [previous])).length + 1]?.map
      Prod.snd = rest.head? := by
    have split : text.toList = (done ++ (earlier ++ [previous]) ++ [c]) ++ rest := by
      rw [reaches.split]
      simp
    rw [getElem?_places_toList split (by simp; omega), Option.map_map]
    exact Option.map_id'
  have turns := turn?_eq_of_begun text begun positive current behind
  rw [ahead] at turns
  rw [turns]
  have reversed : (earlier ++ [previous]).reverse = previous :: earlier.reverse := by simp
  have last : (previous :: earlier.reverse).reverse = earlier ++ [previous] := by simp
  -- A character that goes on with the word either ends it for the next one or joins it.
  by_cases belongs : isWordCharacter c
  · by_cases ends : endsBetween previous c rest.head?
    · obtain ⟨next, closed, further⟩ := reaches.close nonempty [] [c] rest rfl rfl
        (by simpa using belongs) (by simp [reversed, last, wordsFrom, belongs, ends])
      refine ⟨next, _, [c], ?_, by simp, further⟩
      simpa [belongs, ends] using closed
    · refine ⟨_, done, _, ?_, (List.append_assoc ..).symm, reaches.extend belongs ?_⟩
      · simp [belongs, ends, ← begun]
      · simp [wordsFrom, belongs, ends]
  · obtain ⟨next, closed, further⟩ := reaches.close nonempty [c] [] rest rfl
      (by simpa using belongs) (by simp) (by simp [reversed, last, wordsFrom, belongs])
    refine ⟨next, _, [], ?_, by simp, further⟩
    simpa [belongs] using closed

/-- Each character has its turn, and neither a look beside it nor a cut ever fails. -/
theorem turn {c : Char} (reaches : cutting.Reaches text done word (c :: rest)) :
    ∃ next done' word', cutting.turn? text (places 0 text.toList) (done ++ word).length =
        some next ∧ done' ++ word' = done ++ word ++ [c] ∧ next.Reaches text done' word' rest := by
  -- Either no word has begun, or one has and the character before is its last.
  rcases List.eq_nil_or_concat word with rfl | ⟨earlier, previous, rfl⟩
  · rw [List.append_nil]
    exact reaches.turn_between
  · rw [List.concat_eq_append] at reaches ⊢
    exact reaches.turn_within

/-- All characters have their turns, one after the other. -/
theorem run (reaches : cutting.Reaches text done word rest) :
    ∃ last done' word', (List.range' (done ++ word).length rest.length).foldlM
        (turn? text (places 0 text.toList)) cutting = some last ∧
      last.Reaches text done' word' [] := by
  -- By induction on the characters that are left.
  induction rest generalizing cutting done word with
  | nil => exact ⟨cutting, done, word, rfl, reaches⟩
  | cons c rest ih =>
    obtain ⟨next, done', word', turned, grown, further⟩ := reaches.turn
    obtain ⟨last, allDone, lastWord, ran, finished⟩ := ih further
    refine ⟨last, allDone, lastWord, ?_, finished⟩
    rw [grown, List.length_append, List.length_singleton] at ran
    rw [List.length_cons, List.range'_succ, List.foldlM_cons, turned]
    exact ran

/-- At the end, all characters are done with. -/
theorem finish (reaches : cutting.Reaches text done word []) :
    ∃ last, cutting.finish? text = some last ∧ last.Reaches text text.toList [] [] := by
  have split : text.toList = done ++ word := by
    rw [reaches.split, List.append_nil]
  -- If a word has begun then it ends with the text, and else there is nothing left to cut.
  have begun := reaches.begun_eq
  rcases List.eq_nil_or_concat word with rfl | ⟨earlier, previous, rfl⟩
  · rw [if_pos rfl] at begun
    rw [split, List.append_nil]
    exact ⟨cutting, by rw [finish?, begun], reaches⟩
  · rw [List.concat_eq_append] at reaches begun split
    have nonempty : earlier ++ [previous] ≠ [] := by simp
    rw [if_neg nonempty] at begun
    obtain ⟨last, closed, finished⟩ := reaches.close nonempty [] [] [] rfl rfl (by simp)
      (by simp [wordsFrom])
    have ends : size (done ++ (earlier ++ [previous])) = text.utf8ByteSize := by
      rw [size, ← split, String.ofList_toList]
    rw [if_pos rfl, ends] at closed
    rw [List.append_nil, ← split] at finished
    exact ⟨last, by rw [finish?, begun]; exact closed, finished⟩

end Cutting.Reaches

/--
The words of a text can be cut out of it at offsets: no offset is inside of a character, and no
character is looked at outside of the text. Each word is a part of the text with something in it,
none begins before the end of an earlier one, and one after the other they are the text without the
characters that belong to no word.
-/
theorem words_are_cut_out (text : String) :
    ∃ cuts, cuts? text = some cuts ∧ wordsOf text = cuts.map Cut.word ∧
      (∀ cut ∈ cuts, cut.word ≠ "" ∧ part? text cut.first cut.last = some cut.word) ∧
      cuts.Pairwise (fun earlier later => earlier.last ≤ later.first) ∧
      String.join (wordsOf text) = String.ofList (text.toList.filter isWordCharacter) := by
  obtain ⟨cutting, done, word, ran, reaches⟩ := (Cutting.Reaches.start text).run
  obtain ⟨last, finished, reaches⟩ := reaches.finish
  -- One turn is made for each character, from the first on.
  have all : (List.range (places 0 text.toList).length).foldlM
      (Cutting.turn? text (places 0 text.toList)) {} = some cutting := by
    rw [length_places, List.range_eq_range']
    exact ran
  have same : wordsOf text = last.cuts.map Cut.word := by
    rw [reaches.words_eq]
    simp [wordsFrom]
  refine ⟨last.cuts, by simp [cuts?, all, finished], same, reaches.stand, reaches.apart, ?_⟩
  rw [same, reaches.kept]

/-- An acronym ends before its last capital, and what separates words is left out. -/
example : wordsOf "HTTPServer_name" = ["HTTP", "Server", "name"] := by decide +kernel

end ClientModel.Text
