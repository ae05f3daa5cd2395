import Mathlib.Data.List.Nodup
import Mathlib.Data.List.Perm.Subperm
import ClientModel.Derivation.Nodes
import ClientModel.Proofs.Words

/-!
Names that are made up: they are new, and there are no dots in them.

A name of the registry is none that was handed out before. It is put together from words, in which
there are no dots, so that a dot in a qualified name can only stand before the last part of it.
-/

namespace ClientModel

/-! ## Numerals -/

/-- Decimal numerals of different numbers differ. -/
theorem toString_inj {left right : Nat} (same : toString left = toString right) : left = right := by
  -- The digits of a number, read back, give the number.
  have digits := congrArg String.toList same
  simp only [Nat.toString_eq_ofList_toDigits, String.toList_ofList] at digits
  rw [← Nat.ofDigitChars_ten_toDigits (n := left), digits, Nat.ofDigitChars_ten_toDigits]

/-- A numeral has nothing in it but digits. -/
theorem notMem_toString {c : Char} (other : c.isDigit = false) (n : Nat) :
    c ∉ (toString n).toList := by
  -- A numeral is the list of its digits.
  rw [Nat.toString_eq_ofList_toDigits, String.toList_ofList]
  intro digit
  rw [Nat.isDigit_of_mem_toDigits (by decide) (by decide) digit] at other
  cases other

/-- A text with anything but digits in it is no numeral. -/
theorem toString_ne {c : Char} (other : c.isDigit = false) {text : String}
    (within : c ∈ text.toList) (n : Nat) : toString n ≠ text := by
  -- A text in which some other character is told is not one of digits alone.
  rintro rfl
  exact notMem_toString other n within

/-! ## Dots -/

namespace Text

/-- There is no dot in a name. -/
def Dotless (name : String) : Prop :=
  '.' ∉ name.toList

instance (name : String) : Decidable (Dotless name) :=
  inferInstanceAs (Decidable ('.' ∉ name.toList))

/-- Two names without dots make one without. -/
theorem Dotless.append {left right : String} (first : Dotless left) (second : Dotless right) :
    Dotless (left ++ right) := by
  -- A dot in both together would be in one of them.
  rw [Dotless, String.toList_append, List.mem_append]
  exact not_or.mpr ⟨first, second⟩

/-- Names without dots make one without when they are joined. -/
theorem Dotless.join {names : List String} (each : ∀ name ∈ names, Dotless name) :
    Dotless (String.join names) := by
  -- What comes before is generalised, since names are put together from the left.
  have general (start : String) (first : Dotless start) :
      Dotless (names.foldl (fun text name => text ++ name) start) := by
    induction names generalizing start with
    | nil => exact first
    | cons name rest ih =>
      rw [List.forall_mem_cons] at each
      exact ih each.2 (start ++ name) (first.append each.1)
  exact general "" (by decide)

/-- A numeral has no dot. -/
theorem dotless_toString (n : Nat) : Dotless (toString n) :=
  notMem_toString (by decide) n

/-- No code point after that of the dot stands for it. -/
theorem ofNat_ne_dot {code : Nat} (after : 46 < code) : Char.ofNat code ≠ '.' := by
  -- A code point that is no character is read as the first of all, which is no dot either.
  by_cases valid : code.isValidChar
  · rw [Char.ofNat, dif_pos valid]
    intro same
    have codes : code = 46 := congrArg Char.toNat same
    omega
  · rw [Char.ofNat, dif_neg valid]
    decide

/-- No upper-case form is a dot but that of the dot. -/
theorem dot_notMem_upperForm {c : Char} (other : c ≠ '.') : '.' ∉ upperForm c := by
  -- Of the tables it is evaluated that they lead to later code points only.
  have expansions :
      (upperExpansions.all fun entry => entry.2.all fun code => 46 < code) = true := by
    decide +kernel
  have shifts :
      (upperShifts.all fun shift => 46 < (shift.run.first : Int) + shift.offset) = true := by
    decide +kernel
  rw [List.all_eq_true] at expansions shifts
  unfold upperForm mapCase
  split
  · rename_i form found
    obtain ⟨_, _, isEntry, _⟩ := List.lookup_eq_some_iff.mp found
    have after := expansions (c.toNat, form) (by simp [isEntry])
    rw [List.all_eq_true] at after
    intro dot
    obtain ⟨code, within, isDot⟩ := List.mem_map.mp dot
    exact ofNat_ne_dot (of_decide_eq_true (after code within)) isDot
  · split
    · rename_i shift found
      -- A character of a run is not before its first one, and neither is its counterpart.
      have inRun := List.find?_some found
      have after := of_decide_eq_true (shifts shift (List.mem_of_find?_eq_some found))
      simp only [Run.has, Bool.and_eq_true, decide_eq_true_eq] at inRun
      rw [List.mem_singleton]
      exact (ofNat_ne_dot (by omega)).symm
    · simpa using other.symm

/-- A word without dots has none when it is capitalised. -/
theorem dot_notMem_capitalize {word : List Char} (dotless : '.' ∉ word) :
    '.' ∉ capitalize word := by
  -- Only the first character is changed, and what it becomes has no dot.
  cases word with
  | nil => exact dotless
  | cons c rest =>
    rw [List.mem_cons, not_or] at dotless
    rw [capitalize, List.mem_append]
    exact not_or.mpr ⟨dot_notMem_upperForm (Ne.symm dotless.1), dotless.2⟩

/-- What separates words is left out, and a dot does. -/
theorem dotless_pascalCase (name : String) : Dotless (pascalCase name) := by
  -- A dot stands between words, so none of them has it.
  have separates : isWordCharacter '.' = false := by decide +kernel
  rw [Dotless, pascalCase, String.toList_ofList, pascal, List.mem_flatMap]
  rintro ⟨word, listed, dot⟩
  refine dot_notMem_capitalize (fun within => ?_) dot
  rw [(mem_of_mem_words listed within).2] at separates
  cases separates

end Text

/-! ## Names that are handed out -/

namespace Derivation

open Text (Dotless)

/-- The same candidate with different numbers makes different names. -/
theorem numeral_inj (candidate : String) {left right : Nat}
    (same : candidate ++ toString left = candidate ++ toString right) : left = right :=
  toString_inj ((String.append_right_inj candidate).mp same)

namespace NameRegistry

/-- If no number of a row makes a free name, then each one makes a name that is taken. -/
theorem taken_of_numbered {taken : List String} {candidate : String} {tries number : Nat}
    (inUse : numbered taken candidate tries number ∈ taken) :
    ∀ step ≤ tries, candidate ++ toString (number + step) ∈ taken := by
  -- By induction on the tries that are left.
  induction tries generalizing number with
  | zero =>
    intro step within
    rw [Nat.le_zero.mp within]
    exact inUse
  | succ tries ih =>
    rw [numbered] at inUse
    split at inUse
    · -- Either the first number is taken, and the tries go on behind it, or it is free and handed
      -- out.
      rename_i first
      intro step within
      cases step with
      | zero => exact List.contains_iff_mem.mp first
      | succ step =>
        have later := ih inUse step (Nat.le_of_succ_le_succ within)
        rwa [Nat.add_right_comm, Nat.add_assoc] at later
    · rename_i free
      exact absurd (List.contains_iff_mem.mpr inUse) free

/-- A name that is handed out was not taken. -/
theorem freeName_notMem (taken : List String) (candidate : String) :
    freeName taken candidate ∉ taken := by
  unfold freeName
  split
  · intro inUse
    -- There would be more taken names than there are.
    let made := (List.range (taken.length + 1)).map fun step => candidate ++ toString (1 + step)
    have different : made.Nodup :=
      List.nodup_range.map fun left right same => Nat.add_left_cancel (numeral_inj candidate same)
    have among : made ⊆ taken := by
      intro name isMade
      obtain ⟨step, within, rfl⟩ := List.mem_map.mp isMade
      exact taken_of_numbered inUse step (Nat.le_of_lt_succ (List.mem_range.mp within))
    have fewer := (different.subperm among).length_le
    simp only [made, List.length_map, List.length_range] at fewer
    omega
  · rename_i free
    exact fun inUse => free (List.contains_iff_mem.mpr inUse)

/-- A name without dots has none when it is numbered. -/
theorem numbered_dotless {candidate : String} (dotless : Dotless candidate) (taken : List String)
    (tries number : Nat) : Dotless (numbered taken candidate tries number) := by
  -- Each try puts a numeral behind the name.
  induction tries generalizing number with
  | zero => exact dotless.append (Text.dotless_toString number)
  | succ tries ih =>
    rw [numbered]
    split
    · exact ih (number + 1)
    · exact dotless.append (Text.dotless_toString number)

/-- A number at its end puts no dot into a name. -/
theorem freeName_dotless {candidate : String} (dotless : Dotless candidate) (taken : List String) :
    Dotless (freeName taken candidate) := by
  -- A name that is free stays as it is; another one gets a number, which is made of digits.
  unfold freeName
  split
  · exact numbered_dotless dotless taken _ _
  · exact dotless

end NameRegistry

/-! ## Qualified names -/

/-- Nothing is left over between two texts that are the same up to their last dots. -/
theorem eq_nil_of_dot {after after' rest : List Char} (same : '.' :: after = rest ++ '.' :: after')
    (last : '.' ∉ after) : rest = [] := by
  -- If anything were left over, it would have the dot that the other text ends before.
  cases rest with
  | nil => rfl
  | cons c rest =>
    rw [List.cons_append, List.cons.injEq] at same
    exact absurd (same.2 ▸ List.mem_append_right rest List.mem_cons_self) last

/-- What stands before the last dot of a text, and what stands after it, are told by the text. -/
theorem eq_of_last_dot {before after before' after' : List Char}
    (same : before ++ '.' :: after = before' ++ '.' :: after') (last : '.' ∉ after)
    (last' : '.' ∉ after') : before = before' ∧ after = after' := by
  -- One of the two texts before the dots begins with the other.
  have none : before = before' := by
    rcases List.append_eq_append_iff.mp same with ⟨rest, longer, others⟩ | ⟨rest, longer, others⟩
    · rw [longer, eq_nil_of_dot others last, List.append_nil]
    · rw [longer, eq_nil_of_dot others last', List.append_nil]
  rw [none, List.append_cancel_left_eq, List.cons.injEq] at same
  exact ⟨none, same.2⟩

/-- A name without dots and its namespace are told by the qualified name. -/
theorem qualified_inj {«namespace» other name otherName : String} (dotless : Dotless name)
    (otherDotless : Dotless otherName)
    (same : qualified «namespace» name = qualified other otherName) :
    «namespace» = other ∧ name = otherName := by
  have dot (left right : String) : '.' ∈ (left ++ "." ++ right).toList := by simp
  unfold qualified at same
  -- A namespace puts a dot into the name, and without one there is none.
  split at same <;> split at same
  · rename_i bare otherBare
    rw [String.isEmpty_iff] at bare otherBare
    exact ⟨bare.trans otherBare.symm, same⟩
  · exact absurd (same ▸ dot other otherName) dotless
  · exact absurd (same ▸ dot «namespace» name) otherDotless
  · have texts := congrArg String.toList same
    simp only [String.toList_append, List.append_assoc] at texts
    obtain ⟨first, second⟩ := eq_of_last_dot texts dotless otherDotless
    exact ⟨String.toList_inj.mp first, String.toList_inj.mp second⟩

end Derivation

/-! ## Nameplates -/

/-- What a model, an enum or a named union is known by. -/
structure Nameplate where
  name : String
  isGeneratedName : Bool
  «namespace» : String
  crossId : String
  deriving DecidableEq

/-- What a node is known by; other sorts of nodes, and unions without a name, have no identifier. -/
def Node.nameplate? (node : Node) : Option Nameplate :=
  match node.kind with
  | .model model =>
    some ⟨model.name, model.isGeneratedName, model.namespace, model.crossId⟩
  | .enumeration enumeration =>
    some ⟨enumeration.name, enumeration.isGeneratedName, enumeration.namespace,
      enumeration.crossId⟩
  | .union union =>
    union.name.map fun name => ⟨name, union.isGeneratedName, union.namespace, union.crossId⟩
  | _ => none

/-- A union that has no declaration, under a name that was made up. -/
def Node.madeUp («namespace» name : String) (variants : List NodeId) : Node :=
  { kind := .union
      { name := some name
        isGeneratedName := true
        «namespace»
        variants
        crossId := Derivation.qualified «namespace» name } }

end ClientModel
