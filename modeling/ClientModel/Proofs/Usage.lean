import ClientModel.Usage

/-! Laws of usages as sets: which ways of use are in a union, and which are passed on. -/

namespace ClientModel.Usage

/-- The usage has the way of use at a place among the bits. -/
def Has (usage : Usage) (way : Nat) : Prop :=
  usage.bits.toBitVec.getLsbD way = true

instance (usage : Usage) (way : Nat) : Decidable (usage.Has way) :=
  inferInstanceAs (Decidable (_ = true))

/-- Every way of one usage is a way of the other. -/
def Subset (part whole : Usage) : Prop :=
  ∀ way, part.Has way → whole.Has way

/-- Two usages with the same ways are one usage. -/
theorem ext_has {left right : Usage} (same : ∀ way, left.Has way ↔ right.Has way) :
    left = right := by
  -- The bits of a word are all that there is to a usage.
  have words : left.bits.toBitVec = right.bits.toBitVec := by
    apply BitVec.eq_of_getLsbD_eq
    intro way _
    exact Bool.eq_iff_iff.mpr (same way)
  cases left
  cases right
  exact congrArg Usage.mk (UInt32.toBitVec_inj.mp words)

/-- A usage that has a way of use is not empty. -/
theorem isEmpty_of_has {usage : Usage} {way : Nat} (has : usage.Has way) :
    usage.isEmpty = false := by
  -- An empty usage has no bit.
  refine Bool.eq_false_iff.mpr fun empty => ?_
  have none : usage.bits = 0 := beq_iff_eq.mp empty
  rw [Has, none] at has
  simp at has

/-- The empty usage has no way of use. -/
theorem not_has_none (way : Nat) : ¬ none.Has way := by
  simp [Has, none]

/-- A usage that is not empty has some way of use. -/
theorem exists_has_of_isEmpty {usage : Usage} (used : usage.isEmpty = false) :
    ∃ way, usage.Has way := by
  -- Without any way it would be the empty usage.
  refine Classical.byContradiction fun unused => ?_
  have same : usage = none :=
    ext_has fun way => iff_of_false (fun has => unused ⟨way, has⟩) (not_has_none way)
  rw [same] at used
  cases used

/-- A usage with a part that is not empty is not empty. -/
theorem Subset.isEmpty {part whole : Usage} (subset : part.Subset whole)
    (used : part.isEmpty = false) : whole.isEmpty = false := by
  -- A usage that is not empty has some way, and that is one of the whole.
  obtain ⟨way, has⟩ := exists_has_of_isEmpty used
  exact isEmpty_of_has (subset way has)

/-- A union has the ways of either side. -/
@[simp] theorem has_union (left right : Usage) (way : Nat) :
    (left ||| right).Has way ↔ left.Has way ∨ right.Has way := by
  -- A way is a bit, and bits are joined one by one.
  show (left.bits ||| right.bits).toBitVec.getLsbD way = true ↔ _
  rw [UInt32.toBitVec_or, BitVec.getLsbD_or, Bool.or_eq_true]
  rfl

/-- What is passed on are all the ways but that of a spread. -/
@[simp] theorem has_propagated (usage : Usage) (way : Nat) :
    usage.propagated.Has way ↔ usage.Has way ∧ ¬ spread.Has way := by
  show (usage.bits &&& ~~~spread.bits).toBitVec.getLsbD way = true ↔ _
  rw [UInt32.toBitVec_and, UInt32.toBitVec_not, BitVec.getLsbD_and, BitVec.getLsbD_not]
  simp only [Has, Bool.and_eq_true, decide_eq_true_eq, Bool.not_eq_true', Bool.not_eq_true]
  constructor
  · rintro ⟨inside, _, outside⟩
    exact ⟨inside, outside⟩
  · rintro ⟨inside, outside⟩
    -- Only the places of the word can be set at all.
    exact ⟨inside, BitVec.lt_of_getLsbD inside, outside⟩

/-- Passing on twice is passing on once. -/
@[simp] theorem propagated_propagated (usage : Usage) :
    usage.propagated.propagated = usage.propagated := by
  -- Usages are compared way by way, and the ways that are passed on are the same each time.
  apply ext_has
  intro way
  simp only [has_propagated, and_assoc, and_self]

/-! ## What is passed on -/

/-- The usage has a way of use that is passed on to whatever a type refers to. -/
def IsPassedOn (usage : Usage) : Prop :=
  ∃ way, usage.Has way ∧ ¬ spread.Has way

/-- Input is passed on. -/
theorem isPassedOn_input : input.IsPassedOn :=
  ⟨1, by unfold Has; decide, by unfold Has; decide⟩

/-- Output is passed on. -/
theorem isPassedOn_output : output.IsPassedOn :=
  ⟨2, by unfold Has; decide, by unfold Has; decide⟩

/-- What is passed on stays so when more is added. -/
theorem IsPassedOn.union {usage : Usage} (passed : usage.IsPassedOn) (other : Usage) :
    (usage ||| other).IsPassedOn :=
  passed.imp fun way has => ⟨(has_union usage other way).mpr (Or.inl has.1), has.2⟩

end ClientModel.Usage
