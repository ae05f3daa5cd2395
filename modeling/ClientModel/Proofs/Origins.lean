import ClientModel.Proofs.Chains
import ClientModel.Service.Draft

/-!
Where chains of copies and of scalars end.

A property names the one that it was copied from, and a scalar the one that it extends. Both chains
are followed for as many steps as there are entries in their tables. Where no chain comes back to
itself, that is down to its end, also for one that takes up all of its table.
-/

namespace ClientModel.Service

/-! ## Ends of chains -/

section

variable {α : Type} {next? : α → Option α} {links more : Nat} {first next last other : α}

/-- From the first entry on each one names the next, down to the last one, which names none. -/
inductive EndsAfter (next? : α → Option α) : Nat → α → α → Prop
  | here {last : α} (none : next? last = none) : EndsAfter next? 0 last last
  | there {links : Nat} {first next last : α} (step : next? first = some next)
      (rest : EndsAfter next? links next last) : EndsAfter next? (links + 1) first last

namespace EndsAfter

/-- The end of a chain leads nowhere. -/
theorem next?_last (ends : EndsAfter next? links first last) : next? last = none := by
  -- By induction on the chain: it goes on to the same end.
  induction ends with
  | here none => exact none
  | there _ _ ih => exact ih

/-- A chain has one end. -/
theorem unique (ends : EndsAfter next? links first last)
    (also : EndsAfter next? more first other) : last = other := by
  -- Link by link, as the next entry is the same in both.
  induction ends generalizing more with
  | here none =>
    cases also with
    | here => rfl
    | there step => simp [none] at step
  | there step _ ih =>
    cases also with
    | here none => simp [none] at step
    | there isNext rest =>
      obtain rfl := Option.some.inj (step.symm.trans isNext)
      exact ih rest

end EndsAfter

section

variable {table : List α} (inside : ∀ entry next, next? entry = some next → entry ∈ table)
  (acyclic : ∀ entry, ¬ Relation.TransGen (fun entry next => next? entry = some next) entry entry)
include inside acyclic

/--
By induction on the room that is left in the table: an entry that names another one was not met
before, so that the chain goes on for no longer than there is room.
-/
theorem exists_endsAfter_of_line (room : Nat) (met : List α) (entry : α)
    (line : Line (fun entry next => next? entry = some next) table met entry)
    (enough : table.length = met.length + room) :
    ∃ links last, EndsAfter next? links entry last ∧ links ≤ room ∧
      (last ∈ table → links < room) := by
  -- Here the chain is at its end, or it goes on with one entry fewer to come.
  cases isNext : next? entry with
  | none =>
    refine ⟨0, entry, .here isNext, Nat.zero_le _, fun listed => ?_⟩
    have := line.length_lt acyclic listed
    omega
  | some next =>
    have listed := inside entry next isNext
    have := line.length_lt acyclic listed
    obtain ⟨room, rfl⟩ : ∃ left, room = left + 1 := ⟨room - 1, by omega⟩
    obtain ⟨links, last, ends, bound, among⟩ := exists_endsAfter_of_line room (entry :: met) next
      (line.cons acyclic listed isNext) (by rw [List.length_cons]; omega)
    exact ⟨links + 1, last, .there isNext ends, Nat.succ_le_succ bound,
      fun isListed => Nat.succ_lt_succ (among isListed)⟩

/-- A chain has no more links than its table has entries, and less if its end is in the table. -/
theorem exists_endsAfter (entry : α) :
    ∃ links last, EndsAfter next? links entry last ∧ links ≤ table.length ∧
      (last ∈ table → links < table.length) :=
  exists_endsAfter_of_line inside acyclic table.length [] entry .start (by simp)

end

end

namespace Definition

variable {definition : Definition} {links steps : Nat}

/-! ## Copies and what they were copied from -/

variable (definition) in
/-- The property that a property was copied from. -/
def source? (id : PropertyId) : Option PropertyId :=
  (definition.propertyAt id).source

variable (definition) in
/-- The first property was copied from the second one. -/
def IsCopyOf (id source : PropertyId) : Prop :=
  definition.source? id = some source

variable (definition) in
/-- The identifiers of all properties, in order. -/
def propertyIds : List PropertyId :=
  (List.range definition.properties.size).map PropertyId.mk

/-- There are as many identifiers of properties as there are properties. -/
theorem length_propertyIds : definition.propertyIds.length = definition.properties.size := by
  simp [propertyIds]

/-- The identifiers of properties are those in range. -/
theorem mem_propertyIds {id : PropertyId} :
    id ∈ definition.propertyIds ↔ id.index < definition.properties.size := by
  -- The list is made by counting up to the size of the table.
  simp only [propertyIds, List.mem_map, List.mem_range]
  exact ⟨fun ⟨index, inside, isId⟩ => isId ▸ inside, fun inside => ⟨id.index, inside, rfl⟩⟩

/-- What is no property is no copy of one. -/
theorem mem_propertyIds_of_source? {id source : PropertyId}
    (isSource : definition.source? id = some source) : id ∈ definition.propertyIds := by
  -- A place beyond the table reads as a property without a source.
  rw [mem_propertyIds]
  by_contra outside
  simp [source?, propertyAt, Array.getD, outside] at isSource

/-- As many steps as a chain has links lead to its end. -/
theorem rootSourceWithin_of_endsAfter {id last : PropertyId}
    (apart : ∀ id, definition.source? id ≠ some id)
    (ends : EndsAfter definition.source? links id last) (enough : links ≤ steps) :
    definition.rootSourceWithin steps id = last := by
  -- Along the chain, with one step less for what is behind the first link.
  induction ends generalizing steps with
  | @here last none =>
    rw [source?] at none
    cases steps with
    | zero => rfl
    | succ steps => simp [rootSourceWithin, none]
  | @there links first next last step rest ih =>
    obtain ⟨steps, rfl⟩ : ∃ fewer, steps = fewer + 1 := ⟨steps - 1, by omega⟩
    have other : next ≠ first := fun same => apart first (same ▸ step)
    have found := ih (Nat.le_of_succ_le_succ enough)
    rw [source?] at step
    simp [rootSourceWithin, step, other, found]

/-! ## Scalars and what they extend -/

/-- A type that extends another one is in the table. -/
theorem mem_typeIds_of_scalarBase? {id base : TypeId}
    (isBase : definition.scalarBase? id = some base) : id ∈ definition.typeIds := by
  -- A place beyond the table reads as the unknown type, which extends nothing.
  by_contra outside
  simp [scalarBase?, shapeAt_of_notMem outside] at isBase

/-- A type extends another one only if it is a scalar. -/
theorem exists_scalar_of_scalarBase? {id base : TypeId}
    (isBase : definition.scalarBase? id = some base) :
    ∃ scalar, definition.shapeAt id = .scalar scalar ∧ scalar.base = some base := by
  -- Of all shapes only scalars have bases.
  unfold scalarBase? at isBase
  split at isBase
  · rename_i scalar shape
    exact ⟨scalar, shape, isBase⟩
  · cases isBase

/-- The name of the scalar at the end of a chain is found if there is a step for it. -/
theorem standardScalarWithin_of_scalar {id last : TypeId} {scalar : Scalar}
    (ends : EndsAfter definition.scalarBase? links id last)
    (shape : definition.shapeAt last = .scalar scalar) (enough : links < steps) :
    definition.standardScalarWithin steps id = some scalar.name := by
  obtain ⟨steps, rfl⟩ : ∃ fewer, steps = fewer + 1 := ⟨steps - 1, by omega⟩
  -- Along the chain; the last step is needed for the scalar at its end.
  induction ends generalizing steps with
  | here none =>
    simp only [scalarBase?, shape] at none
    simp [standardScalarWithin, shape, none]
  | there step rest ih =>
    obtain ⟨extending, isScalar, isBase⟩ := exists_scalar_of_scalarBase? step
    obtain ⟨steps, rfl⟩ : ∃ fewer, steps = fewer + 1 := ⟨steps - 1, by omega⟩
    have found := ih shape steps (by omega)
    rw [standardScalarWithin, isScalar]
    simpa only [isBase] using found

/-- Where a chain does not end at a scalar, no name is found. -/
theorem standardScalarWithin_of_other {id last : TypeId}
    (ends : EndsAfter definition.scalarBase? links id last)
    (other : ∀ scalar, definition.shapeAt last ≠ .scalar scalar) :
    definition.standardScalarWithin steps id = none := by
  -- Along the chain, at the end of which the search finds no scalar.
  induction ends generalizing steps with
  | here none =>
    cases steps with
    | zero => rfl
    | succ steps =>
      rw [standardScalarWithin]
      split
      · rename_i scalar shape
        exact absurd shape (other scalar)
      · rfl
  | there step rest ih =>
    obtain ⟨extending, isScalar, isBase⟩ := exists_scalar_of_scalarBase? step
    cases steps with
    | zero => rfl
    | succ steps =>
      rw [standardScalarWithin, isScalar]
      simpa only [isBase] using ih other

/-! ## Both chains are followed to their ends -/

/--
Where no property is a copy of itself in the end and no scalar its own base, each chain is followed
to its end.

The property that is come to was copied from no other one; it is its own end, and the end for each
property that is copied from one that leads there. The name that is found for a type is that of the
scalar at the end of its chain, which extends no other one, and there is always such an end; nothing
is found only where that end is no scalar at all.
-/
theorem chains_are_followed_to_their_ends
    (copies : ∀ id, ¬ Relation.TransGen definition.IsCopyOf id id)
    (bases : ∀ id, ¬ Relation.TransGen definition.Extends id id) :
    (∀ id, (∃ links, EndsAfter definition.source? links id (definition.rootSource id)) ∧
      (definition.propertyAt (definition.rootSource id)).source = none ∧
      definition.rootSource (definition.rootSource id) = definition.rootSource id ∧
      ∀ source, (definition.propertyAt id).source = some source →
        definition.rootSource id = definition.rootSource source) ∧
    ∀ id, ∃ links last, EndsAfter definition.scalarBase? links id last ∧
      (∀ scalar, definition.shapeAt last = .scalar scalar →
        scalar.base = none ∧ definition.standardScalar? id = some scalar.name) ∧
      ((∀ scalar, definition.shapeAt last ≠ .scalar scalar) →
        definition.standardScalar? id = none) := by
  -- A chain is no longer than its table, which is as many steps as are made.
  have root (id : PropertyId) :
      ∃ links, EndsAfter definition.source? links id (definition.rootSource id) := by
    obtain ⟨links, last, ends, bound, -⟩ :=
      exists_endsAfter (fun _ _ => mem_propertyIds_of_source?) copies id
    rw [length_propertyIds] at bound
    have isRoot : definition.rootSource id = last :=
      rootSourceWithin_of_endsAfter (fun id same => copies id (.single same)) ends bound
    exact ⟨links, isRoot ▸ ends⟩
  refine ⟨fun id => ?_, fun id => ?_⟩
  · -- Properties: the root is the end of the chain, so that it is its own root.
    obtain ⟨links, ends⟩ := root id
    have isEnd := ends.next?_last
    refine ⟨⟨links, ends⟩, isEnd, ?_, fun source isSource => ?_⟩
    · obtain ⟨more, again⟩ := root (definition.rootSource id)
      exact again.unique (.here isEnd)
    · obtain ⟨more, rest⟩ := root source
      exact ends.unique (.there isSource rest)
  · -- Scalars: the end of the chain is a scalar without a base, or no scalar at all.
    obtain ⟨links, last, ends, -, fewer⟩ :=
      exists_endsAfter (fun _ _ => mem_typeIds_of_scalarBase?) bases id
    refine ⟨links, last, ends, fun scalar shape => ?_, fun other => ?_⟩
    · have isEnd := ends.next?_last
      simp only [scalarBase?, shape] at isEnd
      -- A scalar is in the table, so that there is a step for it.
      have listed : last ∈ definition.typeIds := by
        by_contra outside
        rw [shapeAt_of_notMem outside] at shape
        cases shape
      have enough := fewer listed
      rw [length_typeIds] at enough
      exact ⟨isEnd, standardScalarWithin_of_scalar ends shape enough⟩
    · exact standardScalarWithin_of_other ends other

/-- No property is a copy of itself in the end if every one is a copy of an earlier one. -/
theorem isCopyOf_acyclic_of_earlier
    (earlier : ∀ id ∈ definition.propertyIds, ∀ source ∈ definition.source? id,
      source.index < id.index) (id : PropertyId) :
    ¬ Relation.TransGen definition.IsCopyOf id id :=
  -- Along copies the places fall, so none of them comes back to its start.
  acyclic_of_falls PropertyId.index
    (fun id source isSource => earlier id (mem_propertyIds_of_source? isSource) source isSource) id

/-- A scalar that extends one that extends another, and a property that was copied twice. -/
def almanac : Definition :=
  let steps : Drafting Unit := do
    let root ← Draft.addContainer "Almanac" false none
    let date ← Draft.scalar "plainDate"
    let feast ← Draft.customScalar "Feast" root date
    let easter ← Draft.customScalar "Easter" root feast
    let first ← Draft.freeProperty "day" easter none
    let second ← Draft.freeProperty "day" easter none
    let third ← Draft.freeProperty "day" easter none
    Draft.modifyProperty second fun declared => { declared with source := some first }
    Draft.modifyProperty third fun declared => { declared with source := some second }
  (steps.run {}).2.definition

/-- Both chains take up all of their tables. -/
theorem chains_are_followed_to_their_ends_almanac :
    (∀ id, ¬ Relation.TransGen almanac.IsCopyOf id id) ∧
      (∀ id, ¬ Relation.TransGen almanac.Extends id id) ∧
      almanac.properties.size = 3 ∧ almanac.types.size = 3 ∧
      almanac.rootSource ⟨2⟩ = ⟨0⟩ ∧ (almanac.propertyAt ⟨0⟩).source = none ∧
      almanac.standardScalar? ⟨2⟩ = some "plainDate" := by
  -- Both tables are in order, so nothing comes back to itself.
  have copies : ∀ id, ¬ Relation.TransGen almanac.IsCopyOf id id :=
    isCopyOf_acyclic_of_earlier (by decide +kernel)
  have bases : ∀ id, ¬ Relation.TransGen almanac.Extends id id :=
    extends_acyclic_of_earlier (by decide +kernel)
  obtain ⟨sources, scalars⟩ := chains_are_followed_to_their_ends copies bases
  have isRoot : almanac.rootSource ⟨2⟩ = ⟨0⟩ := by decide +kernel
  have isFeast : almanac.scalarBase? ⟨2⟩ = some ⟨1⟩ := by decide +kernel
  have isDate : almanac.scalarBase? ⟨1⟩ = some ⟨0⟩ := by decide +kernel
  have isStandard : almanac.scalarBase? ⟨0⟩ = none := by decide +kernel
  -- The chain is followed by hand, and ends where the theorem says.
  obtain ⟨links, last, ends, named, -⟩ := scalars ⟨2⟩
  obtain rfl := ends.unique (.there isFeast (.there isDate (.here isStandard)))
  refine ⟨copies, bases, by decide +kernel, by decide +kernel, isRoot, ?_, ?_⟩
  · exact isRoot ▸ (sources ⟨2⟩).2.1
  · exact (named { name := "plainDate" } (by decide +kernel)).2

end Definition

end ClientModel.Service
