import ClientModel.Proofs.Drafts

/-!
Laws of the containers around a container.

Where the lists of a definition are sound, the containers around one form a chain: each of them is
around all that lie further in.
-/

namespace ClientModel.Service.Definition

variable {definition : Definition}

/-- What holds of a container if it holds of the one around it holds of all containers. -/
theorem IsLinked.induct (linked : definition.IsLinked) {motive : ContainerId → Prop}
    (step : ∀ id, (∀ parent, (definition.containerAt id).parent = some parent → motive parent) →
      motive id) (id : ContainerId) : motive id := by
  -- A container has a greater index than the one around it.
  obtain ⟨index⟩ := id
  induction index using Nat.strongRecOn with
  | ind index ih =>
    refine step ⟨index⟩ fun parent isParent => ?_
    exact ih parent.index (linked.parent_lt _ parent isParent)

/-- A container out of range has no container around it. -/
theorem parent_of_ge {id : ContainerId} (outside : definition.containers.size ≤ id.index) :
    (definition.containerAt id).parent = none := by
  rw [containerAt, getD_of_ge _ _ outside]

/-- Further steps find no further containers, once there are more of them than containers left. -/
theorem IsLinked.enclosingWithin_eq (linked : definition.IsLinked) (id : ContainerId) :
    ∀ steps more, id.index < steps → id.index < more →
      definition.enclosingWithin steps id = definition.enclosingWithin more id := by
  induction id using linked.induct with
  | step id ih =>
    intro steps more enough enoughMore
    obtain ⟨fewer, rfl⟩ : ∃ fewer, steps = fewer + 1 := ⟨steps - 1, by omega⟩
    obtain ⟨others, rfl⟩ : ∃ others, more = others + 1 := ⟨more - 1, by omega⟩
    rw [enclosingWithin, enclosingWithin]
    cases isParent : (definition.containerAt id).parent with
    | none => rfl
    | some parent =>
      -- The container around has a lower place, for which one step less is enough.
      have below := linked.parent_lt id parent isParent
      have same := ih parent isParent fewer others (by omega) (by omega)
      simp only [same]

/-- A container is enclosed by itself, and by whatever encloses the container around it. -/
theorem IsLinked.enclosing_eq (linked : definition.IsLinked) (id : ContainerId) :
    definition.enclosing id =
      id :: (((definition.containerAt id).parent.map definition.enclosing).getD []) := by
  rw [enclosing, enclosingWithin]
  cases isParent : (definition.containerAt id).parent with
  | none => rfl
  | some parent =>
    have below := linked.parent_lt id parent isParent
    -- As many steps as there are containers are enough for all that lies further out.
    have inside : id.index < definition.containers.size := by
      by_contra outside
      rw [parent_of_ge (by omega)] at isParent
      cases isParent
    have same := linked.enclosingWithin_eq parent definition.containers.size
      (definition.containers.size + 1) (by omega) (by omega)
    simp only [same, Option.map_some, Option.getD_some]
    rfl

variable (linked : definition.IsLinked) {inner middle outer id : ContainerId}
include linked

/-- Around a container there are itself and what is around its parent. -/
theorem IsLinked.mem_enclosing :
    outer ∈ definition.enclosing inner ↔
      outer = inner ∨ ∃ parent, (definition.containerAt inner).parent = some parent ∧
        outer ∈ definition.enclosing parent := by
  -- The walk outwards goes on with the parent, if there is one.
  rw [linked.enclosing_eq, List.mem_cons]
  cases (definition.containerAt inner).parent with
  | none => simp
  | some parent => simp

/-- A container is around itself. -/
theorem IsLinked.mem_enclosing_self (id : ContainerId) : id ∈ definition.enclosing id :=
  linked.mem_enclosing.mpr (Or.inl rfl)

/-- The parent of a container is around it. -/
theorem IsLinked.mem_enclosing_parent {parent : ContainerId}
    (isParent : (definition.containerAt inner).parent = some parent) :
    parent ∈ definition.enclosing inner :=
  linked.mem_enclosing.mpr (Or.inr ⟨parent, isParent, linked.mem_enclosing_self parent⟩)

/-- What encloses a container that encloses another encloses that one as well. -/
theorem IsLinked.enclosing_trans (first : outer ∈ definition.enclosing middle)
    (second : middle ∈ definition.enclosing inner) : outer ∈ definition.enclosing inner := by
  -- From the inside out: up to the middle one by the second way, and on from there by the first.
  induction inner using linked.induct with
  | step inner ih =>
    rcases linked.mem_enclosing.mp second with same | ⟨parent, isParent, above⟩
    · rw [← same]
      exact first
    · exact linked.mem_enclosing.mpr (Or.inr ⟨parent, isParent, ih parent isParent above⟩)

/-- A container is declared before those within it. -/
theorem IsLinked.index_le (encloses : outer ∈ definition.enclosing inner) :
    outer.index ≤ inner.index := by
  -- Each step outwards goes to a lower place.
  induction inner using linked.induct with
  | step inner ih =>
    rcases linked.mem_enclosing.mp encloses with same | ⟨parent, isParent, above⟩
    · exact Nat.le_of_eq (congrArg ContainerId.index same)
    · have below := linked.parent_lt inner parent isParent
      have := ih parent isParent above
      omega

/-- Two containers that are around each other are the same. -/
theorem IsLinked.enclosing_antisymm (first : outer ∈ definition.enclosing inner)
    (second : inner ∈ definition.enclosing outer) : outer = inner := by
  -- What is around a container was declared no later, so both have one place.
  have := linked.index_le first
  have := linked.index_le second
  exact ContainerId.index_inj.mp (by omega)

/-- Of two containers around a third one, one encloses the other. -/
theorem IsLinked.enclosing_total (first : outer ∈ definition.enclosing inner)
    (second : middle ∈ definition.enclosing inner) :
    outer ∈ definition.enclosing middle ∨ middle ∈ definition.enclosing outer := by
  -- From the inside out, until one of the two is met.
  induction inner using linked.induct with
  | step inner ih =>
    rcases linked.mem_enclosing.mp first with same | ⟨parent, isParent, above⟩
    · -- The innermost of all is enclosed by whatever encloses it.
      rw [same]
      exact Or.inr second
    · rcases linked.mem_enclosing.mp second with same | ⟨other, isOther, otherAbove⟩
      · rw [same]
        exact Or.inl first
      · obtain rfl : parent = other := Option.some.inj (isParent.symm.trans isOther)
        exact ih parent isParent above otherAbove

/-- Two containers in the same one of which one encloses the other are the same. -/
theorem IsLinked.eq_of_siblings {parent : ContainerId}
    (first : (definition.containerAt inner).parent = some parent)
    (second : (definition.containerAt middle).parent = some parent)
    (encloses : middle ∈ definition.enclosing inner) : middle = inner := by
  -- Either they are the same, or the one encloses the parent of the other, which is its own.
  rcases linked.mem_enclosing.mp encloses with same | ⟨other, isOther, above⟩
  · exact same
  · -- Otherwise the one would enclose its own parent.
    obtain rfl : parent = other := Option.some.inj (first.symm.trans isOther)
    have := linked.index_le above
    have := linked.parent_lt middle parent second
    omega

end ClientModel.Service.Definition
