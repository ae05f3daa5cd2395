import ClientModel.Proofs.ContextPath

/-!
Searches for the path to a type come to an end.

No type is visited twice, so that as many steps as there are types suffice for a search, whatever
would be done after the last one.
-/

namespace ClientModel.Derivation

open Service (Definition)

/-! ## Steps that are used up -/

/-- The path from a lead to the wanted type, where a given search follows the leads from there. -/
def pathStep (definition : Definition) (target : TypeId) (follow : List TypeId → Lead → Found)
    (visited : List TypeId) : Lead → Found
  | (id, word) =>
    match definition.shapeAt id with
    | .array inner | .record inner =>
      if visited.contains id then (none, visited)
      else follow (id :: visited) (inner, Text.singular word)
    | .model model =>
      if id == target then (some [{ word, type := some id }], visited)
      else if visited.contains id then (none, visited)
      else
        match followAll follow (id :: visited) (memberLeads definition model) with
        | (some path, visited) => (some ({ word, type := some id } :: path), visited)
        | (none, visited) => followAll follow visited (kinLeads definition model word)
    | .union union =>
      if id == target then (some [{ word, type := some id }], visited)
      else if visited.contains id then (none, visited)
      else
        followAll follow (id :: visited) (union.variants.map fun variant => (variant.type, word))
    | .scalar _ | .intrinsic _ | .literal _ | .enumeration _ | .member _ => (none, visited)

/-- The path from a lead to the wanted type; what is done after the last step is left open. -/
def pathOr (definition : Definition) (target : TypeId)
    (exhausted : List TypeId → Lead → Found) : Nat → List TypeId → Lead → Found
  | 0 => exhausted
  | steps + 1 => pathStep definition target (pathOr definition target exhausted steps)

section

variable {definition : Definition} {target : TypeId} {steps : Nat}
  {follow other : List TypeId → Lead → Found}

/-- A search that fails when its steps run out is one of those that answer something then. -/
theorem pathWithin_eq_pathOr (steps : Nat) :
    pathWithin definition target steps =
      pathOr definition target (fun visited _ => (none, visited)) steps := by
  -- By induction on the steps, each of which is made in the same way.
  induction steps with
  | zero => rfl
  | succ steps ih =>
    rw [pathOr, ← ih]
    rfl

/-- Some steps after some more are one search of all of them. -/
theorem pathOr_add (exhausted : List TypeId → Lead → Found) (steps more : Nat) :
    pathOr definition target exhausted (steps + more) =
      pathOr definition target (pathOr definition target exhausted more) steps := by
  -- By induction on the steps that come first.
  induction steps with
  | zero => rw [Nat.zero_add, pathOr]
  | succ steps ih => rw [Nat.succ_add, pathOr, ih, pathOr]

variable (definition steps) in
/-- Where there are steps for all types that were not visited, two searches come to the same. -/
def Concord (follow other : List TypeId → Lead → Found) : Prop :=
  ∀ visited lead, (unvisited definition visited).length < steps →
    follow visited lead = other visited lead ∧ visited ⊆ (other visited lead).2

namespace Concord

/-- A list of leads is searched alike where each lead is. -/
theorem followAll (concord : Concord definition steps follow other) {visited : List TypeId}
    (enough : (unvisited definition visited).length < steps) (leads : List Lead) :
    Derivation.followAll follow visited leads = Derivation.followAll other visited leads ∧
      visited ⊆ (Derivation.followAll other visited leads).2 := by
  induction leads generalizing visited with
  | nil => exact ⟨rfl, List.Subset.refl _⟩
  | cons lead rest ih =>
    obtain ⟨same, kept⟩ := concord visited lead enough
    rw [Derivation.followAll, Derivation.followAll, same]
    cases run : other visited lead with
    | mk outcome between =>
      rw [run] at kept
      cases outcome with
      | some path => exact ⟨rfl, kept⟩
      | none =>
        -- What was visited in vain leaves no less room for the leads that are left.
        have room := Nat.lt_of_le_of_lt (length_unvisited_le kept) enough
        obtain ⟨sameRest, keptRest⟩ := ih room
        exact ⟨sameRest, List.Subset.trans kept keptRest⟩

/-- Each shape leaves room for what is behind it. -/
theorem pathStep (concord : Concord definition steps follow other) :
    Concord definition (steps + 1) (pathStep definition target follow)
      (Derivation.pathStep definition target other) := by
  rintro visited ⟨id, word⟩ enough
  -- Whatever is visited further on contains what was visited before.
  have enters {found : List TypeId} (kept : id :: visited ⊆ found) : visited ⊆ found :=
    List.Subset.trans (List.subset_cons_self _ _) kept
  have composite (isComposite : definition.isComposite id = true)
      (fresh : ¬ visited.contains id) : (unvisited definition (id :: visited)).length < steps :=
    length_unvisited_visit (Or.inr isComposite) fresh enough
  simp only [Derivation.pathStep]
  -- Behind each shape the two searches go the same way, as there is room for it.
  cases shape : definition.shapeAt id with
  | array inner | record inner =>
    dsimp only
    split
    · exact ⟨rfl, List.Subset.refl _⟩
    · rename_i fresh
      -- An array or a record that is new was not visited yet, which leaves room behind it.
      have room := length_unvisited_visit (Or.inl (by simp [mentions, shape])) fresh enough
      obtain ⟨same, kept⟩ := concord _ _ room
      exact ⟨same, enters kept⟩
  | model model =>
    dsimp only
    split
    · exact ⟨rfl, List.Subset.refl _⟩
    · split
      · exact ⟨rfl, List.Subset.refl _⟩
      · rename_i fresh
        have room := composite (by simp [Definition.isComposite, shape]) fresh
        obtain ⟨same, kept⟩ := concord.followAll room (memberLeads definition model)
        rw [same]
        cases run : Derivation.followAll other (id :: visited) (memberLeads definition model) with
        | mk outcome between =>
          rw [run] at kept
          cases outcome with
          | some path => exact ⟨rfl, enters kept⟩
          | none =>
            -- The kin come last, after all that was visited behind the members.
            have left := Nat.lt_of_le_of_lt (length_unvisited_le kept) room
            obtain ⟨sameKin, keptKin⟩ := concord.followAll left (kinLeads definition model word)
            exact ⟨sameKin, enters (List.Subset.trans kept keptKin)⟩
  | union union =>
    dsimp only
    split
    · exact ⟨rfl, List.Subset.refl _⟩
    · split
      · exact ⟨rfl, List.Subset.refl _⟩
      · rename_i fresh
        have room := composite (by simp [Definition.isComposite, shape]) fresh
        obtain ⟨same, kept⟩ := concord.followAll room
          (union.variants.map fun variant => (variant.type, word))
        exact ⟨same, enters kept⟩
  | scalar | intrinsic | literal | enumeration | member => exact ⟨rfl, List.Subset.refl _⟩

end Concord

/-- By induction on the steps. -/
theorem concord_pathOr (exhausted last : List TypeId → Lead → Found) (steps : Nat) :
    Concord definition steps (pathOr definition target exhausted steps)
      (pathOr definition target last steps) := by
  -- Without any steps there is no room left, so nothing is asked.
  induction steps with
  | zero => exact fun _ _ enough => absurd enough (Nat.not_lt_zero _)
  | succ steps ih => exact ih.pathStep

/-- Whatever is done after the last step, a search for a path comes to the same. -/
theorem pathOr_eq_pathFrom (exhausted : List TypeId → Lead → Found)
    (enough : definition.types.size < steps) (leads : List Lead) :
    (followAll (pathOr definition target exhausted steps) [] leads).1 =
      pathFrom definition target leads := by
  -- More steps than types are the steps that are needed and some more; what these do is never asked
  -- for.
  obtain ⟨more, rfl⟩ := Nat.exists_eq_add_of_lt enough
  have room := length_unvisited_nil_lt definition
  rw [pathFrom, pathWithin_eq_pathOr, Nat.add_right_comm, pathOr_add]
  exact congrArg Prod.fst ((concord_pathOr _ _ _).followAll room leads).1

end

end ClientModel.Derivation
