import Mathlib.Data.List.Nodup
import Mathlib.Data.List.Perm.Subperm
import Mathlib.Logic.Relation
import ClientModel.Service.Payload

/-!
Chains of declarations, each of which names the next one.

A chain that never comes back to itself, or is left where it does, is no longer than the table of
its declarations. Hence a walk along it ends by itself, whatever would be done after more steps.
-/

namespace ClientModel.Service

/-! ## Cycles and lines -/

/-- What leads to lower entries only does not come back to itself. -/
theorem acyclic_of_falls {α : Type} {leads : α → α → Prop} (rank : α → Nat)
    (falls : ∀ entry next, leads entry next → rank next < rank entry) (entry : α) :
    ¬ Relation.TransGen leads entry entry := by
  -- Along a way the rank only falls, by induction on its steps; on a cycle it would fall below
  -- itself.
  have lower {other : α} (way : Relation.TransGen leads entry other) : rank other < rank entry := by
    induction way with
    | single step => exact falls _ _ step
    | tail _ step ih => exact Nat.lt_trans (falls _ _ step) ih
  exact fun cyclic => Nat.lt_irrefl _ (lower cyclic)

/-- On a cycle every step is followed by another one, which may be used to tell more of it. -/
theorem cycle_of_turns {α : Type} {leads other : α → α → Prop}
    (turns : ∀ entry next last, leads entry next → leads next last → other entry next) {entry : α}
    (cyclic : Relation.TransGen leads entry entry) : Relation.TransGen other entry entry := by
  -- The last step of a way needs one after it, which on the cycle is the first step again.
  have told {next last : α} (way : Relation.TransGen leads entry next) (further : leads next last) :
      Relation.TransGen other entry next := by
    induction way generalizing last with
    | single step => exact .single (turns _ _ _ step further)
    | tail _ step ih => exact (ih step).tail (turns _ _ _ step further)
  obtain ⟨next, step, -⟩ := Relation.TransGen.head'_iff.mp cyclic
  exact told cyclic step

/-- Entries of a table that were met on the way to a last one, none of them twice. -/
structure Line {α : Type} (leads : α → α → Prop) (table met : List α) (last : α) : Prop where
  inside : met ⊆ table
  apart : met.Nodup
  reaches : ∀ entry ∈ met, Relation.TransGen leads entry last

namespace Line

variable {α : Type} {leads : α → α → Prop} {table met : List α} {last next : α}

/-- At the start of a way nothing was met. -/
theorem start : Line leads table [] last :=
  ⟨List.nil_subset _, List.nodup_nil, by simp⟩

/-- No way is longer than the table. -/
theorem length_le (line : Line leads table met last) : met.length ≤ table.length :=
  (line.apart.subperm line.inside).length_le

section

variable (acyclic : ∀ entry, ¬ Relation.TransGen leads entry entry)
include acyclic

/-- Where nothing leads back to itself, a way has not met what it comes to. -/
theorem nodup_cons (line : Line leads table met last) : (last :: met).Nodup :=
  List.nodup_cons.mpr ⟨fun again => acyclic last (line.reaches last again), line.apart⟩

/-- The way goes on from an entry of the table. -/
theorem cons (line : Line leads table met last) (inside : last ∈ table) (step : leads last next) :
    Line leads table (last :: met) next where
  inside := List.cons_subset.mpr ⟨inside, line.inside⟩
  apart := line.nodup_cons acyclic
  reaches entry member := by
    rcases List.mem_cons.mp member with rfl | earlier
    · exact .single step
    · exact (line.reaches entry earlier).tail step

/-- What was met leaves room for an entry of the table that the way comes to. -/
theorem length_lt (line : Line leads table met last) (inside : last ∈ table) :
    met.length < table.length :=
  ((line.nodup_cons acyclic).subperm (List.cons_subset.mpr ⟨inside, line.inside⟩)).length_le

end

end Line

/-! ## Scalars and their bases -/

namespace Definition

variable (definition : Definition)

/-- The base of a scalar. -/
def scalarBase? (id : TypeId) : Option TypeId :=
  match definition.shapeAt id with
  | .scalar scalar => scalar.base
  | _ => none

/-- The first type is a scalar that extends the second one. -/
def Extends (id base : TypeId) : Prop :=
  definition.scalarBase? id = some base

variable {definition}

/-- There are as many identifiers of types as there are types. -/
theorem length_typeIds : definition.typeIds.length = definition.types.size := by
  simp [typeIds]

/-- The identifiers of types are those in range. -/
theorem mem_typeIds {id : TypeId} :
    id ∈ definition.typeIds ↔ id.index < definition.types.size := by
  -- The list is made by counting up to the size of the table.
  simp only [typeIds, List.mem_map, List.mem_range]
  exact ⟨fun ⟨index, inside, isId⟩ => isId ▸ inside, fun inside => ⟨id.index, inside, rfl⟩⟩

/-- A type out of range reads as the unknown type. -/
theorem shapeAt_of_notMem {id : TypeId} (outside : id ∉ definition.typeIds) :
    definition.shapeAt id = .intrinsic .unknown := by
  -- The table is read with a default, and the default is what a place beyond it gives.
  rw [mem_typeIds, Nat.not_lt] at outside
  simp [shapeAt, typeAt, Array.getD_eq_getD_getElem?, Array.getElem?_eq_none outside]

/-- No scalar is its own base in the end if every one extends an earlier one. -/
theorem extends_acyclic_of_earlier
    (earlier : ∀ id ∈ definition.typeIds, ∀ base ∈ definition.scalarBase? id,
      base.index < id.index) (id : TypeId) : ¬ Relation.TransGen definition.Extends id id := by
  -- A type that is not listed is no scalar with a base, so the assumption covers all there are.
  refine acyclic_of_falls TypeId.index (fun id base isBase => ?_) id
  by_cases inside : id ∈ definition.typeIds
  · exact earlier id inside base isBase
  · rw [Extends, scalarBase?, shapeAt_of_notMem inside] at isBase
    cases isBase

/-! ## Models and their bases -/

/-- A type and its bases up to the first one that was met before; the last step is left open. -/
def lineageOr (definition : Definition) (exhausted : List TypeId → TypeId → List TypeId) :
    Nat → List TypeId → TypeId → List TypeId
  | 0, met, id => exhausted met id
  | steps + 1, met, id =>
    if met.contains id then []
    else
      id ::
        match (definition.model? id).bind Model.base with
        | some base => lineageOr definition exhausted steps (id :: met) base
        | none => []

/-- By induction on the steps: no model is met twice, though one may be its own base in the end. -/
theorem lineageOr_eq_lineageWithin (exhausted : List TypeId → TypeId → List TypeId)
    (steps rest : Nat) (met : List TypeId) (id : TypeId) (inside : met ⊆ definition.typeIds)
    (apart : met.Nodup) (enough : definition.types.size < met.length + steps)
    (spare : definition.types.size < met.length + rest) :
    definition.lineageOr exhausted steps met id = definition.lineageWithin rest met id := by
  -- The models that were met are different ones, so there are no more of them than types.
  have short := (apart.subperm inside).length_le
  rw [length_typeIds] at short
  induction steps generalizing rest met id with
  | zero => omega
  | succ steps ih =>
    obtain ⟨rest, rfl⟩ : ∃ left, rest = left + 1 := ⟨rest - 1, by omega⟩
    rw [lineageOr, lineageWithin]
    split
    · rfl
    · rename_i fresh
      cases isBase : (definition.model? id).bind Model.base with
      | none => rfl
      | some base =>
        -- A model with a base is declared, and so it can be counted among those that were met.
        have listed : id ∈ definition.typeIds := by
          by_contra outside
          simp [model?, shapeAt_of_notMem outside] at isBase
        have further : (id :: met).Nodup :=
          List.nodup_cons.mpr ⟨mt List.contains_iff_mem.mpr fresh, apart⟩
        have among : id :: met ⊆ definition.typeIds := List.cons_subset.mpr ⟨listed, inside⟩
        have room := (further.subperm among).length_le
        rw [length_typeIds] at room
        have same := ih rest (id :: met) base among further
          (by rw [List.length_cons]; omega) (by rw [List.length_cons]; omega) room
        simp only [same]

/-- With more steps than there are types, what is answered when they run out does not matter. -/
theorem lineageOr_eq_lineage (exhausted : List TypeId → TypeId → List TypeId) {steps : Nat}
    (enough : definition.types.size < steps) (id : TypeId) :
    definition.lineageOr exhausted steps [] id = definition.lineage id :=
  -- The list of what was met is without repetition and within the table, so it cannot be as long as
  -- the steps that were given.
  lineageOr_eq_lineageWithin exhausted steps _ [] id (List.nil_subset _) List.nodup_nil
    (by simpa using enough) (by simp)

end Definition

end ClientModel.Service
