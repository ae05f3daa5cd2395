import ClientModel.Derivation.Basic
import ClientModel.Proofs.Hierarchy

/-!
Where operations go.

Every operation goes to one container, its own or the one that it was moved to, and is listed there
once. A container without a parent client lies in the tree of no other, so that each operation comes
to lie below one root at most.
-/

namespace ClientModel

section

variable {α : Type} [BEq α] [LawfulBEq α]

/-- What is appended unless it is there already is there in the end, beside what was there. -/
theorem mem_foldl_new (others list : List α) (entry : α) :
    entry ∈ others.foldl
        (fun found other => if found.contains other then found else found ++ [other]) list ↔
      entry ∈ list ∨ entry ∈ others := by
  induction others generalizing list with
  | nil => simp
  | cons other others ih =>
    rw [List.foldl_cons, ih, List.mem_cons]
    split
    · rename_i there
      -- An entry that is passed over is there already.
      have old : other ∈ list := by simpa using there
      constructor
      · tauto
      · rintro (inList | rfl | later)
        · exact Or.inl inList
        · exact Or.inl old
        · exact Or.inr later
    · simp only [List.mem_append, List.mem_singleton, or_assoc]

/-- To add only what is new to a list that repeats nothing keeps it so. -/
theorem nodup_foldl_new {list : List α} (once : list.Nodup) (others : List α) :
    (others.foldl (fun found other => if found.contains other then found else found ++ [other])
      list).Nodup := by
  induction others generalizing list with
  | nil => exact once
  | cons other others ih =>
    rw [List.foldl_cons]
    refine ih ?_
    split
    · exact once
    · rename_i missing
      have new : other ∉ list := by simpa using missing
      -- Only what is missing is appended.
      refine once.append (List.nodup_singleton other) fun entry old last => ?_
      rw [List.mem_singleton.mp last] at old
      exact new old

end

namespace Service

/-! ## Choices -/

/-- What is settled and put in order has no key that was not there, and none of them twice. -/
theorem settle_sorted {κ α : Type} (table : OrderedMap κ (Scoped α)) (scope : Option String)
    (notAfter : κ × α → κ × α → Bool) :
    (((settle table scope).entries.mergeSort notAfter).map Prod.fst).Nodup ∧
      ∀ entry ∈ (settle table scope).entries.mergeSort notAfter, entry.1 ∈ table.keys := by
  -- Putting entries in order neither adds nor drops any.
  have sorted := List.mergeSort_perm (settle table scope).entries notAfter
  constructor
  · exact (sorted.map Prod.fst).nodup_iff.mpr (settle table scope).once
  · intro entry listed
    have kept : (settle table scope).keys.Sublist table.keys :=
      OrderedMap.keys_filterMap_sublist (fun values : Scoped α => values.select scope) _
    exact kept.subset (List.mem_map_of_mem (sorted.mem_iff.mp listed))

variable {definition : Definition}

/-- An operation is moved once at most. -/
theorem resolved_locations_nodup (all : Customizations) (scope : Option String) :
    ((all.resolve scope).locations.map Prod.fst).Nodup :=
  (settle_sorted _ scope _).1

/-- A container is declared to be a client once at most. -/
theorem resolved_clients_nodup (all : Customizations) (scope : Option String) :
    ((all.resolve scope).clients.map Prod.fst).Nodup :=
  (settle_sorted _ scope _).1

/-- Only operations are moved. -/
theorem Definition.IsLinked.resolved_moved (linked : definition.IsLinked) (scope : Option String)
    {operation : OperationId} {target : ContainerId}
    (moved : (operation, target) ∈ (definition.customizations.resolve scope).locations) :
    definition.HasOperation operation :=
  linked.moved operation ((settle_sorted _ scope _).2 _ moved)

end Service

namespace Derivation

open Service (Definition)

namespace Context

variable (context : Context)

/-- The container to whose client an operation goes: the one that it was moved to, or its own. -/
def placeOf (operation : OperationId) : ContainerId :=
  (context.choices.location? operation).getD (context.definition.operationAt operation).container

/-- The nearest container, from this one outwards, whose client has no parent. -/
def nearestRoot? (container : ContainerId) : Option ContainerId :=
  (context.definition.enclosing container).find? (context.roots.contains ·)

/-- The lists of a definition are sound, and so are the choices and roots that come of it. -/
structure IsSound : Prop where
  linked : context.definition.IsLinked
  locations_nodup : (context.choices.locations.map Prod.fst).Nodup
  moved : ∀ operation target, (operation, target) ∈ context.choices.locations →
    context.definition.HasOperation operation
  roots_eq : context.roots =
    (rootClients context.definition context.choices).map RootClient.container
  roots_nodup : context.roots.Nodup

/-- Whatever the options are, sound lists make for sound choices. -/
theorem isSound_of {definition : Definition} (linked : definition.IsLinked) (options : Options) :
    (Context.of definition options).IsSound where
  linked := linked
  locations_nodup := Service.resolved_locations_nodup _ options.scope
  moved _ _ isMoved := linked.resolved_moved options.scope isMoved
  roots_eq := rfl
  -- The one field that takes an argument: the roots are listed in one of two ways.
  roots_nodup := by
    show ((rootClients definition (definition.customizations.resolve options.scope)).map
      RootClient.container).Nodup
    unfold rootClients
    split
    · -- Without declared clients, the roots are containers in the order of their table.
      rw [List.map_map]
      have same : RootClient.container ∘ (fun container => { container, name := none }) = id := rfl
      rw [same, List.map_id]
      refine List.Nodup.filter _ ?_
      exact List.nodup_range.map fun left right same => by cases same; rfl
    · -- Else they are the containers that were declared to be clients.
      rw [List.map_map]
      exact Service.resolved_clients_nodup _ options.scope

variable {context}

/-! ## Operations -/

/-- An operation was moved to a container if it is listed among those that were. -/
theorem IsSound.mem_movedInto (sound : context.IsSound) {container : ContainerId}
    {operation : OperationId} : operation ∈ context.choices.movedInto container ↔
      context.choices.location? operation = some container := by
  -- No operation is moved twice, so that looking it up and listing it tell the same.
  rw [Service.Choices.location?, OrderedMap.lookup_eq_some_iff sound.locations_nodup]
  unfold Service.Choices.movedInto
  rw [List.mem_filterMap]
  constructor
  · rintro ⟨entry, listed, chosen⟩
    split at chosen
    · rename_i here
      cases chosen
      rw [← beq_iff_eq.mp here]
      exact listed
    · cases chosen
  · intro listed
    exact ⟨_, listed, by simp⟩

/-- The operations of a client are those that are available and go to its container. -/
theorem IsSound.mem_operationsOf (sound : context.IsSound) {container : ContainerId}
    {operation : OperationId} : operation ∈ context.operationsOf container ↔
      context.definition.HasOperation operation ∧ context.isAvailable operation = true ∧
        context.placeOf operation = container := by
  unfold operationsOf placeOf
  dsimp only
  rw [List.mem_filter, mem_foldl_new, List.mem_filter, sound.linked.mem_operations,
    sound.mem_movedInto]
  cases chosen : context.choices.location? operation with
  | none =>
    -- An operation that was not moved stays with the container that lists it.
    simp only [Option.all_none, and_true, reduceCtorEq, or_false, Option.getD_none]
    tauto
  | some target =>
    -- Where it was declared does not count for an operation that was moved.
    have inside : context.definition.HasOperation operation :=
      sound.moved operation target
        ((OrderedMap.lookup_eq_some_iff sound.locations_nodup _ _).mp chosen)
    simp only [Option.all_some, beq_iff_eq, Option.some.injEq, Option.getD_some]
    tauto

/-- No operation is handed to a container twice. -/
theorem IsSound.operationsOf_nodup (sound : context.IsSound) (container : ContainerId) :
    (context.operationsOf container).Nodup := by
  unfold operationsOf
  dsimp only
  -- Operations are listed once where they are declared, and appended only if missing.
  refine List.Nodup.filter _ (nodup_foldl_new ?_ _)
  exact (sound.linked.operations_nodup container).filter _

end Context

end Derivation

end ClientModel
