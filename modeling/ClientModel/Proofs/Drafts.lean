import Mathlib.Data.List.Nodup
import ClientModel.Proofs.OrderedMap
import ClientModel.Service.Draft

/-!
What holds of every definition that a construction leads to.

Containers and operations are listed where they say that they belong, since only the steps of a
construction write these lists. That makes a forest of the containers: a container is declared after
the one around it.
-/

namespace ClientModel

open Service

/-- Containers are told apart by their places. -/
theorem ContainerId.index_inj {left right : ContainerId} :
    left.index = right.index ↔ left = right := by
  cases left
  cases right
  simp

/-- Operations are told apart by their places. -/
theorem OperationId.index_inj {left right : OperationId} :
    left.index = right.index ↔ left = right := by
  cases left
  cases right
  simp

namespace Service

/-! ## Definitions with sound lists -/

/-- The table of operations has an entry for the identifier. -/
def Definition.HasOperation (definition : Definition) (id : OperationId) : Prop :=
  id.index < definition.operations.size

instance (definition : Definition) (id : OperationId) : Decidable (definition.HasOperation id) :=
  inferInstanceAs (Decidable (_ < _))

/-- Containers and operations are listed where they say that they belong, and once each. -/
structure Definition.IsLinked (definition : Definition) : Prop where
  parent_lt : ∀ id parent, (definition.containerAt id).parent = some parent →
    parent.index < id.index
  mem_children : ∀ id child, child ∈ (definition.containerAt id).children ↔
    (definition.containerAt child).parent = some id
  children_nodup : ∀ id, (definition.containerAt id).children.Nodup
  mem_operations : ∀ id operation, operation ∈ (definition.containerAt id).operations ↔
    definition.HasOperation operation ∧ (definition.operationAt operation).container = id
  operations_nodup : ∀ id, (definition.containerAt id).operations.Nodup
  /-- Only operations are moved to clients of other containers. -/
  moved : ∀ operation ∈ definition.customizations.locations.keys, definition.HasOperation operation

/-- Nothing matters to the lists but what they say and where declarations say that they belong. -/
theorem Definition.IsLinked.of_same {before after : Definition} (linked : before.IsLinked)
    (parents : ∀ id, (after.containerAt id).parent = (before.containerAt id).parent)
    (children : ∀ id, (after.containerAt id).children = (before.containerAt id).children)
    (listed : ∀ id, (after.containerAt id).operations = (before.containerAt id).operations)
    (homes : ∀ id, (after.operationAt id).container = (before.operationAt id).container)
    (has : ∀ id, after.HasOperation id ↔ before.HasOperation id)
    (locations : after.customizations.locations = before.customizations.locations) :
    after.IsLinked where
  -- Each law speaks of what the two definitions agree on, and is rewritten to the older one.
  parent_lt := by simpa only [parents] using linked.parent_lt
  mem_children := by simpa only [parents, children] using linked.mem_children
  children_nodup := by simpa only [children] using linked.children_nodup
  mem_operations := by simpa only [listed, homes, has] using linked.mem_operations
  operations_nodup := by simpa only [listed] using linked.operations_nodup
  moved := by simpa only [locations, has] using linked.moved

/-- Types and properties are in tables of their own, which matter to no list. -/
theorem Definition.IsLinked.of_tables {before after : Definition} (linked : before.IsLinked)
    (containers : after.containers = before.containers)
    (operations : after.operations = before.operations)
    (customizations : after.customizations = before.customizations) : after.IsLinked := by
  -- Without other tables, each container and each operation reads the same.
  have container (id : ContainerId) : after.containerAt id = before.containerAt id := by
    simp only [containerAt, containers]
  refine linked.of_same (fun id => ?_) (fun id => ?_) (fun id => ?_) (fun id => ?_) (fun id => ?_)
    (by rw [customizations])
  · rw [container]
  · rw [container]
  · rw [container]
  · simp only [operationAt, operations]
  · simp only [HasOperation, operations]

/-! ## Constructions -/

namespace Draft

/--
A draft that the steps of a construction lead to.

Declarations refer to those that were made before. Operations stay in the container that they were
declared in, and only services are changed of a container; otherwise declarations change at will.
-/
inductive IsMade : Draft → Prop
  | empty : IsMade {}
  | container {draft : Draft} (made : draft.IsMade) (name : String) (isInterface : Bool)
      (parent : Option ContainerId)
      (there : ∀ id ∈ parent, id.index < draft.definition.containers.size) :
      IsMade ((addContainer name isInterface parent).run draft).2
  | service {draft : Draft} (made : draft.IsMade) (container : ContainerId)
      (change : Info → Info) : IsMade ((modifyService container change).run draft).2
  | addType {draft : Draft} (made : draft.IsMade) (declaration : TypeDecl) :
      IsMade ((addType declaration).run draft).2
  | modifyType {draft : Draft} (made : draft.IsMade) (id : TypeId) (change : TypeDecl → TypeDecl) :
      IsMade ((modifyType id change).run draft).2
  | scalar {draft : Draft} (made : draft.IsMade) (name : String) :
      IsMade ((scalar name).run draft).2
  | intrinsic {draft : Draft} (made : draft.IsMade) (kind : Intrinsic) :
      IsMade ((intrinsic kind).run draft).2
  | addProperty {draft : Draft} (made : draft.IsMade) (declaration : PropertyDecl) :
      IsMade ((addProperty declaration).run draft).2
  | modifyProperty {draft : Draft} (made : draft.IsMade) (id : PropertyId)
      (change : PropertyDecl → PropertyDecl) : IsMade ((modifyProperty id change).run draft).2
  | operation {draft : Draft} (made : draft.IsMade) (container : ContainerId) (name : String)
      (verb : Verb) (path : String)
      (there : container.index < draft.definition.containers.size) :
      IsMade ((operation container name verb path).run draft).2
  | modifyOperation {draft : Draft} (made : draft.IsMade) (id : OperationId)
      (change : Operation → Operation)
      (stays : ∀ operation : Operation, (change operation).container = operation.container) :
      IsMade ((modifyOperation id change).run draft).2
  | location {draft : Draft} (made : draft.IsMade) (id : OperationId) (scope : Option String)
      (target : ContainerId) (there : draft.definition.HasOperation id) :
      IsMade ((customize fun all => all.setLocation id scope target).run draft).2
  | client {draft : Draft} (made : draft.IsMade) (container : ContainerId)
      (scope : Option String) (client : ClientDecl) :
      IsMade ((customize fun all => all.addClient container scope client).run draft).2
  | customize {draft : Draft} (made : draft.IsMade) {change : Customizations → Customizations}
      (locations : ∀ all, (change all).locations = all.locations)
      (clients : ∀ all, (change all).clients = all.clients) :
      IsMade ((customize change).run draft).2

end Draft

/-! ## Tables -/

section

variable {α : Type}

/-- In a table that got one more entry, the last place has it and the others are as before. -/
theorem getD_push (table : Array α) (entry other : α) (index : Nat) :
    (table.push entry).getD index other =
      if index = table.size then entry else table.getD index other := by
  -- A push is seen at the old size and nowhere else.
  rw [Array.getD_eq_getD_getElem?, Array.getD_eq_getD_getElem?, Array.getElem?_push]
  split
  · rfl
  · rfl

/-- In a table of which one entry was changed, only that place is different. -/
theorem getD_modify (table : Array α) (place index : Nat) (change : α → α) (other : α) :
    (table.modify place change).getD index other =
      if index = place ∧ place < table.size then change (table.getD index other)
      else table.getD index other := by
  rw [Array.getD_eq_getD_getElem?, Array.getD_eq_getD_getElem?, Array.getElem?_modify]
  -- The entry changes only at the place, and only if the place is in range.
  by_cases same : place = index
  · subst same
    by_cases inside : place < table.size
    · simp [inside]
    · simp [inside]
  · have apart : index ≠ place := Ne.symm same
    simp [same, apart]

/-- Out of range there is what stands for all that is missing. -/
theorem getD_of_ge (table : Array α) {index : Nat} (other : α) (outside : table.size ≤ index) :
    table.getD index other = other := by
  rw [Array.getD_eq_getD_getElem?, Array.getElem?_eq_none outside, Option.getD_none]

/-- A field that a change leaves alone is the same whether the change happens or not. -/
theorem field_ite {β : Type} {condition : Prop} [Decidable condition] {changed entry : α}
    (field : α → β) (same : field changed = field entry) :
    field (if condition then changed else entry) = field entry := by
  -- Both branches have the field of the entry.
  split
  · exact same
  · rfl

section

variable {list : List α} {entry last : α} {condition : Prop} [Decidable condition]

/-- What may be appended is in the list, if the condition holds. -/
theorem mem_append_ite :
    entry ∈ (list ++ if condition then [last] else []) ↔
      entry ∈ list ∨ (condition ∧ entry = last) := by
  -- By cases on the condition.
  rw [List.mem_append]
  split
  · rename_i holds
    simp [holds]
  · rename_i fails
    simp [fails]

/-- To append what is not there repeats nothing. -/
theorem nodup_append_ite (once : list.Nodup) (new : last ∉ list) :
    (list ++ if condition then [last] else []).Nodup := by
  -- The new entry is last and apart from the others; without it the list is the same.
  split
  · exact once.append (List.nodup_singleton last) (by simpa using new)
  · rw [List.append_nil]
    exact once

end

end

namespace Definition.IsLinked

variable {definition after : Definition}

/-- A definition without declarations has nothing to list. -/
theorem empty : ({} : Definition).IsLinked := by
  -- Whatever identifier is asked for, nothing is declared there.
  have container (id : ContainerId) : ({} : Definition).containerAt id = { name := "" } := by
    rw [containerAt, getD_of_ge _ _ (Nat.zero_le _)]
  constructor
  · simp [container]
  · simp [container]
  · simp [container]
  · simp [container, HasOperation]
  · simp [container]
  · simp [OrderedMap.keys]

/-- A container is declared with nothing in it, and its parent lists it last. -/
theorem addContainer (linked : definition.IsLinked) {parent : Option ContainerId}
    (there : ∀ id ∈ parent, id.index < definition.containers.size)
    (operations : after.operations = definition.operations)
    (customizations : after.customizations = definition.customizations)
    (parents : ∀ id, (after.containerAt id).parent =
      if id.index = definition.containers.size then parent
      else (definition.containerAt id).parent)
    (children : ∀ id, (after.containerAt id).children = (definition.containerAt id).children ++
      if parent = some id then [⟨definition.containers.size⟩] else [])
    (listed : ∀ id, (after.containerAt id).operations = (definition.containerAt id).operations) :
    after.IsLinked := by
  have operation (id : OperationId) : after.operationAt id = definition.operationAt id := by
    simp only [operationAt, operations]
  have has (id : OperationId) : after.HasOperation id ↔ definition.HasOperation id := by
    simp only [HasOperation, operations]
  -- Before it was declared, nothing was around the container, and so no container listed it.
  have outside : (definition.containerAt ⟨definition.containers.size⟩).parent = none := by
    rw [containerAt, getD_of_ge _ _ (Nat.le_refl _)]
  have unlisted (id : ContainerId) :
      (⟨definition.containers.size⟩ : ContainerId) ∉ (definition.containerAt id).children := by
    rw [linked.mem_children, outside]
    simp
  -- What is told of operations stays the same; places, lists and parents are shown one by one.
  refine
    { parent_lt := ?parent_lt
      mem_children := ?mem_children
      children_nodup := ?children_nodup
      mem_operations := by simpa only [listed, operation, has] using linked.mem_operations
      operations_nodup := by simpa only [listed] using linked.operations_nodup
      moved := by simpa only [customizations, has] using linked.moved }
  case parent_lt =>
    intro id around isParent
    rw [parents] at isParent
    split at isParent
    · -- What is around the new container was there before, and all places before it are lower.
      rename_i new
      rw [new]
      exact there around isParent
    · exact linked.parent_lt id around isParent
  case mem_children =>
    intro id child
    rw [parents, children, mem_append_ite, linked.mem_children]
    -- The new container is a child of its parent only, and of that one at last; all others are as
    -- before.
    by_cases new : child.index = definition.containers.size
    · obtain rfl : child = ⟨definition.containers.size⟩ := ContainerId.index_inj.mp new
      simp [outside]
    · have apart : child ≠ ⟨definition.containers.size⟩ := fun same => new (same ▸ rfl)
      simp [apart, new]
  case children_nodup =>
    intro id
    rw [children]
    exact nodup_append_ite (linked.children_nodup id) (unlisted id)

/-- An operation is declared, and its container lists it last. -/
theorem addOperation (linked : definition.IsLinked) {container : ContainerId}
    (declared : Operation) (belongs : declared.container = container)
    (operations : after.operations = definition.operations.push declared)
    (customizations : after.customizations = definition.customizations)
    (parents : ∀ id, (after.containerAt id).parent = (definition.containerAt id).parent)
    (children : ∀ id, (after.containerAt id).children = (definition.containerAt id).children)
    (listed : ∀ id, (after.containerAt id).operations = (definition.containerAt id).operations ++
      if container = id then [⟨definition.operations.size⟩] else []) :
    after.IsLinked := by
  have operation (id : OperationId) : after.operationAt id =
      if id.index = definition.operations.size then declared else definition.operationAt id := by
    rw [operationAt, operations, getD_push]
    rfl
  have has (id : OperationId) : after.HasOperation id ↔
      definition.HasOperation id ∨ id.index = definition.operations.size := by
    simp only [HasOperation, operations, Array.size_push]
    omega
  -- A place after all operations was listed nowhere.
  have unlisted (id : ContainerId) :
      (⟨definition.operations.size⟩ : OperationId) ∉ (definition.containerAt id).operations := by
    rw [linked.mem_operations]
    simp [HasOperation]
  -- What is told of parents and children stays the same; the lists of operations are shown.
  refine
    { parent_lt := by simpa only [parents] using linked.parent_lt
      mem_children := by simpa only [parents, children] using linked.mem_children
      children_nodup := by simpa only [children] using linked.children_nodup
      mem_operations := ?mem_operations
      operations_nodup := ?operations_nodup
      moved := ?moved }
  case mem_operations =>
    intro id other
    rw [listed, operation, has, mem_append_ite, linked.mem_operations]
    by_cases new : other.index = definition.operations.size
    · -- The new operation belongs to its container, and no list had it before.
      obtain rfl : other = ⟨definition.operations.size⟩ := OperationId.index_inj.mp new
      simp [HasOperation, belongs]
    · have apart : other ≠ ⟨definition.operations.size⟩ := fun same => new (same ▸ rfl)
      simp [apart, new]
  case operations_nodup =>
    intro id
    rw [listed]
    exact nodup_append_ite (linked.operations_nodup id) (unlisted id)
  case moved =>
    intro other isMoved
    rw [customizations] at isMoved
    exact (has other).mpr (Or.inl (linked.moved other isMoved))

/-- An operation is moved, or a container declared to be a client. -/
theorem customize (linked : definition.IsLinked) {all : Customizations}
    (moved : ∀ operation ∈ all.locations.keys, definition.HasOperation operation) :
    { definition with customizations := all }.IsLinked where
  parent_lt := linked.parent_lt
  mem_children := linked.mem_children
  children_nodup := linked.children_nodup
  mem_operations := linked.mem_operations
  operations_nodup := linked.operations_nodup
  moved := moved

end Definition.IsLinked

/-! ## What constructions keep -/

section

variable (definition : Definition)

/-- A change of one container is seen at its place alone. -/
theorem containerAt_modify (container id : ContainerId) (change : Container → Container) :
    { definition with
      containers := definition.containers.modify container.index change }.containerAt id =
      if id = container ∧ container.index < definition.containers.size
      then change (definition.containerAt id) else definition.containerAt id := by
  -- The index of an identifier tells it, so to be at the place is to be the container.
  rw [Definition.containerAt, getD_modify]
  simp only [ContainerId.index_inj]
  rfl

/-- A change of one operation is seen at its place alone. -/
theorem operationAt_modify (operation id : OperationId) (change : Operation → Operation) :
    { definition with
      operations := definition.operations.modify operation.index change }.operationAt id =
      if id = operation ∧ operation.index < definition.operations.size
      then change (definition.operationAt id) else definition.operationAt id := by
  -- The index of an identifier tells it, so to be at the place is to be the operation.
  rw [Definition.operationAt, getD_modify]
  simp only [OperationId.index_inj]
  rfl

end

namespace Draft

variable {draft : Draft}

/-- A container is declared: its parent lists it, and nothing else changes. -/
theorem isLinked_addContainer (linked : draft.definition.IsLinked) (name : String)
    (isInterface : Bool) {parent : Option ContainerId}
    (there : ∀ id ∈ parent, id.index < draft.definition.containers.size) :
    ((addContainer name isInterface parent).run draft).2.definition.IsLinked := by
  -- First the container is put at the end, which is what all the reads below are of.
  let new : ContainerId := ⟨draft.definition.containers.size⟩
  let declared : Container := { name, isInterface, parent }
  let pushed := { draft.definition with containers := draft.definition.containers.push declared }
  -- The new place read as an empty container before, so that only its parent is news.
  have outside : draft.definition.containerAt new = { name := "" } := by
    rw [Definition.containerAt, getD_of_ge _ _ (Nat.le_refl _)]
  have reads (id : ContainerId) : pushed.containerAt id =
      if id = new then declared else draft.definition.containerAt id := by
    rw [Definition.containerAt, getD_push]
    simp only [← ContainerId.index_inj, new]
    rfl
  have parents (id : ContainerId) : (pushed.containerAt id).parent =
      if id.index = draft.definition.containers.size then parent
      else (draft.definition.containerAt id).parent := by
    rw [reads]
    simp only [← ContainerId.index_inj, new]
    split
    · rfl
    · rfl
  have children (id : ContainerId) : (pushed.containerAt id).children =
      (draft.definition.containerAt id).children := by
    rw [reads]
    split
    · rename_i isNew
      rw [isNew, outside]
    · rfl
  have operations (id : ContainerId) : (pushed.containerAt id).operations =
      (draft.definition.containerAt id).operations := by
    rw [reads]
    split
    · rename_i isNew
      rw [isNew, outside]
    · rfl
  -- Without a parent that is all; with one, its list is written as well.
  cases parent with
  | none =>
    refine linked.addContainer there rfl rfl parents (fun id => ?_) operations
    rw [if_neg (by simp), List.append_nil]
    exact children id
  | some around =>
    let lists (declared : Container) : Container :=
      { declared with children := declared.children ++ [new] }
    -- The second step writes the list of the parent, which was declared before.
    have changed (id : ContainerId) :
        ((addContainer name isInterface (some around)).run draft).2.definition.containerAt id =
          if id = around then lists (pushed.containerAt id) else pushed.containerAt id := by
      have inside : around.index < pushed.containers.size := by
        have := there around rfl
        simp only [pushed, Array.size_push]
        omega
      have modified := containerAt_modify pushed around id lists
      rw [if_congr (and_iff_left inside) rfl rfl] at modified
      exact modified
    refine linked.addContainer there rfl rfl (fun id => ?_) (fun id => ?_) fun id => ?_
    · rw [changed, ← parents]
      exact field_ite Container.parent rfl
    · rw [changed, ← children]
      by_cases same : id = around
      · subst same
        simp [lists, new]
      · have apart : ¬ around = id := fun isAround => same isAround.symm
        simp [same, apart]
    · rw [changed, ← operations]
      exact field_ite Container.operations rfl

/-- An operation is declared: its container lists it, and nothing else changes. -/
theorem isLinked_operation (linked : draft.definition.IsLinked) {container : ContainerId}
    (name : String) (verb : Verb) (path : String)
    (there : container.index < draft.definition.containers.size) :
    ((operation container name verb path).run draft).2.definition.IsLinked := by
  -- The list of one container grows by the new operation, and its parent stays the same.
  let lists (declared : Container) : Container :=
    { declared with operations := declared.operations ++ [⟨draft.definition.operations.size⟩] }
  have changed (id : ContainerId) :
      ((operation container name verb path).run draft).2.definition.containerAt id =
        if id = container then lists (draft.definition.containerAt id)
        else draft.definition.containerAt id := by
    have modified := containerAt_modify draft.definition container id lists
    rw [if_congr (and_iff_left there) rfl rfl] at modified
    exact modified
  -- Of the two lists and the parent that a container has, only one list is touched.
  refine linked.addOperation { name, container, verb, path } rfl rfl rfl
    (fun id => ?_) (fun id => ?_) fun id => ?_
  · rw [changed]
    exact field_ite Container.parent rfl
  · rw [changed]
    exact field_ite Container.children rfl
  · rw [changed]
    by_cases same : id = container
    · subst same
      simp [lists]
    · have apart : ¬ container = id := fun isContainer => same isContainer.symm
      simp [same, apart]

/-- A change of a service leaves the lists of its container alone. -/
theorem isLinked_modifyService (linked : draft.definition.IsLinked) (container : ContainerId)
    (change : Info → Info) :
    ((modifyService container change).run draft).2.definition.IsLinked := by
  -- The service is a field of its own, so that lists and parents are left alone.
  let serves (declared : Container) : Container :=
    { declared with service := some (change (declared.service.getD {})) }
  have changed (id : ContainerId) :
      ((modifyService container change).run draft).2.definition.containerAt id =
        if id = container ∧ container.index < draft.definition.containers.size
        then serves (draft.definition.containerAt id) else draft.definition.containerAt id :=
    containerAt_modify draft.definition container id serves
  -- Everything that links containers is read from fields which the change leaves alone.
  refine linked.of_same (fun id => ?_) (fun id => ?_) (fun id => ?_) (fun _ => rfl) (fun _ => .rfl)
    rfl
  · rw [changed]
    exact field_ite Container.parent rfl
  · rw [changed]
    exact field_ite Container.children rfl
  · rw [changed]
    exact field_ite Container.operations rfl

/-- An operation that stays in its container is listed as before. -/
theorem isLinked_modifyOperation (linked : draft.definition.IsLinked) (id : OperationId)
    {change : Operation → Operation}
    (stays : ∀ operation : Operation, (change operation).container = operation.container) :
    ((modifyOperation id change).run draft).2.definition.IsLinked := by
  -- An operation is told by its place, and the change keeps its container.
  have changed (other : OperationId) :
      ((modifyOperation id change).run draft).2.definition.operationAt other =
        if other = id ∧ id.index < draft.definition.operations.size
        then change (draft.definition.operationAt other) else draft.definition.operationAt other :=
    operationAt_modify draft.definition id other change
  refine linked.of_same (fun _ => rfl) (fun _ => rfl) (fun _ => rfl) (fun other => ?_)
    (fun other => ?_) rfl
  · rw [changed]
    exact field_ite Operation.container (stays _)
  · show other.index < (draft.definition.operations.modify id.index change).size ↔ _
    rw [Array.size_modify]
    rfl

/-- A standard scalar is a type, and no more than that. -/
theorem isLinked_scalar (linked : draft.definition.IsLinked) (name : String) :
    ((scalar name).run draft).2.definition.IsLinked := by
  -- A scalar that was declared before is found again, and nothing is added.
  simp only [scalar, StateT.run_bind, StateT.run_get, pure_bind]
  split
  · exact linked
  · exact linked.of_tables rfl rfl rfl

/-- An intrinsic type is a type, and no more than that. -/
theorem isLinked_intrinsic (linked : draft.definition.IsLinked) (kind : Intrinsic) :
    ((intrinsic kind).run draft).2.definition.IsLinked := by
  -- As with scalars, what was declared before is found again.
  simp only [intrinsic, StateT.run_bind, StateT.run_get, pure_bind]
  split
  · exact linked
  · exact linked.of_tables rfl rfl rfl

/-- Whatever is constructed, its lists are sound. -/
theorem IsMade.isLinked (made : draft.IsMade) : draft.definition.IsLinked := by
  -- By induction on the steps of the construction.
  induction made with
  | empty => exact .empty
  | container made name isInterface parent there ih =>
    exact isLinked_addContainer ih name isInterface there
  | service made container change ih => exact isLinked_modifyService ih container change
  | scalar made name ih => exact isLinked_scalar ih name
  | intrinsic made kind ih => exact isLinked_intrinsic ih kind
  | operation made container name verb path there ih =>
    exact isLinked_operation ih name verb path there
  | modifyOperation made id change stays ih => exact isLinked_modifyOperation ih id stays
  | location made id scope target there ih =>
    -- The key is new or was there, and it stands for an operation in either case.
    refine ih.customize fun operation isMoved => ?_
    rcases (OrderedMap.mem_keys_insert _ _ _ _).mp isMoved with new | old
    · rw [new]
      exact there
    · exact ih.moved operation old
  | client made container scope client ih =>
    exact ih.customize ih.moved
  | customize made locations clients ih =>
    refine ih.customize ?_
    rw [locations]
    exact ih.moved
  | addType | modifyType | addProperty | modifyProperty =>
    rename_i ih
    exact ih.of_tables rfl rfl rfl

end Draft

end Service

end ClientModel
