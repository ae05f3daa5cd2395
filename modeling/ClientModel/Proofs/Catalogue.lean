import ClientModel.Package.Node

/-!
Laws of catalogues: what a node is after another one is changed, added or marked. Changing what a
node stands for leaves it of its sort.
-/

namespace ClientModel

/-- An identifier is its place. -/
theorem NodeId.index_inj {left right : NodeId} : left.index = right.index ↔ left = right := by
  cases left
  cases right
  simp

/-- The node that an identifier out of range reads as. -/
def Node.outOfRange : Node :=
  { kind := .builtin { kind := .any, name := "" } }

namespace Node

/-! ## Sorts -/

/-- To change what a model holds does not make another kind of node of it. -/
theorem label_mapModel (node : Node) (change : ModelNode → ModelNode) :
    (node.mapModel change).kind.label = node.kind.label := by
  cases kind : node.kind <;> simp [mapModel, NodeKind.label, kind]

/-- To change what an enumeration holds does not make another kind of node of it. -/
theorem label_mapEnumeration (node : Node) (change : EnumNode → EnumNode) :
    (node.mapEnumeration change).kind.label = node.kind.label := by
  cases kind : node.kind <;> simp [mapEnumeration, NodeKind.label, kind]

/-- To change what a union holds does not make another kind of node of it. -/
theorem label_mapUnion (node : Node) (change : UnionNode → UnionNode) :
    (node.mapUnion change).kind.label = node.kind.label := by
  cases kind : node.kind <;> simp [mapUnion, NodeKind.label, kind]

/-- A change of the model a node holds, if it holds one, is the one that is read. -/
theorem model?_mapModel (node : Node) (change : ModelNode → ModelNode) :
    (node.mapModel change).model? = node.model?.map change := by
  cases kind : node.kind <;> simp [mapModel, model?, kind]

end Node

/-! ## Tables -/

namespace Catalogue

variable (catalogue : Catalogue)

/-- A node is looked up in the table, and one out of range stands for all that are not in it. -/
theorem nodeAt_eq (id : NodeId) :
    catalogue.nodeAt id = catalogue.nodes[id.index]?.getD Node.outOfRange := by
  simp [nodeAt, Array.getD_eq_getD_getElem?, Node.outOfRange]

/-- Out of range there is one and the same node everywhere. -/
theorem nodeAt_of_ge {id : NodeId} (outside : catalogue.size ≤ id.index) :
    catalogue.nodeAt id = Node.outOfRange := by
  rw [nodeAt_eq, Array.getElem?_eq_none outside, Option.getD_none]

/-- The identifiers are those in range. -/
@[simp] theorem mem_ids {id : NodeId} : id ∈ catalogue.ids ↔ id.index < catalogue.size := by
  -- Identifiers are places with a name around them, so the ids are read off a range.
  simp only [ids, List.mem_map, List.mem_range]
  constructor
  · rintro ⟨index, inside, rfl⟩
    exact inside
  · intro inside
    exact ⟨id.index, inside, rfl⟩

/-- A change of a node does not change how many there are. -/
@[simp] theorem size_modify (id : NodeId) (change : Node → Node) :
    (catalogue.modify id change).size = catalogue.size := by
  simp [size, modify]

/-- A node that is added is one more. -/
@[simp] theorem size_push (node : Node) : (catalogue.push node).size = catalogue.size + 1 := by
  simp [size, push]

/-- A change of all nodes does not change how many there are. -/
@[simp] theorem size_map (change : Node → Node) : (catalogue.map change).size = catalogue.size := by
  simp [size, map]

/-- A node in range is found changed after it was changed. -/
theorem nodeAt_modify_self {change : Node → Node} {id : NodeId}
    (inside : id.index < catalogue.size) :
    (catalogue.modify id change).nodeAt id = change (catalogue.nodeAt id) := by
  -- The table is an array, whose own law speaks of an entry that is there.
  have there : catalogue.nodes[id.index]? = some catalogue.nodes[id.index] :=
    Array.getElem?_eq_getElem inside
  rw [nodeAt_eq, nodeAt_eq, modify, Array.getElem?_modify, if_pos rfl, there]
  rfl

/-- A node is found as it was after another one was changed. -/
theorem nodeAt_modify_ne {change : Node → Node} {id other : NodeId} (different : other ≠ id) :
    (catalogue.modify id change).nodeAt other = catalogue.nodeAt other := by
  -- The table compares places, which are all that there is to an identifier.
  have apart : id.index ≠ other.index := fun place => different (NodeId.index_inj.mp place.symm)
  rw [nodeAt_eq, nodeAt_eq, modify, Array.getElem?_modify, if_neg apart]

/-- A change that would leave a node out of range alone happens wherever it is aimed. -/
theorem nodeAt_modify {change : Node → Node} (fixed : change Node.outOfRange = Node.outOfRange)
    (id other : NodeId) :
    (catalogue.modify id change).nodeAt other =
      if other = id then change (catalogue.nodeAt id) else catalogue.nodeAt other := by
  by_cases same : other = id
  · -- In range this is the law of the change; out of range the change is fixed by assumption.
    subst same
    rw [if_pos rfl]
    by_cases inside : other.index < catalogue.size
    · exact catalogue.nodeAt_modify_self inside
    · rw [nodeAt_of_ge _ (by simpa using inside), nodeAt_of_ge _ (by simpa using inside), fixed]
  · rw [if_neg same, nodeAt_modify_ne _ same]

/-- After a change of all nodes each is found changed, also the one that is out of range. -/
theorem nodeAt_map {change : Node → Node} (fixed : change Node.outOfRange = Node.outOfRange)
    (id : NodeId) : (catalogue.map change).nodeAt id = change (catalogue.nodeAt id) := by
  rw [nodeAt_eq, nodeAt_eq, map, Array.getElem?_map]
  -- Out of range the change is not made, but would change nothing there.
  cases catalogue.nodes[id.index]? with
  | none => exact fixed.symm
  | some node => rfl

/-- A node that was there is found as it was after another was added. -/
theorem nodeAt_push_lt {node : Node} {id : NodeId} (inside : id.index < catalogue.size) :
    (catalogue.push node).nodeAt id = catalogue.nodeAt id := by
  -- The new node is at the old size, which an identifier in range does not have.
  have apart : id.index ≠ catalogue.nodes.size := Nat.ne_of_lt inside
  rw [nodeAt_eq, nodeAt_eq, push, Array.getElem?_push, if_neg apart]

/-- The node that was added is found at the place after the others. -/
theorem nodeAt_push_self (node : Node) :
    (catalogue.push node).nodeAt ⟨catalogue.size⟩ = node := by
  -- The old size is the place at which a table is added to.
  have last : (NodeId.mk catalogue.size).index = catalogue.nodes.size := rfl
  rw [nodeAt_eq, push, Array.getElem?_push, if_pos last, Option.getD_some]

/-- A node that is changed as soon as it is added might have been added as it is then. -/
theorem modify_push_self (node : Node) (change : Node → Node) :
    (catalogue.push node).modify ⟨catalogue.size⟩ change = catalogue.push (change node) := by
  simp only [push, modify, size, Catalogue.mk.injEq]
  -- The two tables are compared place by place.
  apply Array.ext
  · simp
  · intro index inside _
    rw [Array.getElem_modify]
    simp only [Array.getElem_push]
    split
    · rename_i last
      subst last
      simp
    · rename_i apart
      split
      · rfl
      · simp only [Array.size_modify, Array.size_push] at inside
        omega

omit catalogue in
/-- Two catalogues of one size whose nodes are the same are one. -/
theorem ext_nodeAt {left right : Catalogue} (size : left.size = right.size)
    (same : ∀ id, left.nodeAt id = right.nodeAt id) : left = right := by
  cases left with | mk first =>
  cases right with | mk second =>
  congr 1
  -- An array is given by its entries, each of which is the node of an identifier in range.
  refine Array.ext size fun index inside outside => ?_
  have there := same ⟨index⟩
  simp only [nodeAt_eq, Array.getElem?_eq_getElem inside, Array.getElem?_eq_getElem outside,
    Option.getD_some] at there
  exact there

end Catalogue

end ClientModel
