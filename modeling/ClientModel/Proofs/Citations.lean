import ClientModel.Proofs.Drafts

/-!
What declarations cite of one another, and definitions in which all of that is declared.

Tables of a construction only grow, so that what was declared once is declared from then on. A
program over drafts is told by what it has to be given and by what it gives.
-/

namespace ClientModel.Service

/-! ## Citations -/

/-- The declarations that a shape cites. -/
def Shape.cites : Shape → List Declaration
  | scalar declared =>
    declared.namespaceId.toList.map .container ++ declared.base.toList.map .type
  | intrinsic _ | literal _ => []
  | enumeration declared =>
    declared.namespaceId.toList.map .container ++ declared.members.map .type
  | member declared => [.type declared.parent]
  | union declared =>
    declared.namespaceId.toList.map .container ++ declared.variants.map fun variant =>
      .type variant.type
  | array element => [.type element]
  | record value => [.type value]
  | model declared =>
    declared.namespaceId.toList.map .container ++ declared.properties.map .property ++
      declared.base.toList.map .type ++ declared.derived.map .type ++
      declared.additionalProperties.toList.map .type

/-- The declarations that a type declaration cites. -/
def TypeDecl.cites (declaration : TypeDecl) : List Declaration :=
  declaration.shape.cites

/-- The declarations that a property declaration cites. -/
def PropertyDecl.cites (declaration : PropertyDecl) : List Declaration :=
  declaration.model.toList.map .type ++ [.type declaration.type] ++
    declaration.source.toList.map .property

/-- The declarations that a body of a request cites. -/
def BodyDecl.cites (body : BodyDecl) : List Declaration :=
  body.property.toList.map .property ++ [.type body.type]

/-- The declarations that a response cites. -/
def ResponseDecl.cites (response : ResponseDecl) : List Declaration :=
  response.headers.map .property ++ response.body.toList.map fun body => .type body.type

/-- The declarations that an operation cites. -/
def Operation.cites (operation : Operation) : List Declaration :=
  [.container operation.container] ++ operation.parameters.map .property ++
    (operation.slots.map fun slot => .property slot.property) ++
    operation.bodies.flatMap BodyDecl.cites ++ operation.responses.flatMap ResponseDecl.cites ++
    (operation.paging.bind PagingDecl.nextLinkOperation).toList.map .operation ++
    operation.polling.toList.map fun polling => .operation polling.operation

/-- The declarations that a service cites. -/
def Info.cites (service : Info) : List Declaration :=
  (service.servers.flatMap Server.arguments).map .property ++ service.orphanTypes.map .type

namespace Container

/-- The declarations that a container cites. -/
def cites (container : Container) : List Declaration :=
  container.parent.toList.map .container ++ container.children.map .container ++
    container.operations.map .operation ++ container.service.toList.flatMap Info.cites

/-- A container that gets one more child cites that child besides what it cited. -/
theorem cites_child (container : Container) (child : ContainerId) :
    ({ container with children := container.children ++ [child] } : Container).cites ⊆
      container.cites ++ [.container child] := by
  -- The child stands last in its list, but before the operations, so the two lists differ in order.
  intro id
  simp only [cites, List.map_append, List.mem_append, List.map_singleton]
  tauto

/-- A container that gets one more operation cites that operation besides what it cited. -/
theorem cites_operation (container : Container) (operation : OperationId) :
    ({ container with operations := container.operations ++ [operation] } : Container).cites ⊆
      container.cites ++ [.operation operation] := by
  -- Citations are compared as sets here, for the operation comes in before the service.
  intro id
  simp only [cites, List.map_append, List.mem_append, List.map_singleton]
  tauto

/-- A change of the service brings in no more than the change of a service does. -/
theorem cites_service {known : List Declaration} {change : Info → Info}
    (change_cites : ∀ service, (change service).cites ⊆ service.cites ++ known)
    (container : Container) :
    ({ container with service := some (change (container.service.getD {})) } : Container).cites ⊆
      container.cites ++ known := by
  intro id cited
  simp only [cites, Option.toList_some, List.flatMap_singleton, List.mem_append] at cited ⊢
  rcases cited with others | served
  · exact Or.inl (Or.inl others)
  · rcases List.mem_append.mp (change_cites _ served) with old | new
    · -- Of a container without a service, an empty one is changed, which cites nothing.
      cases serving : container.service with
      | none => simp [serving, Info.cites] at old
      | some service => exact Or.inl (Or.inr (by simpa [serving] using old))
    · exact Or.inr new

end Container

namespace Definition

/-- The table of its kind has an entry for the declaration. -/
def Declares (definition : Definition) : Declaration → Prop
  | .type id => id.index < definition.types.size
  | .property id => id.index < definition.properties.size
  | .operation id => id.index < definition.operations.size
  | .container id => id.index < definition.containers.size

/-- All these are declared. -/
def DeclaresAll (definition : Definition) (ids : List Declaration) : Prop :=
  ∀ id ∈ ids, definition.Declares id

/-- All that the entries of a table cite is declared. -/
def Supports {α : Type} (definition : Definition) (cites : α → List Declaration)
    (table : Array α) : Prop :=
  ∀ entry ∈ table, definition.DeclaresAll (cites entry)

/-- All that is cited in the tables of another definition is declared. -/
structure SupportsAll (definition tables : Definition) : Prop where
  types : definition.Supports TypeDecl.cites tables.types
  properties : definition.Supports PropertyDecl.cites tables.properties
  operations : definition.Supports Operation.cites tables.operations
  containers : definition.Supports Container.cites tables.containers

/-- All that declarations cite is declared. -/
def IsClosed (definition : Definition) : Prop :=
  definition.SupportsAll definition

/-- No table of the second definition is shorter. -/
structure GrowsInto (before after : Definition) : Prop where
  types : before.types.size ≤ after.types.size
  properties : before.properties.size ≤ after.properties.size
  operations : before.operations.size ≤ after.operations.size
  containers : before.containers.size ≤ after.containers.size

variable {definition before after : Definition}

/-- A definition is one that it grows into. -/
theorem GrowsInto.refl (definition : Definition) : definition.GrowsInto definition :=
  ⟨Nat.le_refl _, Nat.le_refl _, Nat.le_refl _, Nat.le_refl _⟩

/-- To grow twice is to grow. -/
theorem GrowsInto.trans {middle : Definition} (first : before.GrowsInto middle)
    (second : middle.GrowsInto after) : before.GrowsInto after :=
  ⟨Nat.le_trans first.types second.types, Nat.le_trans first.properties second.properties,
    Nat.le_trans first.operations second.operations,
    Nat.le_trans first.containers second.containers⟩

/-- What is declared stays declared. -/
theorem Declares.mono {id : Declaration} (there : before.Declares id)
    (grown : before.GrowsInto after) : after.Declares id := by
  -- Each kind of declaration has a table of its own, and no table gets shorter.
  cases id with
  | type => exact Nat.lt_of_lt_of_le there grown.types
  | property => exact Nat.lt_of_lt_of_le there grown.properties
  | operation => exact Nat.lt_of_lt_of_le there grown.operations
  | container => exact Nat.lt_of_lt_of_le there grown.containers

namespace DeclaresAll

variable {ids others : List Declaration}

/-- What is declared all together stays declared as the definition grows. -/
theorem mono (there : before.DeclaresAll ids) (grown : before.GrowsInto after) :
    after.DeclaresAll ids :=
  fun id member => (there id member).mono grown

/-- Of what is declared all together, every part is declared. -/
theorem of_subset (there : definition.DeclaresAll others) (subset : ids ⊆ others) :
    definition.DeclaresAll ids :=
  fun id member => there id (subset member)

/-- What is declared in two lists is declared in both together. -/
theorem append (first : definition.DeclaresAll ids) (second : definition.DeclaresAll others) :
    definition.DeclaresAll (ids ++ others) :=
  List.forall_mem_append.mpr ⟨first, second⟩

end DeclaresAll

/-- Of nothing all is declared. -/
@[simp] theorem declaresAll_nil : definition.DeclaresAll [] :=
  List.forall_mem_nil _

/-- One thing is declared all together when it is declared. -/
@[simp] theorem declaresAll_singleton {id : Declaration} :
    definition.DeclaresAll [id] ↔ definition.Declares id := by
  simp [DeclaresAll]

namespace Supports

variable {α : Type} {cites : α → List Declaration} {table : Array α}

/-- A table that cites what is declared goes on doing so as the definition grows. -/
theorem mono (supports : before.Supports cites table) (grown : before.GrowsInto after) :
    after.Supports cites table :=
  fun entry listed => (supports entry listed).mono grown

/-- To a table that cites what is declared an entry may be added that does so too. -/
theorem push (supports : definition.Supports cites table) {entry : α}
    (there : definition.DeclaresAll (cites entry)) :
    definition.Supports cites (table.push entry) := by
  -- An entry is an old one, of which it was known, or the one that was added.
  intro other listed
  rcases Array.mem_push.mp listed with old | rfl
  · exact supports other old
  · exact there

/-- A change that cites no more than the entry did, and what is declared, does no harm. -/
theorem modify (supports : definition.Supports cites table) {known : List Declaration}
    (there : definition.DeclaresAll known) (place : Nat) {change : α → α}
    (change_cites : ∀ entry, cites (change entry) ⊆ cites entry ++ known) :
    definition.Supports cites (table.modify place change) := by
  intro entry listed
  obtain ⟨index, inside, rfl⟩ := Array.mem_iff_getElem.mp listed
  rw [Array.getElem_modify]
  have old := supports _ (Array.getElem_mem (by simpa using inside))
  -- Only the entry at the place is changed; the others are found as they were.
  split
  · exact (old.append there).of_subset (change_cites _)
  · exact old

/-- What is read at a place of the table is an entry of it. -/
theorem getD (supports : definition.Supports cites table) {index : Nat}
    (inside : index < table.size) (other : α) :
    definition.DeclaresAll (cites (table.getD index other)) := by
  -- Within the table nothing is read but its entries, so the default plays no part.
  rw [Array.getD, dif_pos inside]
  exact supports _ (Array.getElem_mem inside)

end Supports

/-- A definition without declarations cites nothing. -/
theorem IsClosed.empty : ({} : Definition).IsClosed := by
  constructor <;> intro entry listed <;> simp at listed

/-- All that was cited before is still declared. -/
theorem IsClosed.mono (closed : before.IsClosed) (grown : before.GrowsInto after) :
    after.SupportsAll before where
  types := closed.types.mono grown
  properties := closed.properties.mono grown
  operations := closed.operations.mono grown
  containers := closed.containers.mono grown

namespace IsClosed

variable (closed : definition.IsClosed)
include closed

/-- What a declared type cites is declared. -/
theorem typeAt {id : TypeId} (there : definition.Declares (.type id)) :
    definition.DeclaresAll (definition.typeAt id).cites :=
  closed.types.getD there _

/-- What a declared property cites is declared. -/
theorem propertyAt {id : PropertyId} (there : definition.Declares (.property id)) :
    definition.DeclaresAll (definition.propertyAt id).cites :=
  closed.properties.getD there _

/-- What a declared operation cites is declared. -/
theorem operationAt {id : OperationId} (there : definition.Declares (.operation id)) :
    definition.DeclaresAll (definition.operationAt id).cites :=
  closed.operations.getD there _

end IsClosed

end Definition

end ClientModel.Service
