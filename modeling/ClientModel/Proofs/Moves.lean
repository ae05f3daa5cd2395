import ClientModel.Proofs.Mirrors

/-!
What deriving nodes does to the state of a run, one move at a time.

Every move is told with all that it relies on. Whatever holds from the start of a run to its end is
then found by looking at the moves one by one.
-/

namespace ClientModel

/-! ## Identifiers -/

/-- The nodes that a property names: its type, and the model that it is a member of. -/
def Property.nodeIds (property : Property) : List NodeId :=
  property.type :: property.owner.toList

/-- The nodes that a node names. -/
def NodeKind.nodeIds : NodeKind → List NodeId
  | .builtin node => node.base.toList
  | .enumeration node => node.values
  | .enumValue node => [node.enumeration]
  | .union node => node.variants
  | .array value => [value]
  | .dict key value => [key, value]
  | .model node =>
    node.properties.flatMap Property.nodeIds ++ node.base.toList ++
      node.additionalProperties.toList ++ (node.subtypes.map OrderedMap.values).getD []
  | .endpoint node => node.arguments.flatMap Property.nodeIds
  | .constant _ | .credential _ => []

/-- All of some identifiers are in range. -/
def Catalogue.Holds (catalogue : Catalogue) (ids : List NodeId) : Prop :=
  ∀ id ∈ ids, id.index < catalogue.size

/-- A catalogue holds two lists of nodes just if it holds each of them. -/
theorem Catalogue.holds_append {catalogue : Catalogue} {ids more : List NodeId} :
    catalogue.Holds (ids ++ more) ↔ catalogue.Holds ids ∧ catalogue.Holds more :=
  List.forall_mem_append

/-- A catalogue that holds two lists holds both together. -/
theorem Catalogue.Holds.append {catalogue : Catalogue} {ids more : List NodeId}
    (first : catalogue.Holds ids) (second : catalogue.Holds more) : catalogue.Holds (ids ++ more) :=
  Catalogue.holds_append.mpr ⟨first, second⟩

/-- A larger catalogue holds what the smaller one did. -/
theorem Catalogue.Holds.mono {before after : Catalogue} {ids : List NodeId}
    (holds : before.Holds ids) (larger : before.size ≤ after.size) : after.Holds ids :=
  fun id member => Nat.lt_of_lt_of_le (holds id member) larger

/-- A catalogue that holds some nodes holds a part of them. -/
theorem Catalogue.Holds.subset {catalogue : Catalogue} {ids fewer : List NodeId}
    (holds : catalogue.Holds ids) (among : fewer ⊆ ids) : catalogue.Holds fewer :=
  fun id member => holds id (among member)

/-- A catalogue holds no nodes at all. -/
@[simp] theorem Catalogue.holds_nil (catalogue : Catalogue) : catalogue.Holds [] :=
  fun _ member => absurd member List.not_mem_nil

/-- A catalogue holds a node just if it is in range. -/
@[simp] theorem Catalogue.holds_singleton {catalogue : Catalogue} {id : NodeId} :
    catalogue.Holds [id] ↔ id.index < catalogue.size :=
  List.forall_mem_singleton

/-- A catalogue holds the nodes of all entries if it holds those of each. -/
theorem Catalogue.holds_flatMap {α : Type} {catalogue : Catalogue} {ids : α → List NodeId}
    {list : List α} (each : ∀ entry ∈ list, catalogue.Holds (ids entry)) :
    catalogue.Holds (list.flatMap ids) := by
  -- A node in the joined list comes from one of the entries.
  intro id member
  obtain ⟨entry, listed, isId⟩ := List.mem_flatMap.mp member
  exact each entry listed id isId

/-- A model names the types of its properties, its base, its additional properties, its subtypes. -/
theorem Catalogue.holds_model {catalogue : Catalogue} {model : ModelNode} :
    catalogue.Holds (NodeKind.model model).nodeIds ↔
      catalogue.Holds (model.properties.flatMap Property.nodeIds) ∧
        catalogue.Holds model.base.toList ∧ catalogue.Holds model.additionalProperties.toList ∧
        catalogue.Holds ((model.subtypes.map OrderedMap.values).getD []) := by
  simp only [NodeKind.nodeIds, Catalogue.holds_append, and_assoc]

/-- What an identifier reads as after a node is added at the end. -/
theorem Catalogue.nodeAt_push (catalogue : Catalogue) (node : Node) (id : NodeId) :
    (catalogue.push node).nodeAt id = if id = ⟨catalogue.size⟩ then node else
      catalogue.nodeAt id := by
  split
  · rename_i last
    rw [last, Catalogue.nodeAt_push_self]
  · rename_i apart
    rcases Nat.lt_or_ge id.index catalogue.size with inside | outside
    · exact catalogue.nodeAt_push_lt inside
    -- What is out of range stays so, unless it is the place of the new node.
    · have beyond : (catalogue.push node).size ≤ id.index := by
        have different : id.index ≠ catalogue.size := fun same =>
          apart (NodeId.index_inj.mp same)
        rw [Catalogue.size_push]
        omega
      rw [Catalogue.nodeAt_of_ge _ beyond, Catalogue.nodeAt_of_ge _ outside]

/-! ## Marks of subtypes -/

/-- The first property of a wire name is marked to tell subtypes apart. -/
def ModelNode.IsFlagged (model : ModelNode) (name : String) : Prop :=
  ∃ property, model.properties.find? (fun property => property.serializedName == name) =
    some property ∧ property.isDiscriminator

/-- The node is a model in which the first property of a wire name is marked. -/
def Node.IsFlagged (node : Node) (name : String) : Prop :=
  ∃ model, node.kind = .model model ∧ model.IsFlagged name

/-- The node is a model that is known by a value of a discriminator. -/
def Node.IsValued (node : Node) : Prop :=
  ∃ model, node.kind = .model model ∧ model.discriminatorValue.isSome

/-- No mark of a node is taken back. -/
structure Node.KeepsMarks (before after : Node) : Prop where
  flagged : ∀ name, before.IsFlagged name → after.IsFlagged name
  valued : before.IsValued → after.IsValued

/-- A node of the same kind keeps all marks. -/
theorem Node.KeepsMarks.of_kind {before after : Node} (same : after.kind = before.kind) :
    before.KeepsMarks after where
  flagged _ := fun ⟨model, kind, isFlagged⟩ => ⟨model, same.trans kind, isFlagged⟩
  valued := fun ⟨model, kind, isValue⟩ => ⟨model, same.trans kind, isValue⟩

/-- Only models bear marks. -/
theorem Node.KeepsMarks.of_unmarked {before after : Node}
    (unmarked : ∀ model, before.kind ≠ .model model) : before.KeepsMarks after where
  flagged _ := fun ⟨model, kind, _⟩ => absurd kind (unmarked model)
  valued := fun ⟨model, kind, _⟩ => absurd kind (unmarked model)

/-- A node that carries usage is not primitive, nor is one of the same sort. -/
theorem Node.ne_builtin_of_label {node other : Node} (carries : node.carriesUsage)
    (sort : other.kind.label = node.kind.label) {builtin : BuiltinNode} :
    other.kind ≠ .builtin builtin := by
  intro isBuiltin
  rw [isBuiltin] at sort
  -- Models, enums and unions carry usage, and none of them is labelled as primitive.
  cases kind : node.kind <;>
    simp [NodeKind.label, Node.carriesUsage, Node.usage?, kind] at sort carries

/-- Nodes of one sort are models or not alike. -/
theorem Node.isSome_model?_of_label {node other : Node}
    (sort : other.kind.label = node.kind.label) : other.model?.isSome = node.model?.isSome := by
  -- The label alone tells whether a node is a model.
  cases kind : node.kind <;> cases otherKind : other.kind <;>
    simp [NodeKind.label, Node.model?, kind, otherKind] at sort ⊢

/-- To keep marks twice is to keep them. -/
theorem Node.KeepsMarks.trans {first second third : Node} (left : first.KeepsMarks second)
    (right : second.KeepsMarks third) : first.KeepsMarks third where
  flagged name flagged := right.flagged name (left.flagged name flagged)
  valued isValued := right.valued (left.valued isValued)

namespace Derivation

open Service (Definition Literal Model Shape)

/-- A node that carries usage stands for no text, nor does one of the same sort. -/
theorem constantText?_of_label {node other : Node} (carries : node.carriesUsage)
    (sort : other.kind.label = node.kind.label) : Node.constantText? other = none := by
  -- Texts come from constants and enum values, which carry no usage.
  cases kind : node.kind <;> cases otherKind : other.kind <;>
    simp [NodeKind.label, Node.carriesUsage, Node.usage?, Node.constantText?, kind,
      otherKind] at sort carries ⊢

variable {context : Context} {before after state : State}

/-! ## Texts -/

/-- The text that a declaration of some shape stands for. -/
def shapeText? : Shape → Option String
  | .literal value => value.text?
  | .member member => (member.value.getD (.text member.name)).text?
  | _ => none

namespace Context

variable (context : Context)

/-- A node is of the sort that its declaration asks for, and stands for the same text. -/
structure Suits (id : TypeId) (node : Node) : Prop where
  text : Node.constantText? node = shapeText? (context.definition.shapeAt id)
  model : node.model?.isSome = (context.definition.model? id).isSome
  primitive : ∀ intrinsic, context.definition.shapeAt id = .intrinsic intrinsic →
    ∃ builtin, node.kind = .builtin builtin

variable {context} in
/-- What stays of its sort suits its declaration as before. -/
theorem Suits.of_sort {id : TypeId} {node other : Node} (suits : context.Suits id node)
    (sort : other.kind = node.kind ∨
      node.carriesUsage ∧ other.kind.label = node.kind.label) : context.Suits id other := by
  -- Either the node stands for what it did, or it carries usage and keeps its label.
  rcases sort with same | ⟨carries, sameSort⟩
  · refine ⟨?_, ?_, ?_⟩
    · rw [← suits.text]
      simp only [Node.constantText?, same]
    · rw [← suits.model]
      simp only [Node.model?, same]
    · rw [same]
      exact suits.primitive
  · refine ⟨?_, ?_, fun intrinsic shape => ?_⟩
    · rw [← suits.text, constantText?_of_label carries sameSort,
        constantText?_of_label carries rfl]
    · rw [← suits.model, Node.isSome_model?_of_label sameSort]
    -- A node that carries usage is not primitive, as that of an intrinsic type would be.
    · obtain ⟨builtin, isBuiltin⟩ := suits.primitive intrinsic shape
      exact absurd isBuiltin (Node.ne_builtin_of_label carries rfl)

/-- The first property of a wire name that carries a value. -/
def memberNamed? (model : Model) (name : String) : Option PropertyId :=
  (context.memberIds model).find? fun id =>
    (context.definition.propertyAt id).serializedName == name

/-- The text to which a declaration fixes the property of a wire name. -/
def fixedText? (id : TypeId) (name : String) : Option String := do
  let model ← context.definition.model? (context.definition.payloadType id)
  let property ← context.memberNamed? model name
  shapeText? (context.definition.shapeAt (context.definition.payloadType
    (context.propertyType property)))

/-- A property of a model leads to a type. -/
def MembersLead (id target : TypeId) : Prop :=
  ∃ model, context.definition.model? id = some model ∧ ∃ property ∈ context.memberIds model,
    Relation.ReflTransGen context.LeadsTo
      (context.definition.payloadType (context.propertyType property)) target

/-- A subtype that its base may report: it fixes no text, or leads on to the base itself. -/
def Unfixed (derived : TypeId) : Prop :=
  ∃ base declared name, context.definition.model? base = some declared ∧
    declared.discriminator = some name ∧ derived ∈ declared.derived ∧
      (context.fixedText? derived name = none ∨
        context.MembersLead (context.definition.payloadType derived) base)

end Context

/-! ## Moves -/

/-- A single move of the derivation of nodes. -/
inductive Move (context : Context) (state : State) : State → Prop
  /-- A declaration without a node gets a new one of its own. -/
  | registered {id : TypeId} {node : Node} (own : node.origin = some id)
      (fresh : ∀ first, state.declared.get? id = some first → first = ⟨state.catalogue.size⟩)
      (suits : context.Suits id node) (names : state.catalogue.Holds node.kind.nodeIds) :
      Move context state { state with
        catalogue := state.catalogue.push node
        declared := state.declared.insert id ⟨state.catalogue.size⟩ }
  /-- A declaration shares a primitive node that is there already. -/
  | shared {id : TypeId} {node : NodeId} {builtin : BuiltinNode}
      (inside : node.index < state.catalogue.size)
      (same : ∀ first, state.declared.get? id = some first → first = node)
      (primitive : (state.catalogue.nodeAt node).kind = .builtin builtin)
      (suits : context.Suits id (state.catalogue.nodeAt node)) :
      Move context state { state with declared := state.declared.insert id node }
  /-- A primitive kind without a node gets one. -/
  | made {builtin : BuiltinNode} (fresh : state.builtins.get? builtin.kind = none)
      (bare : builtin.base = none) :
      Move context state { state with
        catalogue := state.catalogue.push { kind := .builtin builtin }
        builtins := state.builtins.insert builtin.kind ⟨state.catalogue.size⟩ }
  /-- A node is added that no declaration has, and no primitive kind. -/
  | loose {node : Node} (bare : node.origin = none)
      (compound : ∀ builtin, node.kind ≠ .builtin builtin)
      (names : state.catalogue.Holds node.kind.nodeIds) :
      Move context state { state with catalogue := state.catalogue.push node }
  /-- A node changes, and stays of its sort. -/
  | changed {id : NodeId} {change : Node → Node} (inside : id.index < state.catalogue.size)
      (own : (change (state.catalogue.nodeAt id)).origin = (state.catalogue.nodeAt id).origin)
      (sort : (change (state.catalogue.nodeAt id)).kind = (state.catalogue.nodeAt id).kind ∨
        (state.catalogue.nodeAt id).carriesUsage ∧
        (change (state.catalogue.nodeAt id)).kind.label = (state.catalogue.nodeAt id).kind.label)
      (names : state.catalogue.Holds (change (state.catalogue.nodeAt id)).kind.nodeIds)
      (marks : (state.catalogue.nodeAt id).KeepsMarks (change (state.catalogue.nodeAt id))) :
      Move context state { state with catalogue := state.catalogue.modify id change }
  /-- A name is made up. -/
  | named {names : NameRegistry} : Move context state { state with names }
  /-- A subtype is reported, since no text of it was there for its base. -/
  | unfixed {derived : TypeId} {report : Diagnostic} (missing : context.Unfixed derived)
      (target : report.target = some (.type derived)) :
      Move context state { state with diagnostics := state.diagnostics.add report }
  /-- Anything else is reported. -/
  | reported {report : Diagnostic} (other : report.code ≠ some Code.discriminatorNotConstant) :
      Move context state { state with diagnostics := state.diagnostics.add report }

/-- Moves one after the other. -/
abbrev Path (context : Context) : State → State → Prop :=
  Relation.ReflTransGen (Move context)

/-! ## What no move breaks -/

/-- What is known of all nodes at any time. -/
structure Orderly (context : Context) (state : State) : Prop where
  inside : ∀ id node, state.declared.get? id = some node → node.index < state.catalogue.size
  suits : ∀ id node, state.declared.get? id = some node →
    context.Suits id (state.catalogue.nodeAt node)
  own : ∀ id node, state.declared.get? id = some node →
    (state.catalogue.nodeAt node).origin = some id ∨
      ∃ builtin, (state.catalogue.nodeAt node).kind = .builtin builtin
  registered : ∀ id node, (state.catalogue.nodeAt node).origin = some id →
    state.declared.get? id = some node
  builtins : ∀ kind node, state.builtins.get? kind = some node →
    node.index < state.catalogue.size ∧ (state.catalogue.nodeAt node).origin = none ∧
      ∃ builtin, (state.catalogue.nodeAt node).kind = .builtin builtin ∧ builtin.kind = kind
  shared : ∀ node builtin, node.index < state.catalogue.size →
    (state.catalogue.nodeAt node).origin = none →
    (state.catalogue.nodeAt node).kind = .builtin builtin →
      state.builtins.get? builtin.kind = some node
  names : ∀ node, state.catalogue.Holds (state.catalogue.nodeAt node).kind.nodeIds

namespace Orderly

/-- At the start of a run there are no nodes. -/
theorem start : Orderly context {} := by
  -- Whatever is looked up in an empty catalogue is out of range.
  have nowhere (node : NodeId) : ({} : State).catalogue.nodeAt node = Node.outOfRange :=
    Catalogue.nodeAt_of_ge _ (Nat.zero_le _)
  refine ⟨?_, ?_, ?_, fun id node isOrigin => ?_, ?_, fun node _ inside => ?_, fun node => ?_⟩
  · simp [OrderedMap.get?]
  · simp [OrderedMap.get?]
  · simp [OrderedMap.get?]
  · rw [nowhere] at isOrigin
    cases isOrigin
  · simp [OrderedMap.get?]
  · exact absurd inside (Nat.not_lt_zero _)
  · rw [nowhere]
    simp [Node.outOfRange, NodeKind.nodeIds, Catalogue.Holds]

/-- A node that is there is not the one that is added. -/
theorem ne_last {node : NodeId} (inside : node.index < state.catalogue.size) :
    node ≠ ⟨state.catalogue.size⟩ := by
  -- The place of the node that is added is just out of range.
  rintro rfl
  exact absurd inside (Nat.lt_irrefl _)

/-- What is in range after a node is added was so before, unless it is that node. -/
theorem lt_of_ne_last {node : Node} {other : NodeId}
    (inside : other.index < (state.catalogue.push node).size)
    (apart : other ≠ ⟨state.catalogue.size⟩) : other.index < state.catalogue.size := by
  -- The catalogue is larger by one place, and that place is ruled out.
  have different : other.index ≠ state.catalogue.size := fun same =>
    apart (NodeId.index_inj.mp same)
  rw [Catalogue.size_push] at inside
  omega

/-- A node that is there reads the same after another one is added. -/
theorem nodeAt_push {node : NodeId} (inside : node.index < state.catalogue.size) (other : Node) :
    (state.catalogue.push other).nodeAt node = state.catalogue.nodeAt node := by
  rw [Catalogue.nodeAt_push, if_neg (ne_last inside)]

/-- What the nodes name stays in range if one more node is added that names what is in range. -/
theorem names_push (orderly : Orderly context state) {node : Node}
    (names : state.catalogue.Holds node.kind.nodeIds) (other : NodeId) :
    (state.catalogue.push node).Holds ((state.catalogue.push node).nodeAt other).kind.nodeIds := by
  have larger : state.catalogue.size ≤ (state.catalogue.push node).size := by simp
  -- The node is the new one or an old one, and either names what was in range before.
  rw [Catalogue.nodeAt_push]
  split
  · exact names.mono larger
  · exact (orderly.names other).mono larger

/-- What is known of declarations stays so if a node is added that belongs to none. -/
theorem push (orderly : Orderly context state) {node : Node} (bare : node.origin = none)
    (names : state.catalogue.Holds node.kind.nodeIds) {table : OrderedMap BuiltinKind NodeId}
    (builtins : ∀ kind found, table.get? kind = some found →
      state.builtins.get? kind = some found ∨ found = ⟨state.catalogue.size⟩ ∧
        ∃ builtin, node.kind = .builtin builtin ∧ builtin.kind = kind)
    (shared : ∀ builtin, node.kind = .builtin builtin →
      table.get? builtin.kind = some ⟨state.catalogue.size⟩)
    (kept : ∀ kind found, state.builtins.get? kind = some found → table.get? kind = some found) :
    Orderly context { state with
      catalogue := state.catalogue.push node, builtins := table } where
  inside id found known := by
    rw [Catalogue.size_push]
    exact Nat.lt_succ_of_lt (orderly.inside id found known)
  suits id found known := by
    -- An older node is what it was; of the new one it is told by assumption.
    rw [nodeAt_push (orderly.inside id found known)]
    exact orderly.suits id found known
  own id found known := by
    rw [nodeAt_push (orderly.inside id found known)]
    exact orderly.own id found known
  registered id found isOrigin := by
    rw [Catalogue.nodeAt_push] at isOrigin
    split at isOrigin
    · rw [bare] at isOrigin
      cases isOrigin
    · exact orderly.registered id found isOrigin
  builtins kind found known := by
    rw [Catalogue.size_push]
    -- A primitive kind has the node that it had, or the new one.
    rcases builtins kind found known with earlier | ⟨rfl, new⟩
    · obtain ⟨inside, told⟩ := orderly.builtins kind found earlier
      rw [nodeAt_push inside]
      exact ⟨Nat.lt_succ_of_lt inside, told⟩
    · rw [Catalogue.nodeAt_push_self]
      exact ⟨Nat.lt_succ_self _, bare, new⟩
  shared found builtin inside isBare isBuiltin := by
    rw [Catalogue.nodeAt_push] at isBare isBuiltin
    split at isBuiltin
    · rename_i last
      rw [last]
      -- If the new node is primitive, the table leads to it.
      exact shared builtin isBuiltin
    · rename_i apart
      rw [if_neg apart] at isBare
      exact kept _ _ (orderly.shared found builtin (lt_of_ne_last inside apart) isBare isBuiltin)
  names := orderly.names_push names

/-- An orderly state stays so when a new node is registered for its declaration. -/
theorem register (orderly : Orderly context state) {id : TypeId} {node : Node}
    (own : node.origin = some id)
    (fresh : ∀ first, state.declared.get? id = some first → first = ⟨state.catalogue.size⟩)
    (suits : context.Suits id node) (names : state.catalogue.Holds node.kind.nodeIds) :
    Orderly context { state with
      catalogue := state.catalogue.push node
      declared := state.declared.insert id ⟨state.catalogue.size⟩ } where
  inside other found known := by
    rw [Catalogue.size_push]
    -- Either it is the declaration that is noted now, or one that was noted before.
    rcases OrderedMap.get?_insert_cases known with ⟨rfl, rfl⟩ | known
    · exact Nat.lt_succ_self _
    · exact Nat.lt_succ_of_lt (orderly.inside other found known)
  -- The new node suits by assumption, and the others are found as they were.
  suits other found known := by
    rcases OrderedMap.get?_insert_cases known with ⟨rfl, rfl⟩ | known
    · rw [Catalogue.nodeAt_push_self]
      exact suits
    · rw [nodeAt_push (orderly.inside other found known)]
      exact orderly.suits other found known
  own other found known := by
    rcases OrderedMap.get?_insert_cases known with ⟨rfl, rfl⟩ | known
    · rw [Catalogue.nodeAt_push_self]
      exact Or.inl own
    · rw [nodeAt_push (orderly.inside other found known)]
      exact orderly.own other found known
  registered other found isOrigin := by
    rw [Catalogue.nodeAt_push] at isOrigin
    split at isOrigin
    · -- The new node belongs to the declaration that it was added for.
      rename_i last
      obtain rfl : id = other := Option.some.inj (own.symm.trans isOrigin)
      rw [last]
      exact OrderedMap.get?_insert_self _ _ _
    · exact OrderedMap.get?_insert_of_get? fresh (orderly.registered other found isOrigin)
  builtins kind found known := by
    obtain ⟨inside, told⟩ := orderly.builtins kind found known
    rw [nodeAt_push inside]
    exact ⟨by simpa using Nat.lt_succ_of_lt inside, told⟩
  shared found builtin inside bare isBuiltin := by
    rw [Catalogue.nodeAt_push] at bare isBuiltin
    split at bare
    · rw [own] at bare
      cases bare
    · rename_i apart
      rw [if_neg apart] at isBuiltin
      -- The new node has a declaration, so that this one was there before.
      exact orderly.shared found builtin (lt_of_ne_last inside apart) bare isBuiltin
  names := orderly.names_push names

/-- An orderly state stays so when a declaration shares a node that is primitive. -/
theorem share (orderly : Orderly context state) {id : TypeId} {node : NodeId}
    {builtin : BuiltinNode} (inside : node.index < state.catalogue.size)
    (same : ∀ first, state.declared.get? id = some first → first = node)
    (primitive : (state.catalogue.nodeAt node).kind = .builtin builtin)
    (suits : context.Suits id (state.catalogue.nodeAt node)) :
    Orderly context { state with declared := state.declared.insert id node } where
  inside other found known := by
    rcases OrderedMap.get?_insert_cases known with ⟨rfl, rfl⟩ | known
    · exact inside
    · exact orderly.inside other found known
  -- The shared node suits by assumption; no node changes.
  suits other found known := by
    rcases OrderedMap.get?_insert_cases known with ⟨rfl, rfl⟩ | known
    · exact suits
    · exact orderly.suits other found known
  own other found known := by
    rcases OrderedMap.get?_insert_cases known with ⟨rfl, rfl⟩ | known
    -- The declaration has a node that is not its own, for it is a primitive one.
    · exact Or.inr ⟨builtin, primitive⟩
    · exact orderly.own other found known
  registered other found isOrigin :=
    OrderedMap.get?_insert_of_get? same (orderly.registered other found isOrigin)
  builtins := orderly.builtins
  shared := orderly.shared
  names := orderly.names

/-- An orderly state stays so when a builtin type is made that was not there. -/
theorem make (orderly : Orderly context state) {builtin : BuiltinNode}
    (fresh : state.builtins.get? builtin.kind = none) (bare : builtin.base = none) :
    Orderly context { state with
      catalogue := state.catalogue.push { kind := .builtin builtin }
      builtins := state.builtins.insert builtin.kind ⟨state.catalogue.size⟩ } := by
  refine orderly.push rfl (by simp [NodeKind.nodeIds, bare]) (fun kind found known => ?_)
    (fun other isBuiltin => ?_) fun kind found =>
      OrderedMap.get?_insert_of_get? fun first known => ?_
  · rcases OrderedMap.get?_insert_cases known with ⟨rfl, rfl⟩ | earlier
    · exact Or.inr ⟨rfl, builtin, rfl, rfl⟩
    · exact Or.inl earlier
  · cases isBuiltin
    exact OrderedMap.get?_insert_self _ _ _
  -- A kind that had no node is not the one of a node that was there.
  · rw [fresh] at known
    cases known

/-- An orderly state stays so when a node without a declaration is added. -/
theorem add (orderly : Orderly context state) {node : Node} (bare : node.origin = none)
    (compound : ∀ builtin, node.kind ≠ .builtin builtin)
    (names : state.catalogue.Holds node.kind.nodeIds) :
    Orderly context { state with catalogue := state.catalogue.push node } :=
  -- A node without a declaration is remembered for nothing, so all that was known stays as it was.
  orderly.push bare names (fun _ _ => Or.inl)
    (fun builtin isBuiltin => absurd isBuiltin (compound builtin)) fun _ _ known => known

/-- A change that leaves a node of its sort. -/
theorem change (orderly : Orderly context state) {id : NodeId} {change : Node → Node}
    (inside : id.index < state.catalogue.size)
    (own : (change (state.catalogue.nodeAt id)).origin = (state.catalogue.nodeAt id).origin)
    (sort : (change (state.catalogue.nodeAt id)).kind = (state.catalogue.nodeAt id).kind ∨
      (state.catalogue.nodeAt id).carriesUsage ∧
      (change (state.catalogue.nodeAt id)).kind.label = (state.catalogue.nodeAt id).kind.label)
    (names : state.catalogue.Holds (change (state.catalogue.nodeAt id)).kind.nodeIds) :
    Orderly context { state with catalogue := state.catalogue.modify id change } := by
  -- No node changes hands.
  have origin (node : NodeId) : ((state.catalogue.modify id change).nodeAt node).origin =
      (state.catalogue.nodeAt node).origin := by
    by_cases same : node = id
    · rw [same, Catalogue.nodeAt_modify_self _ inside, own]
    · rw [Catalogue.nodeAt_modify_ne _ same]
  -- A primitive node does not change, for it carries no usage.
  have primitive (node : NodeId) (builtin : BuiltinNode) :
      ((state.catalogue.modify id change).nodeAt node).kind = .builtin builtin ↔
        (state.catalogue.nodeAt node).kind = .builtin builtin := by
    by_cases same : node = id
    · rw [same, Catalogue.nodeAt_modify_self _ inside]
      rcases sort with sameKind | ⟨carries, sameSort⟩
      · rw [sameKind]
      · constructor
        · intro isBuiltin
          exact absurd isBuiltin (Node.ne_builtin_of_label carries sameSort)
        · intro isBuiltin
          exact absurd isBuiltin (Node.ne_builtin_of_label carries rfl)
    · rw [Catalogue.nodeAt_modify_ne _ same]
  -- What is known of declarations is known of their nodes, one of which has changed.
  refine
    { inside := ?inside
      suits := ?suits
      own := ?own
      registered := ?registered
      builtins := ?builtins
      shared := ?shared
      names := ?names }
  case inside =>
    intro type node known
    rw [Catalogue.size_modify]
    exact orderly.inside type node known
  case suits =>
    intro type node known
    have suits := orderly.suits type node known
    by_cases same : node = id
    · subst same
      rw [Catalogue.nodeAt_modify_self _ inside]
      exact suits.of_sort sort
    · rw [Catalogue.nodeAt_modify_ne _ same]
      exact suits
  case own =>
    intro type node known
    simp only [origin, primitive]
    exact orderly.own type node known
  case registered =>
    intro type node isOrigin
    rw [origin] at isOrigin
    exact orderly.registered type node isOrigin
  case builtins =>
    intro kind node known
    simp only [origin, primitive, Catalogue.size_modify]
    exact orderly.builtins kind node known
  case shared =>
    intro node builtin within isBare isBuiltin
    rw [Catalogue.size_modify] at within
    rw [origin] at isBare
    exact orderly.shared node builtin within isBare ((primitive node builtin).mp isBuiltin)
  case names =>
    intro node
    -- The number of nodes is the same, and only one of them names other nodes.
    have same : (state.catalogue.modify id change).size = state.catalogue.size := by simp
    by_cases isChanged : node = id
    · rw [isChanged, Catalogue.nodeAt_modify_self _ inside]
      exact names.mono (Nat.le_of_eq same.symm)
    · rw [Catalogue.nodeAt_modify_ne _ isChanged]
      exact (orderly.names node).mono (Nat.le_of_eq same.symm)

/-- Every move leaves an orderly state orderly. -/
theorem move (orderly : Orderly context before) (move : Move context before after) :
    Orderly context after := by
  -- By cases on the move, each of which is told with what it relies on.
  cases move with
  | registered own fresh suits names => exact orderly.register own fresh suits names
  | shared inside same primitive suits => exact orderly.share inside same primitive suits
  | made fresh bare => exact orderly.make fresh bare
  | loose bare compound names => exact orderly.add bare compound names
  | changed inside own sort names marks => exact orderly.change inside own sort names
  -- Names and reports are no part of what is known of nodes.
  | named => exact ⟨orderly.inside, orderly.suits, orderly.own, orderly.registered,
      orderly.builtins, orderly.shared, orderly.names⟩
  | unfixed => exact ⟨orderly.inside, orderly.suits, orderly.own, orderly.registered,
      orderly.builtins, orderly.shared, orderly.names⟩
  | reported => exact ⟨orderly.inside, orderly.suits, orderly.own, orderly.registered,
      orderly.builtins, orderly.shared, orderly.names⟩

/-- So does every path of moves. -/
theorem path (orderly : Orderly context before) (path : Path context before after) :
    Orderly context after := by
  -- By induction on the moves.
  induction path with
  | refl => exact orderly
  | tail _ last ih => exact ih.move last

end Orderly

namespace Move

/-- No move loses a node. -/
theorem size_le (move : Move context before after) :
    before.catalogue.size ≤ after.catalogue.size := by
  -- Moves add nodes or change them.
  cases move <;> simp

/-- No move takes a mark of a node back. -/
theorem keepsMarks (move : Move context before after) {node : NodeId}
    (inside : node.index < before.catalogue.size) :
    (before.catalogue.nodeAt node).KeepsMarks (after.catalogue.nodeAt node) := by
  have same : (before.catalogue.nodeAt node).KeepsMarks (before.catalogue.nodeAt node) :=
    .of_kind rfl
  -- Only a change of the node itself could, and it is told to keep them.
  cases move with
  | registered | made | loose =>
    -- A node that is added is not the one in question, which was there before.
    rw [Orderly.nodeAt_push inside]
    exact same
  | changed _ _ _ _ marks =>
    rename_i id change within _ _ _
    by_cases isChanged : node = id
    · subst isChanged
      rw [Catalogue.nodeAt_modify_self _ inside]
      exact marks
    · rw [Catalogue.nodeAt_modify_ne _ isChanged]
      exact same
  | shared | named | unfixed | reported => exact same

end Move

/-- By induction on the moves: no node is lost, and no mark of one is taken back. -/
theorem path_keepsMarks (path : Path context before after) {node : NodeId}
    (inside : node.index < before.catalogue.size) :
    before.catalogue.size ≤ after.catalogue.size ∧
      (before.catalogue.nodeAt node).KeepsMarks (after.catalogue.nodeAt node) := by
  induction path with
  | refl => exact ⟨Nat.le_refl _, .of_kind rfl⟩
  | tail _ last ih =>
    -- The node is still in range before the last move.
    have keeps := last.keepsMarks (Nat.lt_of_lt_of_le inside ih.1)
    exact ⟨Nat.le_trans ih.1 last.size_le, ih.2.trans keeps⟩

end Derivation

end ClientModel
