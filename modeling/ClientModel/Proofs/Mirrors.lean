import ClientModel.Proofs.Growth

/-!
What nodes tell of the declarations that they stand for.

While nodes are derived, those of models and unions are open: they are there, but do not yet refer
to what they are made from. Every other node mirrors its declaration from the start.
-/

namespace ClientModel

/-- The properties of a model as pairs of a name on the wire and the node of a type. -/
def ModelNode.slots (model : ModelNode) : List (String × NodeId) :=
  model.properties.map fun property => (property.serializedName, property.type)

/-- Without marks a model has the same slots. -/
theorem ModelNode.slots_plain (model : ModelNode) : model.plain.slots = model.slots := by
  -- A slot leaves out the mark of its property, so taking it off first makes no difference.
  simp only [ModelNode.slots, ModelNode.plain, List.map_map]
  rfl

/-- Each entry of a list has a partner in a list that is related to it entry by entry. -/
theorem partner_of_mem {α β : Type} {related : α → β → Prop} {left : List α} {right : List β}
    (all : List.Forall₂ related left right) {entry : α} (member : entry ∈ left) :
    ∃ partner ∈ right, related entry partner := by
  -- Along both lists at once, until the entry is found.
  induction all with
  | nil => cases member
  | cons first _ ih =>
    rcases List.mem_cons.mp member with rfl | later
    · exact ⟨_, List.mem_cons_self, first⟩
    · obtain ⟨partner, listed, told⟩ := ih later
      exact ⟨partner, List.mem_cons_of_mem _ listed, told⟩

namespace Derivation

open Service (Enumeration Intrinsic Literal Model Scalar Shape Union Variant)

variable {α β : Type}

/-- The subtypes among some models, by the texts that their discriminators are fixed to. -/
def subtypesAmong (catalogue : Catalogue) (discriminator : String) (children : List NodeId) :
    OrderedMap String NodeId :=
  children.foldl
    (fun subtypes child =>
      match discriminatorValue? catalogue child discriminator with
      | some value => subtypes.insert value child
      | none => subtypes)
    {}

/-- No error has been reported so far. -/
def State.IsClean (state : State) : Prop :=
  state.diagnostics.hasErrors = false

namespace Context

variable (context : Context)

/-- A slot of a model tells what a property declares. -/
def Fills (state : State) (id : PropertyId) (slot : String × NodeId) : Prop :=
  (context.definition.propertyAt id).serializedName = slot.1 ∧
    context.Stands state (context.propertyType id) slot.2

/-- The node of a model tells what the model declares. -/
structure MirrorsModel (state : State) (declared : Model) (node : ModelNode) : Prop where
  unused : node.usage = .none
  generated : node.isGeneratedName = declared.name.isNone
  members : ∃ slots, (node.slots = slots ∨ ∃ name string, declared.discriminator = some name ∧
      node.slots = (name, string) :: slots ∧ state.builtins.get? .string = some string) ∧
    List.Forall₂ (context.Fills state) (context.memberIds declared) slots
  base : List.Forall₂ (context.Stands state) (context.baseType? declared).toList node.base.toList
  additional : List.Forall₂ (context.Stands state)
    (declared.additionalProperties.or (context.inheritedType? declared)).toList
    node.additionalProperties.toList
  subtypes : match declared.discriminator with
    | none => node.subtypes = none
    | some name => ∃ children, List.Forall₂ (context.Stands state) declared.derived children ∧
      (state.IsClean → (∀ child ∈ children,
          (discriminatorValue? state.catalogue child name).isSome) ∧
        node.subtypes.getD {} = subtypesAmong state.catalogue name children)

/-- A node of some kind tells what a declaration of some shape declares. -/
inductive Mirrors (state : State) : Shape → NodeKind → Prop
  | scalar {scalar : Scalar} {builtin : BuiltinNode} :
      Mirrors state (.scalar scalar) (.builtin builtin)
  | intrinsic {intrinsic : Intrinsic} {builtin : BuiltinNode} :
      Mirrors state (.intrinsic intrinsic) (.builtin builtin)
  | literal {constant : ConstantNode} : Mirrors state (.literal constant.value) (.constant constant)
  | enumeration {declared : Enumeration} {node : EnumNode} (unused : node.usage = .none) :
      Mirrors state (.enumeration declared) (.enumeration node)
  | member {declared : Service.Member} {node : EnumValueNode}
      (value : node.value = declared.value.getD (.text declared.name))
      (parent : context.Stands state declared.parent node.enumeration) :
      Mirrors state (.member declared) (.enumValue node)
  | empty {declared : Union} {builtin : BuiltinNode}
      (none : context.valuedVariants declared = []) :
      Mirrors state (.union declared) (.builtin builtin)
  | flattened {declared : Union} {node : EnumNode} (some : context.valuedVariants declared ≠ [])
      (flat : (context.flattening? declared).isSome) (unused : node.usage = .none) :
      Mirrors state (.union declared) (.enumeration node)
  | union {declared : Union} {node : UnionNode} (some : context.valuedVariants declared ≠ [])
      (open' : context.flattening? declared = none) (unused : node.usage = .none)
      (variants : List.Forall₂ (fun variant => context.Stands state variant.type)
        (context.valuedVariants declared) node.variants) :
      Mirrors state (.union declared) (.union node)
  | array {element : TypeId} {value : NodeId} (stands : context.Stands state element value) :
      Mirrors state (.array element) (.array value)
  | record {element : TypeId} {key value : NodeId} (stands : context.Stands state element value) :
      Mirrors state (.record element) (.dict key value)
  | model {declared : Model} {node : ModelNode}
      (mirrors : context.MirrorsModel state declared node) :
      Mirrors state (.model declared) (.model node)

/-- The derivation of a node is over: all that it is made from is there, and it tells what it is. -/
structure Finished (state : State) (id : TypeId) (node : NodeId) : Prop where
  references : ∀ reference ∈ context.references id, ∃ other, context.Stands state reference other
  mirrors : context.Mirrors state (context.definition.shapeAt id)
    (state.catalogue.nodeAt node).plain.kind

/-- All nodes of declarations are what they should be, save for those that are still open. -/
structure Settled (pending : TypeId → Prop) (state : State) : Prop where
  builtins : ∀ kind node, state.builtins.get? kind = some node → node.index < state.catalogue.size ∧
    ∃ builtin, (state.catalogue.nodeAt node).plain.kind = .builtin builtin
  inside : ∀ id node, state.declared.get? id = some node → node.index < state.catalogue.size
  finished : ∀ id node, state.declared.get? id = some node →
    pending id ∨ context.Finished state id node
  origin : ∀ id node, state.declared.get? id = some node →
    (state.catalogue.nodeAt node).carriesUsage → (state.catalogue.nodeAt node).origin = some id
  registered : ∀ id node, (state.catalogue.nodeAt node).carriesUsage →
    (state.catalogue.nodeAt node).origin = some id → state.declared.get? id = some node

end Context

/-! ## What mirrors depend on -/

/-- Without marks a node fixes the same text. -/
theorem Node.constantText?_plain (node : Node) :
    Node.constantText? node.plain = Node.constantText? node := by
  cases kind : node.kind <;> simp [Node.plain, NodeKind.plain, Node.constantText?, kind]

/-- The text that fixes a discriminator is told by names on the wire and nodes of types alone. -/
theorem discriminatorValue?_eq (catalogue : Catalogue) (child : NodeId) (name : String) :
    discriminatorValue? catalogue child name = (catalogue.model? child).bind fun model =>
      (model.slots.find? fun slot => slot.1 == name).bind fun slot =>
        Node.constantText? (catalogue.nodeAt slot.2) := by
  unfold discriminatorValue?
  -- The property is looked for by its name, which is that of its slot.
  cases catalogue.model? child with
  | none => rfl
  | some model =>
    simp only [Option.bind_eq_bind, Option.bind_some, ModelNode.slots, List.find?_map,
      Function.comp_def]
    cases model.properties.find? fun property => property.serializedName == name with
    | none => rfl
    | some property => rfl

/-- A later state tells everything that mirrors rely on as an earlier one does. -/
structure Agrees (before after : State) : Prop where
  declared : ∀ id node, before.declared.get? id = some node → after.declared.get? id = some node
  builtins : ∀ kind node, before.builtins.get? kind = some node →
    after.builtins.get? kind = some node
  clean : after.IsClean → before.IsClean
  texts : ∀ child name value, discriminatorValue? before.catalogue child name = some value →
    discriminatorValue? after.catalogue child name = some value

/-- What is free of errors was so before. -/
theorem Grown.isClean {before after : State} (grown : Grown before after)
    (clean : after.IsClean) : before.IsClean := by
  -- Reports are only added, so an error of before would still be there.
  unfold State.IsClean Diagnostics.hasErrors at clean ⊢
  rw [List.any_eq_false] at clean ⊢
  exact fun report noted => clean report (grown.reports report noted)

/-- Growth agrees with what was there on all that mirrors are told by. -/
theorem Grown.agrees {before after : State} (grown : Grown before after) : Agrees before after where
  declared := grown.declared
  builtins := grown.builtins
  clean := grown.isClean
  texts child name value fixed := by
    -- The model is there later with the same slots, so the same one is found.
    rw [discriminatorValue?_eq] at fixed ⊢
    obtain ⟨model, isModel, fixed⟩ := Option.bind_eq_some_iff.mp fixed
    obtain ⟨slot, found, text⟩ := Option.bind_eq_some_iff.mp fixed
    obtain ⟨later, stillModel, same⟩ := grown.model? isModel
    have slots : later.slots = model.slots := by
      rw [← later.slots_plain, same, model.slots_plain]
    rw [stillModel, Option.bind_some, slots, found, Option.bind_some]
    -- A text is there, so that the node of the type is in range.
    by_cases inside : slot.2.index < before.catalogue.size
    · rw [← Node.constantText?_plain, grown.nodes slot.2 inside, Node.constantText?_plain]
      exact text
    · rw [Catalogue.nodeAt_of_ge _ (Nat.le_of_not_lt inside)] at text
      cases text

/-- Where the same texts tell subtypes apart, the same subtypes are told apart. -/
theorem subtypesAmong_congr {before after : Catalogue} {name : String} {children : List NodeId}
    (same : ∀ child ∈ children,
      discriminatorValue? after child name = discriminatorValue? before child name) :
    subtypesAmong after name children = subtypesAmong before name children := by
  -- The subtypes are folded from the children, and each child brings the same text.
  unfold subtypesAmong
  refine List.foldl_ext _ _ _ fun subtypes child member => ?_
  rw [same child member]

variable {context : Context} {before after : State}

/-- What stands for a type goes on doing so. -/
theorem Context.stands_lasting (id : TypeId) (node : NodeId) :
    Lasting fun state => context.Stands state id node :=
  fun _ _ known grown => grown.declared _ node known

/-- What stands for a type stands for it in whatever agrees. -/
theorem Agrees.stands (agrees : Agrees before after) {id : TypeId} {node : NodeId}
    (stands : context.Stands before id node) : context.Stands after id node :=
  agrees.declared _ node stands

/-- What fills a slot fills it in whatever agrees. -/
theorem Agrees.fills (agrees : Agrees before after) {id : PropertyId} {slot : String × NodeId}
    (fills : context.Fills before id slot) : context.Fills after id slot :=
  ⟨fills.1, agrees.stands fills.2⟩

/-- What stands for several types stands for them in whatever agrees. -/
theorem Agrees.all_stand (agrees : Agrees before after) {ids : List TypeId} {nodes : List NodeId}
    (stand : List.Forall₂ (context.Stands before) ids nodes) :
    List.Forall₂ (context.Stands after) ids nodes :=
  stand.imp fun _ _ => agrees.stands

/-- A model that mirrors its declaration does so in whatever agrees. -/
theorem Context.MirrorsModel.mono {declared : Model} {node : ModelNode}
    (mirrors : context.MirrorsModel before declared node) (agrees : Agrees before after) :
    context.MirrorsModel after declared node where
  unused := mirrors.unused
  generated := mirrors.generated
  members := by
    -- Members, base and additional properties are told by nodes that stand for types.
    obtain ⟨slots, all, members⟩ := mirrors.members
    refine ⟨slots, ?_, members.imp fun _ _ fills => agrees.fills fills⟩
    rcases all with same | ⟨name, string, discriminator, same, isString⟩
    · exact Or.inl same
    · exact Or.inr ⟨name, string, discriminator, same, agrees.builtins _ _ isString⟩
  base := agrees.all_stand mirrors.base
  additional := agrees.all_stand mirrors.additional
  subtypes := by
    have earlier := mirrors.subtypes
    cases discriminator : declared.discriminator with
    | none =>
      rw [discriminator] at earlier
      exact earlier
    | some name =>
      rw [discriminator] at earlier
      obtain ⟨children, stand, told⟩ := earlier
      refine ⟨children, agrees.all_stand stand, fun clean => ?_⟩
      -- Without errors every subtype is fixed to a text, and such texts stay.
      obtain ⟨fixed, same⟩ := told (agrees.clean clean)
      have later (child : NodeId) (member : child ∈ children) :
          discriminatorValue? after.catalogue child name =
            discriminatorValue? before.catalogue child name := by
        obtain ⟨value, isValue⟩ := Option.isSome_iff_exists.mp (fixed child member)
        rw [isValue, agrees.texts child name value isValue]
      refine ⟨fun child member => ?_, ?_⟩
      · rw [later child member]
        exact fixed child member
      · rw [same, subtypesAmong_congr later]

/-- A node that mirrors its declaration does so in whatever agrees. -/
theorem Context.Mirrors.mono {shape : Shape} {kind : NodeKind}
    (mirrors : context.Mirrors before shape kind) (agrees : Agrees before after) :
    context.Mirrors after shape kind := by
  -- A few kinds refer to other nodes, which stand for their types as before.
  cases mirrors with
  | scalar => exact .scalar
  | intrinsic => exact .intrinsic
  | literal => exact .literal
  | enumeration unused => exact .enumeration unused
  | member value parent => exact .member value (agrees.stands parent)
  | empty none => exact .empty none
  | flattened some flat unused => exact .flattened some flat unused
  | union some open' unused variants =>
    exact .union some open' unused (variants.imp fun _ _ => agrees.stands)
  | array stands => exact .array (agrees.stands stands)
  | record stands => exact .record (agrees.stands stands)
  | model mirrors => exact .model (mirrors.mono agrees)

end Derivation

end ClientModel
