import ClientModel.Proofs.Conveys
import ClientModel.Proofs.Moves

/-!
What the nodes of a package tell of the declarations that they come from.

A declaration is rendered once its node tells all of it. Types that lead to one another are entered
before they are rendered; what is told of a derivation is that whatever it enters is rendered when
it is over.
-/

namespace ClientModel.Derivation

open Service (Definition Enumeration Intrinsic Literal Model Scalar Shape Union Variant)

variable {α : Type}

/-- The base of a scalar that has a namespace. -/
def scalarBaseType? (scalar : Scalar) : Option TypeId :=
  scalar.namespaceId.bind fun _ => scalar.base

namespace Context

variable (context : Context)

/-! ## Members -/

/-- The property of a node that a property of a model becomes. -/
def memberOf (owner : NodeId) (ownerId : String) (id : PropertyId) (type : NodeId) : Property :=
  let declared := context.definition.propertyAt id
  { origin := some id
    name := declared.name
    clientName := context.propertyName id
    serializedName := declared.serializedName
    owner := some owner
    type
    optional := declared.optional
    role := .member false
    clientDefault := declared.defaultValue
    crossId := ownerId ++ "." ++ declared.name
    deprecation := declared.deprecation
    doc := declared.doc }

/-- The discriminator that is made up for a model which declares no property of its name. -/
def discriminatorOf (owner : NodeId) (ownerId name : String) (string : NodeId) : Property :=
  { name
    type := string
    role := .member true
    owner := some owner
    isGeneratedName := true
    crossId := ownerId ++ "." ++ name }

/-- A property of a node is what a declared property becomes, with the node of its type. -/
def IsMember (state : State) (owner : NodeId) (ownerId : String) (id : PropertyId)
    (property : Property) : Prop :=
  property = context.memberOf owner ownerId id property.type ∧
    context.Stands state (context.propertyType id) property.type

/-- What comes before the members of a model: nothing, or a discriminator that was made up. -/
inductive IsFront (state : State) (declared : Model) (owner : NodeId) (ownerId : String)
    (members : List Property) : List Property → Prop
  -- A model without a discriminator, or one that declares it, has nothing there.
  | nothing : IsFront state declared owner ownerId members []
  | discriminator {name : String} {string : NodeId}
      (discriminated : declared.discriminator = some name)
      (isString : state.builtins.get? .string = some string)
      (undeclared : ∀ member ∈ members, member.serializedName ≠ name) :
      IsFront state declared owner ownerId members
        [(discriminatorOf owner ownerId name string).unmarked]

/-- A model without marks has one property for each declared one that carries a value, in order. -/
def HasMembers (state : State) (declared : Model) (node : NodeId) (model : ModelNode) : Prop :=
  ∃ front members, model.properties = front ++ members ∧
    IsFront state declared node model.crossId members front ∧
    List.Forall₂ (context.IsMember state node model.crossId) (context.memberIds declared) members

/-! ## Subtypes -/

/-- A subtype as its base met it: its node, and the text by which it is known there. -/
abbrev Child := NodeId × Option String

/-- The subtypes that are known by a text, by those texts; where one comes again the last counts. -/
def subtypesOf (children : List Child) : OrderedMap String NodeId :=
  children.foldl
    (fun subtypes child => child.2.elim subtypes fun value => subtypes.insert value child.1) {}

/--
A subtype was met by its base.

It is known there by the text that it fixes, unless it was entered first and has led to its base
before its own properties were there.
-/
structure IsChild (state : State) (base : TypeId) (name : String) (derived : TypeId)
    (child : Child) : Prop where
  stands : context.Stands state derived child.1
  -- The other case is that of a subtype that is still to get its properties.
  text : child.2 = context.fixedText? derived name ∨ child.2 = none ∧
    context.MembersLead (context.definition.payloadType derived) base
  marked : child.2.isSome → (state.catalogue.nodeAt child.1).IsFlagged name ∧
    (state.catalogue.nodeAt child.1).IsValued

/-! ## Declarations -/

/-- A model without marks has its members, its base and its additional properties. -/
structure HasParts (state : State) (declared : Model) (node : NodeId) (model : ModelNode) :
    Prop where
  members : context.HasMembers state declared node model
  base : List.Forall₂ (context.Stands state) (context.baseType? declared).toList model.base.toList
  additional : List.Forall₂ (context.Stands state)
    (declared.additionalProperties.or (context.inheritedType? declared)).toList
    model.additionalProperties.toList

/-- A model without marks tells all that its declaration does. -/
structure RendersModel (state : State) (id : TypeId) (declared : Model) (node : NodeId)
    (model : ModelNode) : Prop extends HasParts context state declared node model where
  discriminator : model.discriminatorProperty = declared.discriminator
  flagged : ∀ name, declared.discriminator = some name →
    (state.catalogue.nodeAt node).IsFlagged name
  subtypes : ∀ name, declared.discriminator = some name →
    ∃ children, List.Forall₂ (context.IsChild state id name) declared.derived children ∧
      model.subtypes.getD {} = subtypesOf children

/-- A node of some kind tells what a declaration of some shape does. -/
inductive Renders (state : State) (id : TypeId) (node : NodeId) : Shape → NodeKind → Prop
  | scalar {scalar : Scalar} {builtin : BuiltinNode}
      (base : List.Forall₂ (context.Stands state) (scalarBaseType? scalar).toList
        builtin.base.toList) :
      Renders state id node (.scalar scalar) (.builtin builtin)
  | intrinsic {intrinsic : Intrinsic} {builtin : BuiltinNode} :
      Renders state id node (.intrinsic intrinsic) (.builtin builtin)
  | literal {constant : ConstantNode} :
      Renders state id node (.literal constant.value) (.constant constant)
  | enumeration {declared : Enumeration} {kind : EnumNode} :
      Renders state id node (.enumeration declared) (.enumeration kind)
  | member {declared : Service.Member} {kind : EnumValueNode}
      (value : kind.value = declared.value.getD (.text declared.name)) :
      Renders state id node (.member declared) (.enumValue kind)
  -- A union of nothing but null, or of nothing at all, has a primitive node.
  | empty {declared : Union} {builtin : BuiltinNode}
      (unvalued : context.valuedVariants declared = []) :
      Renders state id node (.union declared) (.builtin builtin)
  -- Only texts are left of a union that is flattened.
  | flattened {declared : Union} {kind : EnumNode}
      (flat : (context.flattening? declared).isSome) :
      Renders state id node (.union declared) (.enumeration kind)
  | union {declared : Union} {kind : UnionNode}
      (variants : List.Forall₂ (fun variant => context.Stands state variant.type)
        (context.valuedVariants declared) kind.variants) :
      Renders state id node (.union declared) (.union kind)
  | array {element : TypeId} {value : NodeId} (stands : context.Stands state element value) :
      Renders state id node (.array element) (.array value)
  | record {element : TypeId} {key value : NodeId}
      (isString : state.builtins.get? .string = some key)
      (stands : context.Stands state element value) :
      Renders state id node (.record element) (.dict key value)
  | model {declared : Model} {kind : ModelNode}
      (renders : context.RendersModel state id declared node kind) :
      Renders state id node (.model declared) (.model kind)

/-- A declaration is rendered: its node tells all of it. -/
def Rendered (state : State) (id : TypeId) (node : NodeId) : Prop :=
  context.Renders state id node (context.definition.shapeAt id)
    (state.catalogue.nodeAt node).plain.kind

end Context

/-! ## What is told lasts -/

/-- What a rendering relies on in one state is there in another. -/
structure Sustains (before after : State) : Prop where
  declared : ∀ id node, before.declared.get? id = some node → after.declared.get? id = some node
  builtins : ∀ kind node, before.builtins.get? kind = some node →
    after.builtins.get? kind = some node
  marks : ∀ node : NodeId, node.index < before.catalogue.size →
    (before.catalogue.nodeAt node).KeepsMarks (after.catalogue.nodeAt node)

/-- A later state of the derivation of nodes. -/
structure Later (context : Context) (before after : State) : Prop where
  grown : Grown before after
  path : Path context before after

variable {context : Context} {start first second third before after state : State}

namespace Later

/-- No move at all leads later. -/
theorem refl (state : State) : Later context state state :=
  ⟨.refl _, .refl⟩

/-- Moves follow each other. -/
theorem trans (left : Later context first second) (right : Later context second third) :
    Later context first third :=
  ⟨left.grown.trans right.grown, left.path.trans right.path⟩

/-- What holds of declarations and marks holds later as well. -/
theorem sustains (later : Later context before after) : Sustains before after where
  -- Nothing that is known is lost, and no move takes a mark back.
  declared := later.grown.declared
  builtins := later.grown.builtins
  marks _ inside := (path_keepsMarks later.path inside).2

end Later

/-- Only nodes in range carry marks. -/
theorem inside_of_flagged {catalogue : Catalogue} {node : NodeId} {name : String}
    (flagged : (catalogue.nodeAt node).IsFlagged name) : node.index < catalogue.size := by
  -- What is out of range reads as a node that is no model.
  by_contra outside
  obtain ⟨model, kind, _⟩ := flagged
  rw [Catalogue.nodeAt_of_ge _ (Nat.le_of_not_lt outside)] at kind
  cases kind

namespace Sustains

variable (sustains : Sustains before after)
include sustains

/-- A node that stands for a declared type still does. -/
theorem stands {id : TypeId} {node : NodeId} (stands : context.Stands before id node) :
    context.Stands after id node :=
  sustains.declared _ node stands

/-- Nodes that stand for declared types still do. -/
theorem all_stand {ids : List TypeId} {nodes : List NodeId}
    (stand : List.Forall₂ (context.Stands before) ids nodes) :
    List.Forall₂ (context.Stands after) ids nodes :=
  stand.imp fun _ _ => sustains.stands

/-- A flag that was set stays set. -/
theorem flagged {node : NodeId} {name : String}
    (flagged : (before.catalogue.nodeAt node).IsFlagged name) :
    (after.catalogue.nodeAt node).IsFlagged name :=
  (sustains.marks node (inside_of_flagged flagged)).flagged name flagged

/-- A property rendered from a declared one still is. -/
theorem isMember {owner : NodeId} {ownerId : String} {id : PropertyId} {property : Property}
    (member : context.IsMember before owner ownerId id property) :
    context.IsMember after owner ownerId id property :=
  ⟨member.1, sustains.stands member.2⟩

/-- An entry for a subtype still is one. -/
theorem isChild {base derived : TypeId} {name : String} {child : Context.Child}
    (isChild : context.IsChild before base name derived child) :
    context.IsChild after base name derived child where
  stands := sustains.stands isChild.stands
  text := isChild.text
  marked known := by
    -- A subtype that is known by a text is marked, and marks stay.
    obtain ⟨flagged, valued⟩ := isChild.marked known
    exact ⟨sustains.flagged flagged,
      (sustains.marks child.1 (inside_of_flagged flagged)).valued valued⟩

/-- The members that a model has are members later as well. -/
theorem hasMembers {declared : Model} {node : NodeId} {model : ModelNode}
    (has : context.HasMembers before declared node model) :
    context.HasMembers after declared node model := by
  obtain ⟨front, members, all, isFront, each⟩ := has
  refine ⟨front, members, all, ?_, each.imp fun _ _ => sustains.isMember⟩
  -- A discriminator that was made up holds texts, whose node stays the same.
  cases isFront with
  | nothing => exact .nothing
  | discriminator discriminated isString undeclared =>
    exact .discriminator discriminated (sustains.builtins _ _ isString) undeclared

/-- The parts of a model stay its parts. -/
theorem hasParts {declared : Model} {node : NodeId} {model : ModelNode}
    (parts : context.HasParts before declared node model) :
    context.HasParts after declared node model :=
  -- Each part is a list of nodes for types, and these stand.
  ⟨sustains.hasMembers parts.members, sustains.all_stand parts.base,
    sustains.all_stand parts.additional⟩

/-- A model renders its declaration later as well. -/
theorem rendersModel {id : TypeId} {declared : Model} {node : NodeId} {model : ModelNode}
    (renders : context.RendersModel before id declared node model) :
    context.RendersModel after id declared node model where
  toHasParts := sustains.hasParts renders.toHasParts
  discriminator := renders.discriminator
  flagged name discriminated := sustains.flagged (renders.flagged name discriminated)
  subtypes name discriminated := by
    obtain ⟨children, each, same⟩ := renders.subtypes name discriminated
    exact ⟨children, each.imp fun _ _ => sustains.isChild, same⟩

/-- What renders a declared shape does so later as well. -/
theorem renders {id : TypeId} {node : NodeId} {shape : Shape} {kind : NodeKind}
    (renders : context.Renders before id node shape kind) :
    context.Renders after id node shape kind := by
  -- By cases on the shape; each tells which references it relies on.
  cases renders with
  | scalar base => exact .scalar (sustains.all_stand base)
  | intrinsic => exact .intrinsic
  | literal => exact .literal
  | enumeration => exact .enumeration
  | member value => exact .member value
  | empty unvalued => exact .empty unvalued
  | flattened flat => exact .flattened flat
  | union variants => exact .union (variants.imp fun _ _ => sustains.stands)
  | array stands => exact .array (sustains.stands stands)
  | record isString stands =>
    exact .record (sustains.builtins _ _ isString) (sustains.stands stands)
  | model renders => exact .model (sustains.rendersModel renders)

/-- A declaration stays rendered as long as its node tells the same but for marks. -/
theorem rendered {id : TypeId} {node : NodeId} (rendered : context.Rendered before id node)
    (same : (after.catalogue.nodeAt node).plain = (before.catalogue.nodeAt node).plain) :
    context.Rendered after id node := by
  -- Only references are looked up in the state, and these are sustained.
  unfold Context.Rendered
  rw [same]
  exact sustains.renders rendered

end Sustains

/-! ## Derivations -/

/-- All declarations that were met since a start are rendered. -/
structure Derived (context : Context) (start state : State) : Prop where
  later : Later context start state
  rendered : ∀ id node, state.declared.get? id = some node →
    start.declared.get? id = some node ∨ context.Rendered state id node

instance : Leading (Orderly context) (Derived context) where
  refl state := ⟨.refl state, fun _ _ known => Or.inl known⟩
  sound orderly derived := orderly.path derived.later.path
  trans orderly left right := by
    refine ⟨left.later.trans right.later, fun id node known => ?_⟩
    -- A declaration was met on the first part of the way, or on the second.
    rcases right.rendered id node known with earlier | new
    · -- What was met on the first part of the way is still rendered after the second.
      refine (left.rendered id node earlier).imp_right fun rendered => ?_
      have inside := (orderly.path left.later.path).inside id node earlier
      exact right.later.sustains.rendered rendered (right.later.grown.nodes node inside)
    · exact Or.inr new

instance : Growing (Derived context) :=
  ⟨fun derived => derived.later.grown⟩

/-- That nodes are in range lasts. -/
theorem holds_lasting (ids : List NodeId) : Lasting fun state => state.catalogue.Holds ids :=
  fun _ _ holds grown => holds.mono grown.size

/-- That a builtin has a node lasts. -/
theorem lasting_of_builtin (kind : BuiltinKind) (node : NodeId) :
    Lasting fun state => state.builtins.get? kind = some node :=
  fun _ _ known grown => grown.builtins kind node known

namespace Lasts

section

variable {leads : State → State → Prop} [Growing leads]

instance holds (ids : List NodeId) : Lasts leads fun state => state.catalogue.Holds ids :=
  .of_lasting (holds_lasting ids)

instance builtin (kind : BuiltinKind) (node : NodeId) :
    Lasts leads fun state => state.builtins.get? kind = some node :=
  .of_lasting (lasting_of_builtin kind node)

instance stands (id : TypeId) (node : NodeId) :
    Lasts leads fun state => context.Stands state id node :=
  .of_lasting (Context.stands_lasting id node)

end

instance isMember (owner : NodeId) (ownerId : String) (id : PropertyId) (property : Property) :
    Lasts (Derived context) fun state => context.IsMember state owner ownerId id property :=
  ⟨fun _ _ isMember derived => derived.later.sustains.isMember isMember⟩

instance isChild (base : TypeId) (name : String) (derived : TypeId) (child : Context.Child) :
    Lasts (Derived context) fun state => context.IsChild state base name derived child :=
  ⟨fun _ _ isChild derived => derived.later.sustains.isChild isChild⟩

instance hasMembers (declared : Model) (node : NodeId) (model : ModelNode) :
    Lasts (Derived context) fun state => context.HasMembers state declared node model :=
  ⟨fun _ _ has derived => derived.later.sustains.hasMembers has⟩

instance hasParts (declared : Model) (node : NodeId) (model : ModelNode) :
    Lasts (Derived context) fun state => context.HasParts state declared node model :=
  ⟨fun _ _ parts derived => derived.later.sustains.hasParts parts⟩

end Lasts

end ClientModel.Derivation
