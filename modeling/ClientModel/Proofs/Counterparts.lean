import ClientModel.Proofs.Appending
import ClientModel.Proofs.Closure
import ClientModel.Proofs.Exports
import ClientModel.Proofs.Subtypes

/-!
Nodes of two runs that stand for the same declaration.

What a node leads to is told by the declaration that it stands for, so that two nodes which stand
for the same one lead to nodes which again do. A way through the nodes of one run can so be gone in
the other, where all that is declared for the first is declared for the second.
-/

namespace ClientModel

/-- What a key has for its value is one of the values. -/
theorem OrderedMap.mem_values_of_get? {α β : Type} [BEq α] [LawfulBEq α] {map : OrderedMap α β}
    {key : α} {value : β} (known : map.get? key = some value) : value ∈ map.values := by
  -- A map is a list of entries, and the lookup found one of them.
  obtain ⟨before, after, same, -⟩ := List.lookup_eq_some_iff.mp known
  rw [values, same]
  simp

namespace Derivation

open Relation (ReflTransGen)
open Service (Definition Model Shape Union Variant)

variable {context : Context} {state : State} {sparesBase : Bool} {id part : TypeId}
  {node next : NodeId}

/-! ## Ways that are declared -/

namespace Context

variable (context)

/-- A type hands all that it is used for over to another: its values, or the enum around it. -/
inductive Wraps (id : TypeId) : TypeId → Prop
  | array {element : TypeId} (shape : context.definition.shapeAt id = .array element) :
      Wraps id element
  | record {element : TypeId} (shape : context.definition.shapeAt id = .record element) :
      Wraps id element
  | member {member : Service.Member} (shape : context.definition.shapeAt id = .member member) :
      Wraps id member.parent

/-- A model or a union has a part of a type. A base only counts if it is not spared. -/
inductive Comprises (sparesBase : Bool) (id : TypeId) : TypeId → Prop
  | property {declared : Model} {property : PropertyId}
      (isModel : context.definition.model? id = some declared)
      (member : property ∈ context.memberIds declared) :
      Comprises sparesBase id (context.propertyType property)
  | additional {declared : Model} {value : TypeId}
      (isModel : context.definition.model? id = some declared)
      (given : declared.additionalProperties.or (context.inheritedType? declared) = some value) :
      Comprises sparesBase id value
  | base {declared : Model} {base : TypeId}
      (isModel : context.definition.model? id = some declared)
      (given : context.baseType? declared = some base) (counts : sparesBase = false) :
      Comprises sparesBase id base
  -- A base knows its subtypes by the texts that they fix.
  | subtype {declared : Model} {name value : String} {derived : TypeId}
      (isModel : context.definition.model? id = some declared)
      (discriminated : declared.discriminator = some name) (listed : derived ∈ declared.derived)
      (text : context.fixedText? derived name = some value) : Comprises sparesBase id derived
  | variant {union : Union} {variant : Variant}
      (shape : context.definition.shapeAt id = .union union)
      (open' : context.flattening? union = none)
      (listed : variant ∈ context.valuedVariants union) : Comprises sparesBase id variant.type

/--
A base tells those of its subtypes apart that fix a text.

No two of them fix the same one, and no property of theirs leads back to the base.
-/
def KeepsApart (base : TypeId) : Prop :=
  ∀ declared name, context.definition.model? base = some declared →
    declared.discriminator = some name → ∀ derived ∈ declared.derived, ∀ value,
      context.fixedText? derived name = some value →
        ¬ context.MembersLead (context.definition.payloadType derived) base ∧
          ∀ other ∈ declared.derived, context.fixedText? other name = some value →
            context.definition.payloadType other = context.definition.payloadType derived

end Context

/-! ## Ways through nodes -/

/-- In the end, every node of a declaration mirrors it. -/
theorem Context.Settled.mirrors_of_known (settled : context.Settled (fun _ => False) state)
    (known : state.declared.get? id = some node) :
    context.Mirrors state (context.definition.shapeAt id)
      (state.catalogue.nodeAt node).plain.kind :=
  ((settled.finished id node known).resolve_left fun isOpen => isOpen).mirrors

/-- A declaration of a node that is a model is one of a model. -/
theorem Context.Settled.mirrors_model (settled : context.Settled (fun _ => False) state)
    (known : state.declared.get? id = some node) {model : ModelNode}
    (kind : (state.catalogue.nodeAt node).kind = .model model) :
    ∃ declared, context.definition.model? id = some declared ∧
      context.MirrorsModel state declared model.plain := by
  -- Of all shapes only that of a model is mirrored by the kind of a model.
  have mirrors := settled.mirrors_of_known known
  rw [Node.plain, kind] at mirrors
  generalize shape : context.definition.shapeAt id = declared at mirrors
  cases mirrors with
  | model mirrors => exact ⟨_, model?_of_shapeAt shape, mirrors⟩

/-- The node of a model is one. -/
theorem Context.Settled.model_of_known (settled : context.Settled (fun _ => False) state)
    (known : state.declared.get? id = some node) {declared : Model}
    (isModel : context.definition.model? id = some declared) :
    ∃ model, (state.catalogue.nodeAt node).kind = .model model ∧
      context.MirrorsModel state declared model.plain := by
  -- Here the shape is known, and of all kinds only that of a model mirrors it.
  have mirrors := settled.mirrors_of_known known
  rw [shapeAt_of_model? isModel, Node.plain] at mirrors
  generalize (state.catalogue.nodeAt node).kind = kind at mirrors
  cases kind <;> cases mirrors
  exact ⟨_, rfl, ‹_›⟩

/-- What a node hands over to stands for what its declaration does. -/
theorem wraps_of_handsOver (settled : context.Settled (fun _ => False) state)
    (known : state.declared.get? id = some node) (hands : state.catalogue.HandsOver node next) :
    ∃ element, context.Wraps id element ∧ context.Stands state element next := by
  -- The node mirrors its declaration, so the kind of node tells the shape that was declared.
  have mirrors := settled.mirrors_of_known known
  generalize shape : context.definition.shapeAt id = declared at mirrors
  cases hands with
  | array kind =>
    rw [Node.plain, kind] at mirrors
    cases mirrors with
    | array stands => exact ⟨_, .array shape, stands⟩
  | dict kind =>
    rw [Node.plain, kind] at mirrors
    cases mirrors with
    | record stands => exact ⟨_, .record shape, stands⟩
  | enumValue kind =>
    rw [Node.plain, kind] at mirrors
    cases mirrors with
    | member value parent => exact ⟨_, .member shape, parent⟩

/-- What a declaration hands over to has a node to which its own one hands over. -/
theorem handsOver_of_wraps (settled : context.Settled (fun _ => False) state)
    (known : state.declared.get? id = some node) (wraps : context.Wraps id part) :
    ∃ next, state.catalogue.HandsOver node next ∧ context.Stands state part next := by
  -- The other way round: the shape tells the kind, and what is mirrored is handed over to.
  have mirrors := settled.mirrors_of_known known
  rw [Node.plain] at mirrors
  generalize kind : (state.catalogue.nodeAt node).kind = found at mirrors
  cases wraps with
  | array shape =>
    rw [shape] at mirrors
    cases found <;> cases mirrors
    exact ⟨_, .array kind, ‹_›⟩
  | record shape =>
    rw [shape] at mirrors
    cases found <;> cases mirrors
    exact ⟨_, .dict kind, ‹_›⟩
  | member shape =>
    rw [shape] at mirrors
    cases found <;> cases mirrors
    exact ⟨_, .enumValue kind, ‹_›⟩

/-- What a node refers to is primitive, or stands for a part of its declaration. -/
theorem comprises_of_refersTo (consistent : Consistent context state)
    (settled : context.Settled (fun _ => False) state) (known : state.declared.get? id = some node)
    (refers : state.catalogue.RefersTo sparesBase node next) :
    (state.catalogue.nodeAt next).kind.label = "builtin" ∨
      ∃ part, context.Comprises sparesBase id part ∧ context.Stands state part next := by
  -- One case per kind of reference, each read in what the node mirrors of its declaration.
  cases refers with
  | @property model property kind member =>
    obtain ⟨declared, isModel, mirrors⟩ := settled.mirrors_model known kind
    obtain ⟨slots, all, members⟩ := mirrors.members
    rw [model.slots_plain] at all
    have listed : (property.serializedName, property.type) ∈ model.slots :=
      List.mem_map_of_mem member
    -- The property was declared, or it is the discriminator that was made up.
    have cases' : (property.serializedName, property.type) ∈ slots ∨
        state.builtins.get? .string = some property.type := by
      rcases all with same | ⟨name, string, -, same, isString⟩
      · exact Or.inl (same ▸ listed)
      · rw [same] at listed
        rcases List.mem_cons.mp listed with front | other
        · exact Or.inr ((Prod.mk.inj front).2 ▸ isString)
        · exact Or.inl other
    rcases cases' with isSlot | isString
    · obtain ⟨declaredId, isMember, -, stands⟩ := partner_of_mem members.flip isSlot
      exact Or.inr ⟨_, .property isModel isMember, stands⟩
    · obtain ⟨-, builtin, isBuiltin⟩ := settled.builtins _ _ isString
      refine Or.inl ?_
      rw [← Node.label_plain, isBuiltin]
      rfl
  | additional kind given =>
    obtain ⟨declared, isModel, mirrors⟩ := settled.mirrors_model known kind
    obtain ⟨part, isPart, stands⟩ :=
      partner_of_mem mirrors.additional.flip (Option.mem_toList.mpr given)
    exact Or.inr ⟨part, .additional isModel (Option.mem_toList.mp isPart), stands⟩
  | base kind given counts =>
    obtain ⟨declared, isModel, mirrors⟩ := settled.mirrors_model known kind
    obtain ⟨part, isPart, stands⟩ := partner_of_mem mirrors.base.flip (Option.mem_toList.mpr given)
    exact Or.inr ⟨part, .base isModel (Option.mem_toList.mp isPart) counts, stands⟩
  | @subtype model subtypes _ kind given member =>
    obtain ⟨declared, isModel, mirrors⟩ := settled.mirrors_model known kind
    cases discriminated : declared.discriminator with
    | none =>
      -- Without a discriminator there are no subtypes to tell of.
      have none := mirrors.subtypes
      rw [discriminated] at none
      rw [show model.subtypes = Option.none from none] at given
      cases given
    | some name =>
      obtain ⟨found, children, isFound, each, same⟩ :=
        exists_children isModel discriminated consistent known
      rw [Catalogue.model?, Node.model?, kind] at isFound
      cases isFound
      rw [given, Option.getD_some] at same
      obtain ⟨value, isChild⟩ := mem_values_subtypesOf (same ▸ member)
      obtain ⟨derived, listed, child⟩ := partner_of_mem each.flip isChild
      -- A subtype that is listed is known by the text that it fixes.
      have text : context.fixedText? derived name = some value :=
        (child.text.resolve_right fun missing => Option.some_ne_none value missing.1).symm
      exact Or.inr ⟨derived, .subtype isModel discriminated listed text, child.stands⟩
  | variant kind member =>
    -- The node of an open union that is no enum mirrors its variants one by one.
    have mirrors := settled.mirrors_of_known known
    rw [Node.plain, kind] at mirrors
    generalize shape : context.definition.shapeAt id = declared at mirrors
    cases mirrors with
    | union some open' unused variants =>
      obtain ⟨variant, listed, stands⟩ := partner_of_mem variants.flip member
      exact Or.inr ⟨_, .variant shape open' listed, stands⟩

/-- A subtype that its base tells apart is among those that the node of the base lists. -/
theorem refersTo_subtype (consistent : Consistent context state)
    (settled : context.Settled (fun _ => False) state) (known : state.declared.get? id = some node)
    (tells : context.KeepsApart id) {declared : Model} {name value : String}
    (isModel : context.definition.model? id = some declared)
    (discriminated : declared.discriminator = some name) (listed : part ∈ declared.derived)
    (text : context.fixedText? part name = some value) :
    ∃ next, state.catalogue.RefersTo sparesBase node next ∧ context.Stands state part next := by
  -- Two subtypes of one text are told apart by the definition, so the map has both of them.
  obtain ⟨apart, alone⟩ := tells declared name isModel discriminated part listed value text
  obtain ⟨model, children, isNode, each, same⟩ :=
    exists_children isModel discriminated consistent known
  obtain ⟨child, isListed, isChild⟩ := partner_of_mem each listed
  have isText : child.2 = some value :=
    (isChild.text.resolve_right fun missing => apart missing.2).trans text
  have found : (Context.subtypesOf children).get? value = some child.1 := by
    refine get?_subtypesOf (by rwa [← isText]) fun other isOther otherText => ?_
    -- What has the same text is of the same payload, which has one node.
    obtain ⟨type, isType, otherChild⟩ := partner_of_mem each.flip isOther
    rcases otherChild.text with fixes | ⟨none, _⟩
    · have payload := alone type isType (fixes.symm.trans otherText)
      have stands := otherChild.stands
      rw [Context.Stands, payload] at stands
      exact Option.some.inj (stands.symm.trans isChild.stands)
    · rw [none] at otherText
      cases otherText
  rw [← same] at found
  cases given : model.subtypes with
  | none =>
    rw [given] at found
    cases found
  | some subtypes =>
    rw [given, Option.getD_some] at found
    obtain ⟨found', kind, -⟩ := settled.model_of_known known isModel
    rw [Catalogue.model?, Node.model?, kind] at isNode
    cases isNode
    exact ⟨child.1, .subtype kind given (OrderedMap.mem_values_of_get? found), isChild.stands⟩

/-- A part of a declaration has a node to which its own one refers. -/
theorem refersTo_of_comprises (consistent : Consistent context state)
    (settled : context.Settled (fun _ => False) state) (known : state.declared.get? id = some node)
    (tells : context.KeepsApart id) (comprises : context.Comprises sparesBase id part) :
    ∃ next, state.catalogue.RefersTo sparesBase node next ∧ context.Stands state part next := by
  -- One case per kind of part; each is found where the node mirrors its declaration.
  cases comprises with
  | property isModel member =>
    obtain ⟨model, kind, mirrors⟩ := settled.model_of_known known isModel
    obtain ⟨slots, all, members⟩ := mirrors.members
    rw [model.slots_plain] at all
    obtain ⟨slot, isSlot, -, stands⟩ := partner_of_mem members member
    -- A discriminator that was made up comes before those that were declared.
    have listed : slot ∈ model.slots := by
      rcases all with same | ⟨name, string, -, same, -⟩
      · exact same ▸ isSlot
      · exact same ▸ List.mem_cons_of_mem _ isSlot
    obtain ⟨property, isProperty, rfl⟩ := List.mem_map.mp listed
    exact ⟨_, .property kind isProperty, stands⟩
  | additional isModel given =>
    obtain ⟨model, kind, mirrors⟩ := settled.model_of_known known isModel
    obtain ⟨next, isNext, stands⟩ :=
      partner_of_mem mirrors.additional (Option.mem_toList.mpr given)
    exact ⟨next, .additional kind (Option.mem_toList.mp isNext), stands⟩
  | base isModel given counts =>
    obtain ⟨model, kind, mirrors⟩ := settled.model_of_known known isModel
    obtain ⟨next, isNext, stands⟩ := partner_of_mem mirrors.base (Option.mem_toList.mpr given)
    exact ⟨next, .base kind (Option.mem_toList.mp isNext) counts, stands⟩
  | subtype isModel discriminated listed text =>
    exact refersTo_subtype consistent settled known tells isModel discriminated listed text
  | @variant union variant shape open' listed =>
    have mirrors := settled.mirrors_of_known known
    rw [Node.plain] at mirrors
    generalize kind : (state.catalogue.nodeAt node).kind = found at mirrors
    rw [shape] at mirrors
    cases found <;> cases mirrors
    case variant.builtin.empty none => simp [none] at listed
    case variant.enumeration.flattened flat _ => simp [open'] at flat
    case variant.union.union variants =>
      obtain ⟨next, isNext, stands⟩ := partner_of_mem variants listed
      exact ⟨next, .variant kind isNext, stands⟩

/-! ## Declarations of two runs -/

namespace Context.ExtendsTo

variable {larger : Context} (extends' : context.ExtendsTo larger)
  (there : context.definition.Declares (.type id))
include extends' there

/-- Whatever a declaration hands over to it still does. -/
theorem wraps (wraps : context.Wraps id part) :
    larger.Wraps id part ∧ context.definition.Declares (.type part) := by
  -- A shape other than a model is the same in the larger definition, and cites what is declared.
  have shapeAt (plain : context.definition.model? id = none) :=
    extends'.appends.shapeAt_eq there plain
  have cited {shape : Shape} (same : context.definition.shapeAt id = shape)
      (cites : .type part ∈ shape.cites) : context.definition.Declares (.type part) :=
    extends'.closed.shapeAt there _ (same ▸ cites)
  cases wraps with
  | array shape =>
    refine ⟨.array ?_, cited shape (by simp [Shape.cites])⟩
    rw [shapeAt (by simp [Definition.model?, shape]), shape]
  | record shape =>
    refine ⟨.record ?_, cited shape (by simp [Shape.cites])⟩
    rw [shapeAt (by simp [Definition.model?, shape]), shape]
  | member shape =>
    refine ⟨.member ?_, cited shape (by simp [Shape.cites])⟩
    rw [shapeAt (by simp [Definition.model?, shape]), shape]

/-- Whatever is a part of a declaration still is. -/
theorem comprises (comprises : context.Comprises sparesBase id part) :
    larger.Comprises sparesBase id part ∧ context.definition.Declares (.type part) := by
  have closed := extends'.closed
  -- A model in the larger definition may have more subtypes, but is the same otherwise.
  have isModelWide {declared : Model} (isModel : context.definition.model? id = some declared) :
      ∃ more, larger.definition.model? id =
        some { declared with derived := declared.derived ++ more } := by
    obtain ⟨more, -, same⟩ := extends'.appends.model?_eq there
    exact ⟨more, by rw [same, isModel, Option.map_some]⟩
  -- One case per kind of part: it reads the same in the larger definition, and lies within the
  -- smaller one.
  cases comprises with
  | property isModel member =>
    obtain ⟨more, still⟩ := isModelWide isModel
    have inside := closed.property isModel (List.mem_filter.mp member).1
    refine ⟨?_, closed.propertyType inside⟩
    rw [← extends'.propertyType_eq inside]
    exact .property still (by rwa [extends'.memberIds_eq isModel])
  | @additional declared value isModel given =>
    obtain ⟨more, still⟩ := isModelWide isModel
    refine ⟨.additional still (by rwa [extends'.inheritedType?_eq isModel]), ?_⟩
    -- The value is its own, or that of a record which it extends.
    cases own : declared.additionalProperties with
    | some value =>
      rw [own, Option.some_or] at given
      cases given
      exact closed.model? isModel _ (by simp [Shape.cites, own])
    | none =>
      rw [own, Option.none_or] at given
      obtain ⟨base, isBase, inherited⟩ := Option.bind_eq_some_iff.mp given
      split at inherited
      · rename_i value shape
        cases inherited
        exact closed.shapeAt (closed.base isModel isBase) _ (by simp [shape, Shape.cites])
      · cases inherited
  | base isModel given counts =>
    obtain ⟨more, still⟩ := isModelWide isModel
    refine ⟨.base still (by rwa [extends'.baseType?_eq isModel]) counts, ?_⟩
    exact closed.base isModel (Option.filter_eq_some_iff.mp given).1
  | subtype isModel discriminated listed text =>
    -- Another subtype may have come after, which does not take this one from the list.
    obtain ⟨more, still⟩ := isModelWide isModel
    have inside : context.definition.Declares (.type part) :=
      closed.model? isModel _ (by simp [Shape.cites, listed])
    rw [← extends'.fixedText?_eq inside] at text
    exact ⟨.subtype still discriminated (List.mem_append_left _ listed) text, inside⟩
  | variant shape open' listed =>
    refine ⟨.variant ?_ (by rwa [extends'.flattening?_eq shape there])
      (by rwa [extends'.valuedVariants_eq shape there]),
      declares_variant shape there closed (List.mem_filter.mp listed).1⟩
    rw [extends'.appends.shapeAt_eq there (by simp [Definition.model?, shape]), shape]

end Context.ExtendsTo

/-! ## Counterparts -/

/-- Both nodes stand for one declaration of the first definition, each in its own run. -/
def Counterparts (context : Context) (state wide : State) (node other : NodeId) : Prop :=
  ∃ id, context.definition.Declares (.type id) ∧ state.declared.get? id = some node ∧
    wide.declared.get? id = some other

/--
Two runs have ended, the second one on a definition with one operation more.

Of every old base, the second run tells the subtypes apart that fix a text.
-/
structure Parallel (context larger : Context) (state wide : State) : Prop where
  extends' : context.ExtendsTo larger
  consistent : Consistent context state
  settled : context.Settled (fun _ => False) state
  consistentWide : Consistent larger wide
  settledWide : larger.Settled (fun _ => False) wide
  apart : ∀ base, context.definition.Declares (.type base) → larger.KeepsApart base

namespace Parallel

variable {larger : Context} {wide : State} {other target : NodeId}
  (parallel : Parallel context larger state wide)
include parallel

/-- What stands for a type that is old in both runs is each other's counterpart. -/
theorem counterparts (there : context.definition.Declares (.type part))
    (left : context.Stands state part node) (right : larger.Stands wide part other) :
    Counterparts context state wide node other := by
  -- An old type has the same payload in the larger definition, so both nodes stand for one
  -- declaration.
  rw [Context.Stands, parallel.extends'.payloadType_eq there] at right
  exact ⟨_, Definition.declares_payloadType there, left, right⟩

/-- What a node hands over to has a counterpart to which its own counterpart hands over. -/
theorem handsOver (both : Counterparts context state wide node other)
    (hands : state.catalogue.HandsOver node next) :
    ∃ further, wide.catalogue.HandsOver other further ∧
      Counterparts context state wide next further := by
  -- Through the declarations: what is handed over to there is handed over to in both runs.
  obtain ⟨id, there, known, knownWide⟩ := both
  obtain ⟨element, wraps, stands⟩ := wraps_of_handsOver parallel.settled known hands
  obtain ⟨wrapsWide, inside⟩ := parallel.extends'.wraps there wraps
  obtain ⟨further, handsWide, standsWide⟩ :=
    handsOver_of_wraps parallel.settledWide knownWide wrapsWide
  exact ⟨further, handsWide, parallel.counterparts inside stands standsWide⟩

/-- What a node refers to has a counterpart to which its own refers, unless it is a builtin. -/
theorem refersTo (both : Counterparts context state wide node other)
    (refers : state.catalogue.RefersTo sparesBase node next) :
    (state.catalogue.nodeAt next).kind.label = "builtin" ∨
      ∃ further, wide.catalogue.RefersTo sparesBase other further ∧
        Counterparts context state wide next further := by
  -- Through the declarations again, where builtin types have none that they stand for.
  obtain ⟨id, there, known, knownWide⟩ := both
  refine (comprises_of_refersTo parallel.consistent parallel.settled known refers).imp_right ?_
  rintro ⟨part, comprises, stands⟩
  obtain ⟨comprisesWide, inside⟩ := parallel.extends'.comprises there comprises
  obtain ⟨further, refersWide, standsWide⟩ := refersTo_of_comprises parallel.consistentWide
    parallel.settledWide knownWide (parallel.apart id there) comprisesWide
  exact ⟨further, refersWide, parallel.counterparts inside stands standsWide⟩

/-! ## Ways of two runs -/

/-- Where a node forwards to, its counterpart forwards to the counterpart of that. -/
theorem forwards (both : Counterparts context state wide node other)
    (way : state.catalogue.Forwards node next) :
    ∃ further, wide.catalogue.Forwards other further ∧
      Counterparts context state wide next further := by
  -- Step by step, with the counterparts side by side.
  induction way with
  | refl => exact ⟨other, .refl, both⟩
  | tail _ hands ih =>
    obtain ⟨middle, way, bothMiddle⟩ := ih
    obtain ⟨further, handsWide, bothNext⟩ := parallel.handsOver bothMiddle hands
    exact ⟨further, way.tail handsWide, bothNext⟩

/-- A way can be gone in the second run as well, unless it ends at a builtin type. -/
theorem leads (both : Counterparts context state wide node other)
    (way : ReflTransGen (state.catalogue.Leads sparesBase) node next) :
    (state.catalogue.nodeAt next).kind.label = "builtin" ∨
      ∃ further, ReflTransGen (wide.catalogue.Leads sparesBase) other further ∧
        Counterparts context state wide next further := by
  -- Step by step; a way that has come to a builtin type cannot go on.
  induction way with
  | refl => exact Or.inr ⟨other, .refl, both⟩
  | tail _ step ih =>
    rcases ih with inert | ⟨middle, way, bothMiddle⟩
    · exact absurd step (not_leads_of_label (Or.inl inert))
    · rcases step with hands | refers
      · obtain ⟨further, handsWide, bothNext⟩ := parallel.handsOver bothMiddle hands
        exact Or.inr ⟨further, way.tail (Or.inl handsWide), bothNext⟩
      · refine (parallel.refersTo bothMiddle refers).imp_right ?_
        rintro ⟨further, refersWide, bothNext⟩
        exact ⟨further, way.tail (Or.inr refersWide), bothNext⟩

/-- What a node includes has a counterpart that its own includes, unless it is a builtin. -/
theorem includes (both : Counterparts context state wide node other)
    (way : state.catalogue.Includes sparesBase node next) :
    (state.catalogue.nodeAt next).kind.label = "builtin" ∨
      ∃ further, wide.catalogue.Includes sparesBase other further ∧
        Counterparts context state wide next further := by
  -- A way to a part, a reference, and a way from there: each is gone in the second run too.
  obtain ⟨composite, part, before, refers, after⟩ := way
  rcases parallel.leads both before with inert | ⟨middle, beforeWide, bothMiddle⟩
  · exact absurd (Or.inr refers) (not_leads_of_label (Or.inl inert))
  rcases parallel.refersTo bothMiddle refers with inert | ⟨inner, refersWide, bothInner⟩
  · -- What leads nowhere is the end of the way.
    rcases ReflTransGen.cases_head after with rfl | ⟨_, step, _⟩
    · exact Or.inl inert
    · exact absurd step (not_leads_of_label (Or.inl inert))
  · refine (parallel.leads bothInner after).imp_right ?_
    rintro ⟨further, afterWide, bothNext⟩
    exact ⟨further, ⟨middle, inner, beforeWide, refersWide, afterWide⟩, bothNext⟩

/-- What a seed brings to a node, one of a counterpart with all of its usage brings as well. -/
theorem brings {seed more : Seed} (types : Counterparts context state wide seed.type more.type)
    {way : Nat} (has : seed.usage.Has way → more.usage.Has way)
    (brings : seed.Brings state.catalogue sparesBase node way)
    (noPrimitive : (state.catalogue.nodeAt node).kind.label ≠ "builtin") :
    ∃ target, Counterparts context state wide node target ∧
      more.Brings wide.catalogue sparesBase target way := by
  -- A seed brings its usage to where it is forwarded, and to what is included there.
  rcases brings with ⟨forwards, had⟩ | ⟨includes, had, notSpread⟩
  · obtain ⟨target, forwardsWide, both⟩ := parallel.forwards types forwards
    exact ⟨target, both, Or.inl ⟨forwardsWide, has had⟩⟩
  · obtain ⟨target, includesWide, both⟩ :=
      (parallel.includes types includes).resolve_left noPrimitive
    exact ⟨target, both, Or.inr ⟨includesWide, has had, notSpread⟩⟩

end Parallel

end Derivation

end ClientModel
