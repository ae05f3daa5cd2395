import ClientModel.Proofs.Entering

/-!
Deriving the nodes of declarations other than models.

Shape by shape, a derivation renders whatever it enters and comes back with the node of its own
declaration, provided that the derivations of other types do so.
-/

namespace ClientModel.Derivation

open Service (Definition Enumeration Intrinsic Literal Model Scalar Shape Union Variant)

variable {context : Context} {start : State}

/-- A derivation renders what it enters, and comes back with the node of its declaration. -/
def Enters (context : Context) (id : TypeId) (step : Derive NodeId) : Prop :=
  ∀ start, Orderly context start → context.Ready id start →
    Ensures (· = start) step
      (fun node state => Derived context start state ∧ state.declared.get? id = some node)
      fun _ _ => True

/-- What conveys the node of a type from any start enters it. -/
theorem Enters.of_conveys {id : TypeId} {step : Derive NodeId}
    (conveys : Conveys (Derived context) (context.Ready id) step
      fun node state => state.declared.get? id = some node) : Enters context id step :=
  -- Being ready is all that is asked of the start.
  fun start orderly ready => (conveys start orderly).weaken
    (fun _ same => ⟨same, same ▸ ready⟩) (fun _ _ ends => ends) fun _ _ _ => trivial

/-- What a derivation conveys may be told from the state that it starts in. -/
theorem Conveys.from_start {α : Type} {needed : State → Prop} {step : Derive α}
    {told : α → State → Prop} (conveys : Conveys (Derived context) needed step told)
    (orderly : Orderly context start) (has : needed start) :
    Ensures (· = start) step (fun value state => Derived context start state ∧ told value state)
      fun _ _ => True :=
  -- The start is one state with what is needed, so what is conveyed from any such state is conveyed
  -- from it.
  (conveys start orderly).weaken (fun _ same => ⟨same, same ▸ has⟩) (fun _ _ ends => ends)
    fun _ _ _ => trivial

/-- Nodes are in range if each of them is. -/
theorem holds_of_forall₂ {β : Type} {catalogue : Catalogue} {list : List β} {ids : List NodeId}
    (all : List.Forall₂ (fun _ id => catalogue.Holds [id]) list ids) : catalogue.Holds ids := by
  intro id member
  -- Each node comes with the entry that it was derived for.
  obtain ⟨entry, _, holds⟩ := partner_of_mem all.flip member
  exact holds id (List.mem_singleton_self id)

/-! ## Types without references -/

/-- A declaration of the shape declares a model. -/
def declaresModel : Shape → Bool
  | .model _ => true
  | _ => false

/-- A declaration of the shape declares an intrinsic type. -/
def declaresIntrinsic : Shape → Bool
  | .intrinsic _ => true
  | _ => false

/-- Whether a node suits a declaration is told by the shape of the declaration. -/
theorem suits_of_shape {id : TypeId} {shape : Shape} {node : Node}
    (isShape : context.definition.shapeAt id = shape)
    (text : Node.constantText? node = shapeText? shape)
    (model : node.model?.isSome = declaresModel shape)
    (composed : declaresIntrinsic shape = false) : context.Suits id node := by
  -- Of the shapes only that of an intrinsic type asks for a primitive node.
  subst isShape
  refine ⟨text, model.trans ?_, fun intrinsic isIntrinsic => ?_⟩
  · unfold Definition.model?
    cases context.definition.shapeAt id <;> rfl
  · rw [isIntrinsic] at composed
    cases composed

/-- A builtin type suits whatever is neither a model nor fixes a text. -/
theorem suits_of_primitive {id : TypeId} {node : Node} {builtin : BuiltinNode}
    (isBuiltin : node.kind = .builtin builtin)
    (text : shapeText? (context.definition.shapeAt id) = none)
    (plain : context.definition.model? id = none) : context.Suits id node where
  text := by simp [Node.constantText?, isBuiltin, text]
  model := by simp [Node.model?, isBuiltin, plain]
  primitive _ _ := ⟨builtin, isBuiltin⟩

/-- A declaration shares the node of everything that may hold anything. -/
theorem shareNode_enters {id : TypeId} {name : String}
    (text : shapeText? (context.definition.shapeAt id) = none)
    (plain : context.definition.model? id = none)
    (renders : ∀ state node builtin,
      context.Renders state id node (context.definition.shapeAt id) (.builtin builtin)) :
    Conveys (Derived context) (fun _ => True)
      (do let node ← builtinNode .any name; remember id node; return node)
      fun node state => state.declared.get? id = some node := by
  refine (builtinNode_conveys .any name).bind fun node start orderly => remember_ensures ?_
  -- The node is known as the primitive one of its kind, which no declaration owns.
  rintro state ⟨rfl, known⟩ same
  obtain ⟨inside, _, builtin, isBuiltin, _⟩ := orderly.builtins _ _ known
  exact Derived.share inside same isBuiltin (suits_of_primitive isBuiltin text plain)
    (renders _ _ _)

/-- The node of an intrinsic type is known for it. -/
theorem intrinsicNode_enters {id : TypeId} {intrinsic : Intrinsic}
    (shape : context.definition.shapeAt id = .intrinsic intrinsic) :
    Conveys (Derived context) (fun _ => True) (Context.intrinsicNode id intrinsic)
      fun node state => state.declared.get? id = some node := by
  have text : shapeText? (context.definition.shapeAt id) = none := by simp [shape, shapeText?]
  have plain : context.definition.model? id = none := by simp [Definition.model?, shape]
  unfold Context.intrinsicNode
  -- What may hold anything has a node that all such declarations share; others get their own.
  split
  · exact shareNode_enters text plain fun _ _ _ => by rw [shape]; exact .intrinsic
  · refine register_conveys rfl (suits_of_primitive rfl text plain) (Lasting.const _) ?_ ?_
    · exact fun _ _ _ => by simp [NodeKind.nodeIds]
    · exact fun _ _ _ => by rw [shape]; exact .intrinsic

/-- The node of a literal is known for it. -/
theorem literalNode_enters {id : TypeId} {value : Literal}
    (shape : context.definition.shapeAt id = .literal value) :
    Conveys (Derived context) (fun _ => True) (Context.literalNode id value)
      fun node state => state.declared.get? id = some node := by
  intro start orderly
  unfold Context.literalNode
  -- The constant might as well have been added with the declaration that it comes from.
  refine Ensures.via (fun added state => added = ⟨start.catalogue.size⟩ ∧
    ∃ constant : ConstantNode, constant.value = value ∧ state =
      { start with catalogue := start.catalogue.push { kind := .constant constant } })
    (Ensures.addNode ?_) fun added => ?_
  · rintro state ⟨rfl, _⟩
    exact ⟨rfl, _, rfl, rfl⟩
  refine Ensures.via (fun _ state => added = ⟨start.catalogue.size⟩ ∧
    ∃ constant : ConstantNode, constant.value = value ∧ state =
      { start with
        catalogue := start.catalogue.push { origin := some id, kind := .constant constant } })
    (Ensures.modifyNode ?_) fun _ => ?_
  · rintro state ⟨rfl, constant, isValue, rfl⟩
    exact ⟨rfl, constant, isValue, by simp only [Catalogue.modify_push_self]⟩
  -- What was added and then given its declaration reads as if it had been added with it.
  refine remember_ensures ?_
  rintro state ⟨rfl, constant, rfl, rfl⟩ fresh
  refine Derived.register rfl fresh (suits_of_shape shape rfl rfl rfl) ?_ ?_
  · simp [NodeKind.nodeIds]
  · rw [shape]
    exact .literal

/-! ## Enums -/

/-- The values of an enum that was entered are noted on it. -/
theorem noteValues_ensures (orderly : Orderly context start) {id : TypeId} {node : NodeId}
    {kind : EnumNode} {values : List NodeId} :
    Ensures (fun state => Entered context start id node (.enumeration kind) state ∧
        state.catalogue.Holds values)
      (modifyNode node fun parent => parent.mapEnumeration ({ · with values }))
      (fun _ => Entered context start id node (.enumeration kind)) fun _ _ => True := by
  refine Ensures.modifyNode ?_
  rintro state ⟨entered, inside⟩
  -- The node shows an enum, so that it is one.
  obtain ⟨own, isOwn⟩ : ∃ own, (state.catalogue.nodeAt node).kind = .enumeration own := by
    have shows' := entered.shows.2
    cases isKind : (state.catalogue.nodeAt node).kind <;>
      simp [Node.plain, NodeKind.plain, isKind] at shows'
    exact ⟨_, rfl⟩
  -- Enums bear no marks, and the values that are noted are all there.
  refine (entered.change orderly ?_ ?_ (Node.label_mapEnumeration _ _) ?_
    (.of_unmarked (by simp [isOwn])) ?_).1
  · simp [Node.mapEnumeration, isOwn]
  · simp [Node.carriesUsage, Node.usage?, isOwn]
  · simpa [Node.mapEnumeration, isOwn, NodeKind.nodeIds] using inside
  · rw [Node.plain_mapEnumeration]
    exact entered.shows.2

/-- The node of an enumeration enters it, with all its members. -/
theorem enumerationNode_enters {id : TypeId} {enumeration : Enumeration}
    (shape : context.definition.shapeAt id = .enumeration enumeration) :
    Enters context id (context.enumerationNode id enumeration) := by
  -- Each member is rendered as soon as it is met, with the node of the enum in place.
  have member (node : NodeId) (entry : TypeId × Service.Member) (value : EnumValueNode)
      (memberShape : context.definition.shapeAt entry.1 = .member entry.2)
      (isValue : value.value = entry.2.value.getD (.text entry.2.name))
      (parent : value.enumeration = node) :
      Conveys (Derived context) (fun state => state.catalogue.Holds [node])
        (do
          let added ← addNode { origin := some entry.1, kind := .enumValue value }
          remember entry.1 added
          return added)
        fun added state => state.catalogue.Holds [added] := by
    refine (register_conveys rfl (suits_of_shape memberShape ?_ rfl rfl) (holds_lasting [node])
      ?_ ?_).ending ?_
    · simp [Node.constantText?, shapeText?, isValue]
    · intro state _ holds
      rw [← parent] at holds
      exact holds
    · intro state added _
      rw [memberShape]
      exact .member isValue
    · exact fun added state orderly known =>
        Catalogue.holds_singleton.mpr (orderly.inside _ _ known)
  intro start orderly ready
  unfold Context.enumerationNode
  dsimp only
  -- The enum is entered first; its node lists no members until all of them have a node.
  refine Ensures.starting (enter_ensures orderly rfl
    (suits_of_shape shape rfl rfl rfl) rfl fun node => ?_) ?_
  · refine Entered.bind orderly (Conveys.mapM _ fun entry listed => member node entry _ ?_ rfl rfl)
      (fun _ _ holds => holds) fun values => ?_
    · obtain ⟨listedId, _, found⟩ := List.mem_filterMap.mp listed
      split at found
      · rename_i memberShape
        cases found
        exact memberShape
      · cases found
    -- The members are noted on the enum, which renders it.
    · refine Ensures.bind ((noteValues_ensures orderly).starting fun state ends =>
        ⟨ends.1, holds_of_forall₂ ends.2⟩) fun _ => Ensures.pure fun state entered => ?_
      exact ⟨entered.close (by
        rw [Context.Rendered, shape, entered.shows.2]
        exact .enumeration), entered.known⟩
  · rintro state rfl
    exact Leading.refl _

/-- The node of a union of texts enters it, with its values. -/
theorem flattenedNode_enters {id : TypeId} {union : Union}
    (shape : context.definition.shapeAt id = .union union)
    (flat : (context.flattening? union).isSome) (nullable : Bool)
    (literals : List (String × String)) (isFixed : Bool) :
    Enters context id (context.flattenedNode id union nullable literals isFixed) := by
  -- The values of a flattened union come from no declaration.
  have literal (node : NodeId) (value : EnumValueNode) (parent : value.enumeration = node) :
      Conveys (Derived context) (fun state => state.catalogue.Holds [node])
        (addNode { kind := .enumValue value })
        fun added state => state.catalogue.Holds [added] := by
    intro start orderly
    refine Ensures.addNode ?_
    rintro state ⟨rfl, holds⟩
    rw [← parent] at holds
    exact ⟨Derived.add rfl (fun _ isBuiltin => by cases isBuiltin) holds, by simp⟩
  intro start orderly ready
  unfold Context.flattenedNode
  dsimp only
  -- A name may have to be made up before the union is entered.
  refine Ensures.bind ((nameOrGenerated_conveys id union.name).from_start orderly trivial)
    fun name => Ensures.starting (enter_ensures orderly rfl
      (suits_of_shape shape rfl rfl rfl) rfl fun node => ?_) fun _ derived => derived.1
  refine Entered.bind orderly (Conveys.mapM _ fun entry _ => literal node _ rfl)
    (fun _ _ holds => holds) fun values => ?_
  refine Ensures.bind ((noteValues_ensures orderly).starting fun state ends =>
    ⟨ends.1, holds_of_forall₂ ends.2⟩) fun _ => Ensures.pure fun state entered => ?_
  exact ⟨entered.close (by
    rw [Context.Rendered, shape, entered.shows.2]
    exact .flattened flat), entered.known⟩

/-! ## Types made from others -/

/-- The variants of a union that was entered are noted on it, and it is rendered. -/
theorem noteVariants_ensures {id : TypeId} {union : Union}
    (shape : context.definition.shapeAt id = .union union) (orderly : Orderly context start)
    {node : NodeId} {kind : UnionNode} {variants : List NodeId} :
    Ensures (fun state => Entered context start id node (.union kind) state ∧
        List.Forall₂ (fun variant => context.Stands state variant.type)
          (context.valuedVariants union) variants)
      (modifyNode node fun parent => parent.mapUnion ({ · with variants }))
      (fun _ state => Derived context start state ∧ state.declared.get? id = some node)
      fun _ _ => True := by
  refine Ensures.modifyNode ?_
  rintro state ⟨entered, stand⟩
  -- The node shows a union, and a union bears no marks that could differ from it.
  have isUnion : (state.catalogue.nodeAt node).kind = .union kind := by
    have shows' := entered.shows.2
    cases isKind : (state.catalogue.nodeAt node).kind <;>
      simp [Node.plain, NodeKind.plain, isKind] at shows'
    rw [shows']
  have changed : Entered context start id node (.union { kind with variants }) { state with
      catalogue := state.catalogue.modify node fun parent =>
        parent.mapUnion ({ · with variants }) } := by
    refine (entered.change orderly ?_ ?_ (Node.label_mapUnion _ _) ?_
      (.of_unmarked (by simp [isUnion])) ?_).1
    · simp [Node.mapUnion, isUnion]
    · simp [Node.carriesUsage, Node.usage?, isUnion]
    · simp only [Node.mapUnion, isUnion, NodeKind.nodeIds]
      intro other isVariant
      obtain ⟨_, _, stands⟩ := partner_of_mem stand.flip isVariant
      exact (orderly.path entered.later.path).inside _ _ stands
    · simp [Node.mapUnion, isUnion, Node.plain, NodeKind.plain]
  -- With its variants noted, the union is rendered.
  refine ⟨changed.close ?_, entered.known⟩
  rw [Context.Rendered, shape, changed.shows.2]
  exact .union stand

section

variable {derive : TypeId → Derive NodeId} (others : Derives context derive)
include others

/-- A type that the one at hand refers to is derived. -/
theorem Derives.reference {id other : TypeId} (referred : other ∈ context.references id) :
    Conveys (Derived context) (context.Ready id) (derive other)
      fun node state => context.Stands state other node :=
  (others other).starting fun _ _ ready => ready.tail ⟨other, referred, rfl⟩

/-- The node of an array enters it, with that of its elements. -/
theorem arrayNode_enters {id element : TypeId}
    (shape : context.definition.shapeAt id = .array element) :
    Enters context id (context.shapeNode derive id (.array element)) := by
  refine .of_conveys ?_
  unfold Context.shapeNode
  -- The node of the elements is there before that of the array.
  refine (others.reference (by simp [Context.references, shape, Context.shapeReferences])).bind
    fun value => register_conveys rfl (suits_of_shape shape rfl rfl rfl)
      (Context.stands_lasting element value) ?_ ?_
  · exact fun state orderly stands => Catalogue.holds_singleton.mpr (orderly.inside _ _ stands)
  · intro state added stands
    rw [shape]
    exact .array stands

/-- The node of a record enters it, with that of its values. -/
theorem recordNode_enters {id element : TypeId}
    (shape : context.definition.shapeAt id = .record element) :
    Enters context id (context.shapeNode derive id (.record element)) := by
  refine .of_conveys ?_
  unfold Context.shapeNode
  -- Keys are texts, whose node stays known while that of the values is derived.
  refine stringNode_conveys.onward (fun _ _ => trivial) fun key => ?_
  have referred : element ∈ context.references id := by
    simp [Context.references, shape, Context.shapeReferences]
  refine (others.reference referred).onward (fun _ start => start.1) fun value => ?_
  refine (register_conveys rfl (suits_of_shape shape rfl rfl rfl)
    ((lasting_of_builtin .string key).and (Context.stands_lasting element value)) ?_ ?_).starting
      fun _ _ start => ⟨start.1.2, start.2⟩
  · -- Both nodes are in range, and they are what the record is rendered with.
    rintro state orderly ⟨isKey, stands⟩ other named
    rcases List.mem_pair.mp named with rfl | rfl
    · exact (orderly.builtins _ _ isKey).1
    · exact orderly.inside _ _ stands
  · rintro state added ⟨isKey, stands⟩
    rw [shape]
    exact .record isKey stands

/-- The base of a scalar is derived, if it has one and a namespace. -/
theorem scalarBase?_conveys {id : TypeId} {scalar : Scalar}
    (shape : context.definition.shapeAt id = .scalar scalar) :
    Conveys (Derived context) (context.Ready id) (Context.scalarBase? derive scalar)
      fun base state => List.Forall₂ (context.Stands state) (scalarBaseType? scalar).toList
        base.toList := by
  unfold Context.scalarBase?
  -- The base matters only if the scalar has a namespace to extend it in.
  split
  · rename_i container base inNamespace isBase
    refine Conveys.map ((others.reference ?_).ending fun node state _ stands => ?_)
    · simp [Context.references, shape, Context.shapeReferences, inNamespace, isBase]
    · simpa [scalarBaseType?, inNamespace, isBase] using stands
  · rename_i none
    refine Conveys.pure fun state _ _ => ?_
    -- A scalar without a namespace or a base is made from no other type.
    have noBase : scalarBaseType? scalar = .none := by
      cases inNamespace : scalar.namespaceId with
      | none => simp [scalarBaseType?, inNamespace]
      | some container =>
        cases isBase : scalar.base with
        | none => simp [scalarBaseType?, isBase]
        | some base => exact absurd isBase (none container base inNamespace)
    simp [noBase]

/-- The node of a scalar enters it, with that of its base. -/
theorem scalarNode_enters {id : TypeId} {scalar : Scalar}
    (shape : context.definition.shapeAt id = .scalar scalar) :
    Enters context id (context.scalarNode derive id scalar) := by
  refine .of_conveys ?_
  unfold Context.scalarNode
  dsimp only
  -- The base, if any, is there before the node that names it.
  refine (scalarBase?_conveys others shape).bind fun base => Conveys.answerOf.bind fun encode =>
    register_conveys rfl (suits_of_shape shape rfl rfl rfl) ?_ ?_ ?_
  · exact fun _ _ stand grown => grown.agrees.all_stand stand
  · intro state orderly stand other isBase
    obtain ⟨_, _, stands⟩ := partner_of_mem stand.flip isBase
    exact orderly.inside _ _ stands
  · intro state added stand
    rw [shape]
    exact .scalar stand

/-- The node of a member enters it, with that of its enumeration. -/
theorem memberNode_enters {id : TypeId} {member : Service.Member}
    (shape : context.definition.shapeAt id = .member member) :
    Enters context id (context.shapeNode derive id (.member member)) := by
  refine .of_conveys ?_
  unfold Context.shapeNode
  -- Whoever derives the enum derives its members.
  refine (others.reference (by simp [Context.references, shape, Context.shapeReferences])).bind
    fun parent => Conveys.get_bind fun current _ _ => ?_
  -- The enum has been derived by now; if its member has no node, the run is over.
  split
  · rename_i node known
    exact Conveys.pure fun state _ start => start.1 ▸ known
  · exact Conveys.throw

/-- A union of nothing but null has the node of that. -/
theorem nullNode_enters {id : TypeId} {union : Union} {null : Variant} {rest : List Variant}
    (shape : context.definition.shapeAt id = .union union)
    (unvalued : context.valuedVariants union = []) (all : union.variants = null :: rest) :
    Enters context id (do let node ← derive null.type; remember id node; return node) := by
  have isNull : context.definition.shapeAt null.type = .intrinsic .null := by
    have noneLeft := List.filter_eq_nil_iff.mp unvalued null (by simp [all])
    simpa [Definition.isNull] using noneLeft
  -- Null is no model, so that it stands for itself.
  have own : context.definition.payloadType null.type = null.type :=
    Context.payloadType_eq (by simp [Definition.model?, isNull])
  refine .of_conveys ((others.reference (by simp [Context.references, shape,
    Context.shapeReferences, Context.unionReferences, unvalued, all])).bind fun node => ?_)
  intro start orderly
  refine remember_ensures ?_
  rintro state ⟨rfl, stands⟩ same
  -- Null is primitive whether it was met before or not.
  have suits := orderly.suits _ _ stands
  rw [own] at suits
  obtain ⟨builtin, isBuiltin⟩ := suits.primitive .null isNull
  refine Derived.share (orderly.inside _ _ stands) same isBuiltin ?_ ?_
  · exact suits_of_primitive isBuiltin (by simp [shape, shapeText?])
      (by simp [Definition.model?, shape])
  · rw [shape]
    exact .empty unvalued

/-- The node of a union of variants enters it, with that of each variant. -/
theorem variantsNode_enters {id : TypeId} {union : Union}
    (shape : context.definition.shapeAt id = .union union)
    (valued : context.valuedVariants union ≠ []) (notFlat : context.flattening? union = none)
    (nullable : Bool) :
    Enters context id
      (context.variantsNode derive id union nullable (context.valuedVariants union)) := by
  -- Naming the union derives nothing.
  have name : Conveys (Derived context) (fun _ => True)
      (context.unionName? id union nullable (context.valuedVariants union)) fun _ _ => True := by
    unfold Context.unionName?
    split
    · exact Conveys.pure fun _ _ _ => trivial
    · exact (nameOrGenerated_conveys id union.name).bind fun _ => Conveys.pure fun _ _ _ => trivial
  -- A union that is not flattened refers to each of its variants.
  have referred (variant : Variant) (listed : variant ∈ context.valuedVariants union) :
      variant.type ∈ context.references id := by
    simp only [Context.references, shape, Context.shapeReferences, Context.unionReferences,
      notFlat]
    rw [if_neg (by simpa using valued)]
    exact List.mem_map_of_mem listed
  intro start orderly ready
  unfold Context.variantsNode
  dsimp only
  refine Ensures.bind (name.from_start orderly trivial) fun name =>
    Ensures.starting (enter_ensures orderly rfl (suits_of_shape shape rfl rfl rfl) rfl
      fun node => ?_) fun _ derived => derived.1
  -- A variant may lead back to the union, whose node is there already.
  refine Entered.bind orderly (Conveys.mapM _ fun variant listed => others.reference
    (referred variant listed)) (fun state entered _ => ?_) fun variants => ?_
  · exact entered.ready ready fun declared isModel => by simp [Definition.model?, shape] at isModel
  · exact Ensures.bind (noteVariants_ensures shape orderly) fun _ =>
      Ensures.pure fun _ ends => ends

/-- The node of a union enters it, whatever its variants come to. -/
theorem unionNode_enters {id : TypeId} {union : Union}
    (shape : context.definition.shapeAt id = .union union) :
    Enters context id (context.unionNode derive id union) := by
  -- By cases on what is left of the union without null: nothing, texts, or variants.
  rcases context.unionNode_cases derive id union with ⟨unvalued, _, isStep⟩ |
    ⟨null, rest, unvalued, all, isStep⟩ |
    ⟨valued, nullable, ⟨literals, isFixed, flat, isStep⟩ | ⟨notFlat, isStep⟩⟩
  · -- A union without variants shares the node of what may hold anything.
    rw [isStep]
    refine .of_conveys ((shareNode_enters ?_ ?_ ?_).starting fun _ _ _ => trivial)
    · simp [shape, shapeText?]
    · simp [Definition.model?, shape]
    · exact fun _ _ _ => by rw [shape]; exact .empty unvalued
  · -- A union of null alone has the node of that; and of the rest, each has a lemma of its own.
    rw [isStep]
    exact nullNode_enters others shape unvalued all
  · rw [isStep]
    exact flattenedNode_enters shape (Option.isSome_iff_exists.mpr ⟨_, flat⟩) _ _ _
  · rw [isStep]
    exact variantsNode_enters others shape valued notFlat _

end

end ClientModel.Derivation
