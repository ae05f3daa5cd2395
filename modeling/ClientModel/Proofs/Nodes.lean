import ClientModel.Proofs.Settled

/-!
Deriving the nodes of declarations.

Shape by shape, a derivation leaves everything settled and comes back with the node that stands for
its declaration, provided that the derivations of other types do so.
-/

namespace ClientModel.Derivation

open Service (Definition Enumeration Intrinsic Literal Model Scalar Shape Union Variant)

variable {α : Type} {context : Context} {pending : TypeId → Prop}

/-- A step that derives nodes for types leaves everything settled, and comes back with the node. -/
structure Settles (context : Context) (derive : TypeId → Derive NodeId) : Prop where
  grows : ∀ id start, Keeps (Grown start) (fun _ => True) (derive id)
  settles : ∀ (pending : TypeId → Prop), (∀ id, pending id → context.IsOpen id) → ∀ id,
    Ensures (context.Settled pending) (derive id)
      (fun node state => context.Settled pending state ∧ context.Stands state id node)
      fun _ _ => True

/-- What a node shows of itself but for marks. -/
def Shows (node : NodeId) (kind : NodeKind) (state : State) : Prop :=
  node.index < state.catalogue.size ∧ (state.catalogue.nodeAt node).plain.kind = kind

/-- What a node shows lasts as the catalogue grows, which changes no more than marks. -/
theorem shows_lasting (node : NodeId) (kind : NodeKind) : Lasting (Shows node kind) :=
  -- A node in range changes no more than its marks, and what it shows is told without them.
  fun _ _ shows' grown => ⟨Nat.lt_of_lt_of_le shows'.1 grown.size,
    (congrArg Node.kind (grown.nodes node shows'.1)).trans shows'.2⟩

/-! ## Nodes that are finished at once -/

/-- Everything is settled, and the node of a declaration is known. -/
def Registered (context : Context) (pending : TypeId → Prop) (id : TypeId) (node : NodeId)
    (state : State) : Prop :=
  context.Settled pending state ∧ state.declared.get? id = some node

/-- A node without usage is added once all that it is made from is there. -/
theorem finish_settles {id : TypeId} {node : Node} {held : State → Prop} (lasting : Lasting held)
    (bare : ¬ node.carriesUsage)
    (references : ∀ state, held state → ∀ reference ∈ context.references id,
      ∃ other, context.Stands state reference other)
    (mirrors : ∀ state, held state →
      context.Mirrors state (context.definition.shapeAt id) node.kind.plain) :
    Ensures (fun state => context.Settled pending state ∧ held state)
      (do let node ← addNode node; remember id node; return node)
      (fun node state => Registered context pending id node state ∧ held state)
      fun _ _ => True := by
  -- The node is added first, and then remembered, which is when its declaration is settled.
  refine Ensures.via (fun added state => context.Settled pending state ∧ held state ∧
    added.index < state.catalogue.size ∧ state.catalogue.nodeAt added = node)
    (Ensures.addNode ?_) fun added => ?_
  · rintro state ⟨settled, start⟩
    refine ⟨settled.push fun carries => absurd carries bare, ?_, by simp, ?_⟩
    · exact lasting state _ start ((Grown.refl state).push node)
    · exact Catalogue.nodeAt_push_self _ _
  · refine Ensures.via (fun _ state => Registered context pending id added state ∧ held state)
      (Ensures.remember ?_ fun _ _ _ _ _ _ => trivial) fun _ => Ensures.pure fun _ ends => ends
    -- Once it is remembered, the node tells what the declaration does, and the rest is untouched.
    rintro state ⟨settled, start, inside, isNode⟩ same
    have grown := (Grown.refl state).insert same
    have later := lasting state _ start grown
    refine ⟨⟨settled.insert inside same (fun carries => ?_) (Or.inr ⟨?_, ?_⟩), by simp⟩, later⟩
    · rw [isNode] at carries
      exact absurd carries bare
    · exact references _ later
    · have finished := mirrors _ later
      rw [← isNode] at finished
      exact finished

/-- A declaration that has a node has it from then on. -/
theorem lasting_of_declared (id : TypeId) (node : NodeId) :
    Lasting fun state => state.declared.get? id = some node :=
  fun _ _ known grown => grown.declared id node known

/-- Whatever was known before all of this is still settled. -/
theorem Registered.settled {id : TypeId} {node : NodeId} {state : State}
    (registered : Registered context pending id node state) : context.Settled pending state :=
  registered.1

/-- Every true statement about all states lasts. -/
theorem lasting_of_forall {held : State → Prop} (always : ∀ state, held state) : Lasting held :=
  fun _ after _ _ => always after

/-- A declaration may share the node of everything that may hold anything. -/
theorem shareNode_settles {id : TypeId} {name : String}
    (references : context.references id = [])
    (mirrors : ∀ state builtin,
      context.Mirrors state (context.definition.shapeAt id) (.builtin builtin)) :
    Ensures (context.Settled pending)
      (do let node ← builtinNode .any name; remember id node; return node)
      (Registered context pending id) fun _ _ => True := by
  -- The shared node is primitive, whether it was there before or is made now.
  refine Ensures.via (fun node state => context.Settled pending state ∧
    node.index < state.catalogue.size ∧
    ∃ builtin, (state.catalogue.nodeAt node).plain.kind = .builtin builtin)
    (Ensures.builtinNode ?_ ?_) fun node => ?_
  · intro state node settled known
    exact ⟨settled, settled.builtins _ node known⟩
  · intro state settled fresh
    refine ⟨settled.make fresh, by simp, ?_⟩
    exact ⟨_, congrArg (fun node => node.plain.kind) (Catalogue.nodeAt_push_self _ _)⟩
  · -- Either way the declaration has the node from here on, which carries no usage.
    refine Ensures.via (fun _ => Registered context pending id node)
      (Ensures.remember ?_ fun _ _ _ _ _ _ => trivial) fun _ => Ensures.pure fun _ ends => ends
    rintro state ⟨settled, inside, builtin, isBuiltin⟩ same
    refine ⟨settled.insert inside same (fun carries => ?_) (Or.inr ⟨?_, ?_⟩), by simp⟩
    · rw [← Node.carriesUsage_plain] at carries
      simp [Node.carriesUsage, Node.usage?, isBuiltin] at carries
    · simp [references]
    · rw [isBuiltin]
      exact mirrors _ builtin

/-- An intrinsic type is settled, be it by a shared node or by one of its own. -/
theorem intrinsicNode_settles {id : TypeId} {intrinsic : Intrinsic}
    (shape : context.definition.shapeAt id = .intrinsic intrinsic) :
    Ensures (context.Settled pending) (Context.intrinsicNode id intrinsic)
      (Registered context pending id) fun _ _ => True := by
  have references : context.references id = [] := by
    simp [Context.references, shape, Context.shapeReferences]
  unfold Context.intrinsicNode
  split
  · -- The unknown type shares its node.
    exact shareNode_settles references fun _ _ => by rw [shape]; exact .intrinsic
  -- Every other intrinsic type has a node of its own, made from nothing.
  · have finished := @finish_settles context pending id
      { origin := some id
        nullable := intrinsic == .null
        kind := .builtin { kind := .any, name := intrinsic.name } } (fun _ => True)
      (lasting_of_forall fun _ => trivial) (by simp [Node.carriesUsage, Node.usage?])
      (fun _ _ reference referred => by simp [references] at referred)
      (fun _ _ => by rw [shape]; exact .intrinsic)
    exact finished.weaken (fun _ start => ⟨start, trivial⟩) (fun _ _ ends => ends.1)
      fun _ _ fails => fails

/-- The node for texts settles nothing but itself. -/
theorem stringNode_settles :
    Ensures (context.Settled pending) stringNode (fun node state => context.Settled pending state ∧
      state.builtins.get? .string = some node) fun _ _ => True :=
  -- The node is found among the builtin types, or it is made, and then no declaration has it.
  Ensures.builtinNode (fun _ _ settled known => ⟨settled, known⟩) fun _ settled fresh =>
    ⟨settled.make fresh, by simp⟩

/-- A literal is settled with the node of its constant. -/
theorem literalNode_settles {id : TypeId} {value : Literal}
    (shape : context.definition.shapeAt id = .literal value) :
    Ensures (context.Settled pending) (Context.literalNode id value)
      (Registered context pending id) fun _ _ => True := by
  unfold Context.literalNode
  -- The constant is added without its declaration, which is written into it afterwards.
  refine Ensures.via (fun node state => ∃ before, context.Settled pending before ∧
      node = ⟨before.catalogue.size⟩ ∧ ∃ constant : ConstantNode, constant.value = value ∧
        state = { before with catalogue := before.catalogue.push { kind := .constant constant } })
    (Ensures.addNode ?_) fun node => ?_
  · exact fun state settled => ⟨state, settled, rfl, _, rfl, rfl⟩
  · refine Ensures.via (fun _ state => context.Settled pending state ∧
        node.index < state.catalogue.size ∧ ∃ constant : ConstantNode, constant.value = value ∧
          state.catalogue.nodeAt node = { origin := some id, kind := .constant constant })
      (Ensures.modifyNode ?_) fun _ => ?_
    · rintro state ⟨before, settled, rfl, constant, isValue, rfl⟩
      -- The constant might as well have been added with the declaration that it comes from.
      simp only [Catalogue.modify_push_self]
      refine ⟨settled.push ?_, by simp, constant, isValue, Catalogue.nodeAt_push_self _ _⟩
      simp [Node.carriesUsage, Node.usage?]
    · refine Ensures.via (fun _ => Registered context pending id node)
        (Ensures.remember ?_ fun _ _ _ _ _ _ => trivial) fun _ => Ensures.pure fun _ ends => ends
      rintro state ⟨settled, inside, constant, isValue, isNode⟩ same
      refine ⟨settled.insert inside same (fun _ => by rw [isNode]) (Or.inr ⟨?_, ?_⟩), by simp⟩
      · simp [Context.references, shape, Context.shapeReferences]
      · rw [shape, isNode, ← isValue]
        exact .literal

/-- A new node is noted as that of a declaration that had none, which is finished or open. -/
theorem register_settles (pending : TypeId → Prop) {id : TypeId} {node : Node}
    {next : NodeId → Derive α} {after : α → State → Prop} (own : node.origin = some id)
    (told : ∀ state, context.Settled pending state → pending id ∨ context.Finished { state with
      catalogue := state.catalogue.push node
      declared := state.declared.insert id ⟨state.catalogue.size⟩ } id ⟨state.catalogue.size⟩)
    (rest : ∀ added, Ensures (fun state => Registered context pending id added state ∧
      added.index < state.catalogue.size ∧ state.catalogue.nodeAt added = node) (next added) after
      fun _ _ => True) :
    Ensures (fun state => context.Settled pending state ∧ state.declared.get? id = none)
      (do let added ← addNode node; remember id added; next added) after fun _ _ => True := by
  -- What is added is not in the map yet, so the declaration has no node for one step.
  refine Ensures.via (fun added state => ∃ before, context.Settled pending before ∧
      before.declared.get? id = none ∧ added = ⟨before.catalogue.size⟩ ∧
      state = { before with catalogue := before.catalogue.push node })
    (Ensures.addNode fun state start => ⟨state, start.1, start.2, rfl, rfl⟩) fun added => ?_
  refine Ensures.via (fun _ state => Registered context pending id added state ∧
    added.index < state.catalogue.size ∧ state.catalogue.nodeAt added = node)
    (Ensures.remember ?_ fun _ _ _ _ _ _ => trivial) fun _ => rest added
  -- Both steps together put the node of a fresh declaration into a settled state.
  rintro state ⟨before, settled, fresh, rfl, rfl⟩ _
  exact ⟨⟨settled.register fresh own (told before settled), by simp⟩, by simp,
    Catalogue.nodeAt_push_self _ _⟩

/-- An enumeration is settled with all of its members, if these are placed with it. -/
theorem enumerationNode_settles (placed : context.definition.MembersPlaced) {id : TypeId}
    {enumeration : Enumeration}
    (shape : context.definition.shapeAt id = .enumeration enumeration) :
    Ensures (fun state => context.Settled pending state ∧ state.declared.get? id = none)
      (context.enumerationNode id enumeration) (Registered context pending id)
      fun _ _ => True := by
  unfold Context.enumerationNode
  dsimp only
  refine register_settles _ rfl (fun state _ => Or.inr ⟨?_, ?_⟩) fun node => ?_
  · simp [Context.references, shape, Context.shapeReferences]
  · rw [shape, Catalogue.nodeAt_push_self]
    exact .enumeration rfl
  · -- Only the enum itself is registered so far; its members follow one by one.
    have enum : context.definition.payloadType id = id :=
      Context.payloadType_eq (by simp [Definition.model?, shape])
    -- A member is finished at once, for the node of its enum is there already.
    have member (entry : TypeId × Service.Member) (isMember : entry.1 ∈ enumeration.members)
        (memberShape : context.definition.shapeAt entry.1 = .member entry.2)
        (value : EnumValueNode) (isValue : value.value = entry.2.value.getD (.text entry.2.name))
        (parent : value.enumeration = node) :
        Ensures (Registered context pending id node)
          (do
            let added ← addNode { origin := some entry.1, kind := .enumValue value }
            remember entry.1 added
            return added)
          (fun _ => Registered context pending id node) fun _ _ => True := by
      -- Its parent is the enum, which is registered already, and which it was declared with.
      have own := placed.own id enumeration shape entry.1 isMember entry.2 memberShape
      refine (finish_settles (lasting_of_declared id node) ?_ ?_ ?_).ending
        fun _ state ends => ⟨ends.1.settled, ends.2⟩
      · simp [Node.carriesUsage, Node.usage?]
      · intro state known reference referred
        rw [Context.references, memberShape] at referred
        rw [List.mem_singleton.mp referred, own]
        exact ⟨node, by rw [Context.Stands, enum, known]⟩
      · intro state known
        rw [memberShape]
        refine .member isValue ?_
        rw [Context.Stands, own, enum, known, parent]
    refine Ensures.via (fun _ => Registered context pending id node) ?_ fun values => ?_
    · -- One by one; what the list holds besides members is left out.
      refine (Ensures.mapM (fun _ => Registered context pending id node) _ ?_ []).starting
        fun _ start => start.1
      rintro ⟨memberId, declared⟩ listed _
      obtain ⟨listedId, isMember, found⟩ := List.mem_filterMap.mp listed
      split at found
      · rename_i declared' memberShape
        cases found
        exact member (memberId, declared) isMember memberShape _ rfl rfl
      · cases found
    · refine Ensures.via (fun _ => Registered context pending id node)
        (Ensures.modifyNode ?_) fun _ => Ensures.pure fun _ ends => ends
      exact fun state start =>
        ⟨start.1.mark fun before => before.plain_mapEnumeration _, start.2⟩

/-- To make up a name settles nothing and unsettles nothing. -/
theorem settled_names {id : TypeId} (state : State) (names : NameRegistry)
    (start : context.Settled pending state ∧ state.declared.get? id = none) :
    context.Settled pending { state with names } ∧
      { state with names }.declared.get? id = none :=
  ⟨start.1.rename names, start.2⟩

/-- A union of texts is settled when its node is registered. -/
theorem flattenedNode_settles {id : TypeId} {union : Union}
    (shape : context.definition.shapeAt id = .union union)
    (valued : context.valuedVariants union ≠ []) (flat : (context.flattening? union).isSome)
    (nullable : Bool) (literals : List (String × String)) (isFixed : Bool) :
    Ensures (fun state => context.Settled pending state ∧ state.declared.get? id = none)
      (context.flattenedNode id union nullable literals isFixed) (Registered context pending id)
      fun _ _ => True := by
  unfold Context.flattenedNode
  dsimp only
  -- The name comes first, for it is written into the node.
  refine Ensures.via (fun _ state => context.Settled pending state ∧ state.declared.get? id = none)
    ((nameOrGenerated_keeps settled_names id union.name).ending fun _ _ ends => ends.1)
    fun name => ?_
  refine register_settles _ rfl (fun state _ => Or.inr ⟨?_, ?_⟩) fun node => ?_
  · simp [Context.references, shape, Context.shapeReferences, Context.unionReferences, flat, valued]
  · rw [shape, Catalogue.nodeAt_push_self]
    exact .flattened valued flat rfl
  · refine Ensures.via (fun _ => Registered context pending id node) ?_ fun values => ?_
    · refine (Ensures.mapM (fun _ => Registered context pending id node) _ ?_ []).starting
        fun _ start => start.1
      -- The values of a flattened union come from no declaration.
      exact fun entry _ _ => Ensures.addNode fun state start =>
        ⟨start.1.push fun carries => by simp [Node.carriesUsage, Node.usage?] at carries, start.2⟩
    · refine Ensures.via (fun _ => Registered context pending id node)
        (Ensures.modifyNode ?_) fun _ => Ensures.pure fun _ ends => ends
      exact fun state start =>
        ⟨start.1.mark fun before => before.plain_mapEnumeration _, start.2⟩

/-! ## Unions -/

/-- Naming a union settles nothing that was not, and the union is still to get its node. -/
theorem unionName?_settles (id : TypeId) (union : Union) (nullable : Bool)
    (variants : List Variant) :
    Ensures (fun state => context.Settled pending state ∧ state.declared.get? id = none)
      (context.unionName? id union nullable variants)
      (fun _ state => context.Settled pending state ∧ state.declared.get? id = none)
      fun _ _ => True := by
  unfold Context.unionName?
  split
  · -- A union is named only if something of it is left that has no name of its own.
    exact Ensures.pure fun _ start => start
  · exact Ensures.bind (nameOrGenerated_keeps settled_names id union.name) fun _ =>
      Ensures.pure fun _ ends => ends.1

/-- A union that is open has a node of its own, which is not used yet. -/
def OpenUnion (id : TypeId) (node : NodeId) (state : State) : Prop :=
  state.declared.get? id = some node ∧
    ∃ made : UnionNode, made.usage = .none ∧ Shows node (.union made) state

/-- Whatever is derived in between, an open union stays so. -/
theorem openUnion_lasting (id : TypeId) (node : NodeId) : Lasting (OpenUnion id node) :=
  (lasting_of_declared id node).and
    (.any fun made => (Lasting.const (made.usage = .none)).and (shows_lasting node _))

/-- Once the nodes of all its variants stand, noting them on its node finishes a union. -/
theorem OpenUnion.close {id : TypeId} {union : Union} {node : NodeId} {variants : List NodeId}
    {state : State} (begun : OpenUnion id node state)
    (shape : context.definition.shapeAt id = .union union)
    (valued : context.valuedVariants union ≠ []) (notFlat : context.flattening? union = none)
    (settled : context.Settled (fun other => pending other ∨ other = id) state)
    (stand : List.Forall₂ (fun (variant : Variant) value => context.Stands state variant.type value)
      (context.valuedVariants union) variants) :
    Registered context pending id node
      { state with
        catalogue := state.catalogue.modify node fun parent =>
          parent.mapUnion ({ · with variants }) } := by
  obtain ⟨known, made, unused, inside, isUnion⟩ := begun
  -- The node is still the union that was added, so that its variants can be noted on it.
  obtain ⟨own, isOwn⟩ : ∃ own, (state.catalogue.nodeAt node).kind = .union own := by
    cases kind : (state.catalogue.nodeAt node).kind <;>
      simp [Node.plain, NodeKind.plain, kind] at isUnion
    exact ⟨_, rfl⟩
  have same : own = made := by simpa [Node.plain, NodeKind.plain, isOwn] using isUnion
  subst same
  have carries : (state.catalogue.nodeAt node).carriesUsage := by
    simp [Node.carriesUsage, Node.usage?, isOwn]
  refine ⟨Context.Settled.close (settled.draft (Or.inr rfl) known carries (Node.mapUnion_keeps _)
    (settled.draft_agrees known carries ?_)) fun other isOther => ?_, known⟩
  · simp [Node.model?, isOwn]
  · obtain rfl : node = other := Option.some.inj (known.symm.trans isOther)
    refine ⟨fun reference referred => ?_, ?_⟩
    · -- What a union refers to are the types of its variants, and these have their nodes.
      rw [Context.references, shape, Context.shapeReferences, Context.unionReferences,
        if_neg (by simpa using valued), if_neg (by simp [notFlat])] at referred
      obtain ⟨variant, listed, rfl⟩ := List.mem_map.mp referred
      obtain ⟨node, _, stands⟩ := partner_of_mem stand listed
      exact ⟨node, stands⟩
    · rw [shape, Catalogue.nodeAt_modify_self _ inside]
      simp only [Node.mapUnion, isOwn, Node.plain, NodeKind.plain]
      exact .union valued notFlat unused stand

/-! ## Nodes made of other nodes -/

section

variable {derive : TypeId → Derive NodeId} (others : Settles context derive)
  (opened : ∀ id, pending id → context.IsOpen id)
include others opened

/-- What lasts is kept while the node of another type is derived. -/
theorem Settles.beside {held : State → Prop} (lasting : Lasting held) (id : TypeId) :
    Ensures (fun state => context.Settled pending state ∧ held state) (derive id)
      (fun node state => context.Settled pending state ∧ held state ∧ context.Stands state id node)
      fun _ _ => True :=
  -- The derivation is looked at twice: for what it settles, and for what it leaves alone.
  ((others.settles pending opened id).beside lasting (others.grows id)).weaken
    (fun _ start => start.symm) (fun _ _ ends => ⟨ends.2.1, ends.1, ends.2.2⟩)
    fun _ _ fails => fails

/-- An array is settled once the node of its elements stands. -/
theorem arrayNode_settles {id element : TypeId}
    (shape : context.definition.shapeAt id = .array element) :
    Ensures (context.Settled pending) (context.shapeNode derive id (.array element))
      (Registered context pending id) fun _ _ => True := by
  unfold Context.shapeNode
  refine Ensures.bind (others.settles pending opened element) fun value => ?_
  -- The node is made last, from that of the elements.
  refine (finish_settles (Context.stands_lasting element value) (by simp [Node.carriesUsage,
    Node.usage?]) ?_ ?_).ending fun _ _ ends => ends.1
  · intro state stands reference referred
    rw [Context.references, shape] at referred
    rw [List.mem_singleton.mp referred]
    exact ⟨value, stands⟩
  · intro state stands
    rw [shape]
    exact .array stands

/-- A record is settled once the node of its values stands. -/
theorem recordNode_settles {id element : TypeId}
    (shape : context.definition.shapeAt id = .record element) :
    Ensures (context.Settled pending) (context.shapeNode derive id (.record element))
      (Registered context pending id) fun _ _ => True := by
  unfold Context.shapeNode
  -- Keys are texts, whose node is no declaration of its own.
  refine Ensures.via (fun _ => context.Settled pending)
    (stringNode_settles.ending fun _ _ ends => ends.1) fun key => ?_
  refine Ensures.bind (others.settles pending opened element) fun value => ?_
  refine (finish_settles (Context.stands_lasting element value) (by simp [Node.carriesUsage,
    Node.usage?]) ?_ ?_).ending fun _ _ ends => ends.1
  · intro state stands reference referred
    rw [Context.references, shape] at referred
    rw [List.mem_singleton.mp referred]
    exact ⟨value, stands⟩
  · intro state stands
    rw [shape]
    exact .record stands

/-- A scalar is settled once that of its base stands, if it refers to one. -/
theorem scalarNode_settles {id : TypeId} {scalar : Scalar}
    (shape : context.definition.shapeAt id = .scalar scalar) :
    Ensures (context.Settled pending) (context.scalarNode derive id scalar)
      (Registered context pending id) fun _ _ => True := by
  have base : Ensures (context.Settled pending) (Context.scalarBase? derive scalar)
      (fun _ state => context.Settled pending state ∧
        ∀ reference ∈ context.references id, ∃ other, context.Stands state reference other)
      fun _ _ => True := by
    rw [Context.references, shape, Context.shapeReferences]
    unfold Context.scalarBase?
    split
    · -- In a namespace, the base is the only reference.
      rename_i container base inNamespace isBase
      refine Ensures.map ((others.settles pending opened base).ending ?_)
      rintro node state ⟨settled, stands⟩
      refine ⟨settled, fun reference referred => ⟨node, ?_⟩⟩
      simp only [inNamespace, Option.isSome_some, if_true, isBase, Option.toList_some,
        List.mem_singleton] at referred
      rw [referred]
      exact stands
    · rename_i none
      -- Elsewhere a scalar refers to nothing.
      refine Ensures.pure fun state settled => ⟨settled, fun reference referred => ?_⟩
      cases inNamespace : scalar.namespaceId with
      | none => simp [inNamespace] at referred
      | some container =>
        cases isBase : scalar.base with
        | none => simp [isBase] at referred
        | some base => exact absurd isBase (none container base inNamespace)
  unfold Context.scalarNode
  dsimp only
  -- Base and encoding settle nothing of the scalar, which is registered last.
  refine Ensures.bind base fun base => ?_
  refine Ensures.bind (Ensures.answerOf (fun _ _ _ start => start) fun _ _ _ _ => trivial)
    fun encode => ?_
  refine (finish_settles ?_ (by simp [Node.carriesUsage, Node.usage?]) (fun _ start => start)
    fun _ _ => ?_).ending fun _ _ ends => ends.1
  · -- What the base stands for is not changed by adding the node of the scalar.
    intro before after known grown reference referred
    obtain ⟨other, stands⟩ := known reference referred
    exact ⟨other, grown.agrees.stands stands⟩
  · rw [shape]
    exact .scalar

/-- A member is settled along with its enumeration. -/
theorem memberNode_settles (id : TypeId) (member : Service.Member) :
    Ensures (context.Settled pending) (context.shapeNode derive id (.member member))
      (Registered context pending id) fun _ _ => True := by
  unfold Context.shapeNode
  refine Ensures.via (fun _ => context.Settled pending)
    ((others.settles pending opened _).ending fun _ _ ends => ends.1) fun parent => ?_
  refine Ensures.get_bind fun current settled => ?_
  -- Whoever derives the enum derives its members; one that is missing then is an error.
  split
  · rename_i node known
    refine Ensures.pure ?_
    rintro state rfl
    exact ⟨settled, known⟩
  · exact Ensures.throw fun _ _ => trivial

/-- A union of null alone is settled with the node of null. -/
theorem nullNode_settles {id : TypeId} {union : Union} {null : Variant} {variants : List Variant}
    (shape : context.definition.shapeAt id = .union union)
    (valued : context.valuedVariants union = []) (all : union.variants = null :: variants) :
    Ensures (context.Settled pending)
      (do let node ← derive null.type; remember id node; return node)
      (Registered context pending id) fun _ _ => True := by
  -- All that is left out as null is null itself, and the first variant is.
  have isNull : context.definition.shapeAt null.type = .intrinsic .null := by
    have noneLeft := List.filter_eq_nil_iff.mp valued null (by simp [all])
    simpa [Definition.isNull] using noneLeft
  have own : context.definition.payloadType null.type = null.type :=
    Context.payloadType_eq (by simp [Definition.model?, isNull])
  refine Ensures.bind (others.settles pending opened null.type) fun node => ?_
  refine Ensures.via (fun _ => Registered context pending id node)
    (Ensures.remember ?_ fun _ _ _ _ _ _ => trivial) fun _ => Ensures.pure fun _ ends => ends
  rintro state ⟨settled, stands⟩ same
  have known : state.declared.get? null.type = some node := by
    rw [← own]
    exact stands
  -- Null itself is finished, for only models and unions are ever open.
  have finished : context.Finished state null.type node := by
    refine (settled.finished null.type node known).resolve_left fun isPending => ?_
    have isOpen := opened null.type isPending
    rw [Context.IsOpen, isNull] at isOpen
    exact isOpen
  have mirrors := finished.mirrors
  rw [isNull] at mirrors
  obtain ⟨builtin, isBuiltin⟩ : ∃ builtin,
      (state.catalogue.nodeAt node).plain.kind = .builtin builtin := by
    generalize (state.catalogue.nodeAt node).plain.kind = kind at mirrors
    cases mirrors with
    | intrinsic => exact ⟨_, rfl⟩
  refine ⟨settled.insert (settled.inside _ node known) same (fun carries => ?_) (Or.inr ⟨?_, ?_⟩),
    by simp⟩
  · rw [← Node.carriesUsage_plain] at carries
    simp [Node.carriesUsage, Node.usage?, isBuiltin] at carries
  · intro reference referred
    have isNullType : reference = null.type := by
      simpa [Context.references, shape, Context.shapeReferences, Context.unionReferences, valued,
        all] using referred
    refine ⟨node, ?_⟩
    rw [isNullType]
    exact ((Grown.refl state).insert same).agrees.stands stands
  · rw [shape, isBuiltin]
    exact .empty valued

/-- A union with variants of its own is registered, open until the nodes of these are there. -/
theorem variantsNode_settles {id : TypeId} {union : Union}
    (shape : context.definition.shapeAt id = .union union)
    (valued : context.valuedVariants union ≠ []) (notFlat : context.flattening? union = none)
    (nullable : Bool) :
    Ensures (fun state => context.Settled pending state ∧ state.declared.get? id = none)
      (context.variantsNode derive id union nullable (context.valuedVariants union))
      (Registered context pending id) fun _ _ => True := by
  -- From here on the union is open, beside those that were open before.
  have openedToo : ∀ other, pending other ∨ other = id → context.IsOpen other := by
    rintro other (earlier | rfl)
    · exact opened other earlier
    · rw [Context.IsOpen, shape]
      exact ⟨valued, notFlat⟩
  unfold Context.variantsNode
  dsimp only
  refine Ensures.bind (unionName?_settles id union nullable _) fun name => ?_
  refine Ensures.starting (register_settles (fun other => pending other ∨ other = id) rfl
    (fun _ _ => Or.inl (Or.inr rfl)) fun node => ?_)
    fun state start => ⟨start.1.weaken fun _ => Or.inl, start.2⟩
  -- While the variants are derived, the union is among the types that are open.
  have variants := (Ensures.mapM_lasting
    (fun variant : Variant => Context.stands_lasting variant.type)
    (fun variant => others.grows variant.type)
    (fun variant => others.settles _ openedToo variant.type)
    (context.valuedVariants union)).beside (openUnion_lasting id node) fun start =>
      Keeps.mapM _ fun variant => others.grows variant.type start
  refine Ensures.bind (variants.starting ?begun) fun variants => ?_
  case begun =>
    rintro state ⟨registered, inside, isNode⟩
    have shows := congrArg (fun node => node.plain.kind) isNode
    exact ⟨⟨registered.2, _, rfl, inside, shows⟩, registered.1⟩
  refine Ensures.via (fun _ => Registered context pending id node) (Ensures.modifyNode ?_)
    fun _ => Ensures.pure fun _ ends => ends
  rintro state ⟨begun, settled, stand⟩
  exact begun.close shape valued notFlat settled stand

end

end ClientModel.Derivation
