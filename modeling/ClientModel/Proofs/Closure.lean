import ClientModel.Proofs.Models

/-!
Once a type has a node, so does whatever it leads to.

Deriving a node settles it, whatever the shape of its declaration. A settled state is closed: where
nothing is open any more, every type that a type with a node leads to has a node as well.
-/

namespace ClientModel.Derivation

open Service (Definition Enumeration Intrinsic Literal Model Scalar Shape Union Variant)

variable {context : Context} {pending : TypeId → Prop}

/-! ## Shapes -/

/-- What settles a type in any case settles it if it has no node yet. -/
theorem Registered.unmet {id : TypeId} {step : Derive NodeId}
    (settles : Ensures (context.Settled pending) step (Registered context pending id)
      fun _ _ => True) :
    Ensures (fun state => context.Settled pending state ∧ state.declared.get? id = none) step
      (Registered context pending id) fun _ _ => True :=
  settles.starting fun _ start => start.1

section

variable {derive : TypeId → Derive NodeId} (others : Settles context derive)
  (opened : ∀ id, pending id → context.IsOpen id)
include others opened

/-- The node of a union settles it, whatever its variants come to. -/
theorem unionNode_settles {id : TypeId} {union : Union}
    (shape : context.definition.shapeAt id = .union union) :
    Ensures (fun state => context.Settled pending state ∧ state.declared.get? id = none)
      (context.unionNode derive id union) (Registered context pending id) fun _ _ => True := by
  rcases context.unionNode_cases derive id union with ⟨noneValued, noVariants, isStep⟩ |
    ⟨null, rest, noneValued, isNull, isStep⟩ |
    ⟨valued, nullable, ⟨literals, isFixed, flat, isStep⟩ | ⟨notFlat, isStep⟩⟩
  · -- A union without variants shares the node of what may hold anything.
    rw [isStep]
    refine Registered.unmet (shareNode_settles ?_ fun _ _ => ?_)
    · simp [Context.references, shape, Context.shapeReferences, Context.unionReferences,
        noVariants, Context.valuedVariants]
    · rw [shape]
      exact .empty noneValued
  -- A union of nothing but null has the node of that.
  · rw [isStep]
    exact Registered.unmet (nullNode_settles others opened shape noneValued isNull)
  · rw [isStep]
    exact flattenedNode_settles shape valued (Option.isSome_iff_exists.mpr ⟨_, flat⟩) _ _ _
  · -- What is left has variants that differ, and becomes a union of its own.
    rw [isStep]
    exact variantsNode_settles others opened shape valued notFlat _

/-- The node of any shape settles its type, if the types that are met below settle theirs. -/
theorem shapeNode_settles (placed : context.definition.MembersPlaced) (id : TypeId) :
    Ensures (fun state => context.Settled pending state ∧ state.declared.get? id = none)
      (context.shapeNode derive id (context.definition.shapeAt id)) (Registered context pending id)
      fun _ _ => True := by
  -- Only shapes with members or parts of their own have to be met for the first time.
  cases shape : context.definition.shapeAt id with
  | scalar scalar => exact Registered.unmet (scalarNode_settles others opened shape)
  | intrinsic intrinsic => exact Registered.unmet (intrinsicNode_settles shape)
  | literal value => exact Registered.unmet (literalNode_settles shape)
  | enumeration enumeration => exact enumerationNode_settles placed shape
  | member member => exact Registered.unmet (memberNode_settles others opened id member)
  | union union => exact unionNode_settles others opened shape
  | array element => exact Registered.unmet (arrayNode_settles others opened shape)
  | record element => exact Registered.unmet (recordNode_settles others opened shape)
  | model model => exact modelNode_settles others opened shape

end

/-! ## Declarations -/

/-- By induction on the references that are left: every derivation of a node settles it. -/
theorem nodeWithin_settles (placed : context.definition.MembersPlaced) (steps : Nat) :
    Settles context (context.nodeWithin steps) := by
  refine ⟨fun id start => (Grown.frame start fun _ => trivial).nodeWithin steps id, ?_⟩
  -- Out of steps nothing is settled, since a failure promises nothing.
  induction steps with
  | zero => exact fun pending opened id => Ensures.throw fun _ _ => trivial
  | succ steps ih =>
    intro pending opened id
    have others : Settles context (context.nodeWithin steps) :=
      ⟨fun id start => (Grown.frame start fun _ => trivial).nodeWithin steps id, ih⟩
    unfold Context.nodeWithin
    refine Ensures.get_bind fun current settled => ?_
    split
    · -- A type that has a node was settled with it.
      rename_i node known
      refine Ensures.pure ?_
      rintro state rfl
      exact ⟨settled, known⟩
    · rename_i unknown
      refine Ensures.bind ((shapeNode_settles others opened placed _).starting ?_) fun node => ?_
      · rintro state rfl
        exact ⟨settled, by simpa using unknown⟩
      -- What is added at the end is neither usage nor a reference.
      · refine Ensures.bind (Ensures.modifyNode ?_) fun _ => Ensures.pure fun _ ends => ends
        rintro state ⟨settled, known⟩
        refine ⟨settled.mark fun derived => ?_, known⟩
        split
        · rfl
        · rfl

/-- If the node of a type cannot be derived, the whole run is over. -/
theorem nodeWithin_endsRun (steps : Nat) (id : TypeId) :
    Ensures (fun _ => True) (context.nodeWithin steps id) (fun _ _ => True)
      fun failure _ => failure.endsRun = true := by
  -- Only faults of the program stop the making of a node, and they end runs.
  exact (Frame.anything.nodeWithin steps id).weaken (fun _ start => start) (fun _ _ _ => trivial)
    fun _ _ fails => fails.1

/-- Notes do not unsettle anything. -/
theorem Context.Settled.noted {before after : State} (settled : context.Settled pending before)
    (grown : Grown before after) (catalogue : after.catalogue = before.catalogue)
    (declared : after.declared = before.declared) (builtins : after.builtins = before.builtins) :
    context.Settled pending after := by
  -- The catalogue and both maps are those from before, so each node is settled as it was.
  refine settled.transport grown declared (fun kind node known => ?_) fun node outside carries => ?_
  · rw [builtins] at known
    exact Or.inl known
  · rw [catalogue] at carries
    exact absurd carries (Context.Settled.not_carriesUsage_of_ge outside)

/-- No step of a run unsettles what was settled. -/
theorem Context.Settled.robust (placed : context.definition.MembersPlaced) :
    Robust context (context.Settled fun _ => False) fun _ => True where
  node id := by
    -- At this level no type is open, so that a derivation that ends leaves all settled.
    have settles := (nodeWithin_settles placed context.referenceBound).settles (fun _ => False)
      (fun _ isOpen => isOpen.elim) id
    refine (settles.both (nodeWithin_endsRun _ id)).weaken (fun _ start => ⟨start, trivial⟩)
      (fun _ _ ends => ends.1.1) fun failure state fails => ⟨trivial, fun isOwn => ?_⟩
    rw [fails.2] at isOwn
    cases isOwn
  search _ := Keeps.answerOf _ fun _ _ => trivial
  toSteady := .nameless
    (fun kind name => Ensures.builtinNode (fun _ _ settled _ => settled) fun _ settled fresh =>
      settled.make fresh)
    (fun state node bare settled => settled.push fun _ => bare)
    (fun _ names settled => settled.rename names) fun _ report _ settled => settled.report report
  clientParameter state client parameter settled :=
    settled.noted ((Grown.refl state).takes client parameter) rfl rfl rfl
  endpoints state endpoints settled :=
    settled.noted ((Grown.robust context state).endpoints _ endpoints (.refl _)) rfl rfl rfl
  credentials state credentials settled :=
    settled.noted ((Grown.robust context state).credentials _ credentials (.refl _)) rfl rfl rfl
  -- The notes that follow leave nodes and declarations as they are.
  seeds state seeds settled :=
    settled.noted ((Grown.robust context state).seeds _ seeds (.refl _)) rfl rfl rfl
  bodyFormats state formats settled :=
    settled.noted ((Grown.robust context state).bodyFormats _ formats (.refl _)) rfl rfl rfl

/-- At the start of a run there is nothing to be settled. -/
theorem Context.Settled.start : context.Settled pending {} := by
  -- No type has a node yet, and no node is in range.
  have unknown {id : TypeId} {node : NodeId} : ({} : State).declared.get? id ≠ some node := by
    simp [OrderedMap.get?]
  have bare (node : NodeId) : ¬ (({} : State).catalogue.nodeAt node).carriesUsage :=
    Context.Settled.not_carriesUsage_of_ge (Nat.zero_le _)
  refine ⟨fun kind node known => ?_, fun _ _ known => absurd known unknown,
    fun _ _ known => absurd known unknown, fun _ _ known => absurd known unknown,
    fun id node carries => absurd carries (bare node)⟩
  simp [OrderedMap.get?] at known

/-! ## Closure -/

variable {state : State}

/-- What a type with a node leads to has a node. -/
theorem Context.Settled.leads (settled : context.Settled (fun _ => False) state) {id other : TypeId}
    (leads : context.LeadsTo id other) (met : (state.declared.get? id).isSome) :
    (state.declared.get? other).isSome := by
  obtain ⟨reference, referred, rfl⟩ := leads
  obtain ⟨node, known⟩ := Option.isSome_iff_exists.mp met
  -- Nothing is open, so that the derivation of the node is over.
  have finished := (settled.finished id node known).resolve_left fun isOpen => isOpen
  obtain ⟨found, stands⟩ := finished.references reference referred
  exact Option.isSome_iff_exists.mpr ⟨found, stands⟩

/-- By induction on the way: all that a type with a node leads to in the end has a node. -/
theorem Context.Settled.reaches (settled : context.Settled (fun _ => False) state)
    {id other : TypeId} (way : Relation.ReflTransGen context.LeadsTo id other)
    (met : (state.declared.get? id).isSome) : (state.declared.get? other).isSome := by
  -- The step at the end of the way is the one that settledness speaks of, so the induction adds
  -- steps there.
  induction way with
  | refl => exact met
  | tail _ last ih => exact settled.leads last ih

/-! ## Types that come back to themselves -/

/-- A type that has a node in the end does not get another one. -/
theorem finish_fails {id : TypeId} {node : Node} :
    Ensures (fun state => context.Settled pending state ∧ (state.declared.get? id).isSome)
      (do let node ← addNode node; remember id node; return node)
      (fun _ _ => False) fun failure _ => failure.endsRun = true := by
  refine Ensures.via (fun added state => ∃ first, state.declared.get? id = some first ∧
    first ≠ added) (Ensures.addNode ?_) fun added => ?_
  · rintro state ⟨settled, met⟩
    -- The node that it has is in range, and the one that was added just now is not that one.
    obtain ⟨first, known⟩ := Option.isSome_iff_exists.mp met
    refine ⟨first, known, fun isNew => ?_⟩
    have inside := settled.inside id first known
    rw [isNew] at inside
    exact absurd inside (Nat.lt_irrefl _)
  · refine Ensures.via (fun _ _ => False) (Ensures.remember ?_ fun _ _ _ _ _ _ => rfl)
      fun _ => Ensures.pure fun _ never => never
    rintro state ⟨first, known, different⟩ same
    exact different (same first known)

section

variable (placed : context.definition.MembersPlaced) (steps : Nat) {id : TypeId}
include placed

/-- Once the reference that a cycle starts with has a node, so does the type itself. -/
theorem cycle_met {reference : TypeId}
    (back : Relation.ReflTransGen context.LeadsTo (context.definition.payloadType reference) id) :
    Ensures (context.Settled fun _ => False) (context.nodeWithin steps reference)
      (fun _ state => context.Settled (fun _ => False) state ∧ (state.declared.get? id).isSome)
      fun failure _ => failure.endsRun = true := by
  have settles := (nodeWithin_settles placed steps).settles (fun _ => False)
    (fun _ isOpen => isOpen.elim) reference
  -- The reference leads back to the type, and whatever it leads to has a node.
  refine (settles.both (nodeWithin_endsRun steps reference)).weaken
    (fun _ start => ⟨start, trivial⟩) ?_ fun _ _ fails => fails.2
  rintro node state ⟨⟨settled, stands⟩, -⟩
  exact ⟨settled, settled.reaches back (Option.isSome_iff_exists.mpr ⟨node, stands⟩)⟩

/--
A type on a cycle that is neither a model nor a union is not derived from a state without its node.

Its own node is made last, when the way round the cycle has already made one.
-/
theorem cycle_fails (cyclic : Relation.TransGen context.LeadsTo id id)
    (late : context.definition.isComposite id = false) :
    Ensures (context.Settled fun _ => False)
      (context.shapeNode (context.nodeWithin steps) id (context.definition.shapeAt id))
      (fun _ _ => False) fun failure _ => failure.endsRun = true := by
  obtain ⟨next, ⟨reference, referred, rfl⟩, back⟩ :=
    Relation.TransGen.head'_iff.mp cyclic
  -- A type of one of these shapes has a single reference, which is the one that leads back.
  have met := cycle_met placed steps back
  rw [Context.references] at referred
  rw [Definition.isComposite] at late
  cases shape : context.definition.shapeAt id with
  | scalar scalar =>
    simp only [shape, Context.shapeReferences] at referred
    split at referred
    · rename_i inNamespace
      obtain ⟨container, isContainer⟩ := Option.isSome_iff_exists.mp inNamespace
      have base : Ensures (context.Settled fun _ => False)
          (Context.scalarBase? (context.nodeWithin steps) scalar)
          (fun _ state => context.Settled (fun _ => False) state ∧ (state.declared.get? id).isSome)
          fun failure _ => failure.endsRun = true := by
        unfold Context.scalarBase?
        rw [isContainer, Option.mem_toList.mp referred]
        exact Ensures.map met
      refine Ensures.bind base fun _ => Ensures.via
        (fun _ state => context.Settled (fun _ => False) state ∧ (state.declared.get? id).isSome)
        ?_ fun _ => finish_fails
      exact Ensures.answerOf (fun _ _ _ start => start) fun _ _ _ _ => rfl
    · cases referred
  | array element =>
    rw [shape] at referred
    rw [List.mem_singleton.mp referred] at met
    exact Ensures.bind met fun _ => finish_fails
  | record element =>
    rw [shape] at referred
    rw [List.mem_singleton.mp referred] at met
    -- The node for the keys comes first and settles nothing that is on the way.
    refine Ensures.via (fun _ => context.Settled fun _ => False) ?_ fun _ =>
      Ensures.bind met fun _ => finish_fails
    exact Ensures.builtinNode (fun _ _ settled _ => settled) fun _ settled fresh =>
      settled.make fresh
  | member member =>
    -- The way ends at the enum of the member.
    obtain ⟨enumeration, parent, _⟩ := placed.listed id member shape
    rw [shape] at referred
    rw [List.mem_singleton.mp referred,
      Context.payloadType_eq (by simp [Definition.model?, parent])] at back
    have isParent := Context.not_reaches
      (by simp [Context.references, parent, Context.shapeReferences]) back
    rw [← isParent, shape] at parent
    cases parent
  | model model => simp [shape] at late
  | union union => simp [shape] at late
  | intrinsic intrinsic => simp [shape, Context.shapeReferences] at referred
  | literal value => simp [shape, Context.shapeReferences] at referred
  | enumeration enumeration => simp [shape, Context.shapeReferences] at referred

end

end ClientModel.Derivation
