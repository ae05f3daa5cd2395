import ClientModel.Proofs.Leads
import ClientModel.Proofs.Recursion
import ClientModel.Proofs.Searches

/-!
Derivations of nodes come to an end.

A model or a union has its node before what it refers to is looked at, so that a way through the
declarations passes it only once. From one of them to the next no type comes twice, unless some
cycle avoids them all. Hence what is done when the references are used up makes no difference, and
where there is such a cycle it does.
-/

namespace ClientModel.Derivation

open Service (Definition Line Model Scalar Shape Union Variant)

variable {α β : Type} {context : Context}

/-! ## References that are used up -/

/-- The node of a declaration; what is done once the references are used up is left open. -/
def Context.nodeOr (context : Context) (exhausted : TypeId → Derive NodeId) :
    Nat → TypeId → Derive NodeId
  | 0 => exhausted
  | steps + 1 => context.nodeStep (nodeOr context exhausted steps)

/-- To derive within some references is to fail with a fault of its own once they are used up. -/
theorem nodeWithin_eq_nodeOr (steps : Nat) :
    context.nodeWithin steps =
      context.nodeOr (fun id => throw (.violation (.unguardedCycle id))) steps := by
  -- By induction on the references, for both count them down alike.
  induction steps with
  | zero => rfl
  | succ steps ih => rw [context.nodeWithin_succ, ih, Context.nodeOr]

/-- References may as well be counted from one point of the way and then from another. -/
theorem nodeOr_add (exhausted : TypeId → Derive NodeId) (steps more : Nat) :
    context.nodeOr exhausted (steps + more) =
      context.nodeOr (context.nodeOr exhausted more) steps := by
  -- By induction on the references that come first.
  induction steps with
  | zero => rw [Nat.zero_add, Context.nodeOr]
  | succ steps ih => rw [Nat.succ_add, Context.nodeOr, ih, Context.nodeOr]

/-! ## Steps that give up -/

/-- From every state, the first step does what the second one does, or gives up. -/
def Refines (gaveUp : Failure) (first second : Derive α) : Prop :=
  ∀ state, first state = second state ∨
    ∃ last, (first state : Except Failure α × State) = (.error gaveUp, last)

namespace Refines

variable {gaveUp : Failure}

/-- A step refines itself. -/
theorem same {step : Derive α} : Refines gaveUp step step :=
  fun _ => Or.inl rfl

/-- Steps are refined one after the other. -/
theorem bind {first second : Derive α} {next other : α → Derive β}
    (refines : Refines gaveUp first second)
    (rest : ∀ value, Refines gaveUp (next value) (other value)) :
    Refines gaveUp (first >>= next) (second >>= other) := by
  intro state
  rcases refines state with equal | ⟨last, givesUp⟩
  · cases run : (first state : Except Failure α × State) with
    | mk outcome between =>
      have run' := equal.symm.trans run
      cases outcome with
      | ok value =>
        rw [bind_ok run, bind_ok run']
        exact rest value between
      | error failure =>
        rw [bind_error run, bind_error run']
        exact Or.inl rfl
  -- What would follow a step that gives up does not happen.
  · exact Or.inr ⟨last, bind_error givesUp⟩

/-- A mapped step is refined with the step. -/
theorem map {first second : Derive α} {f : α → β} (refines : Refines gaveUp first second) :
    Refines gaveUp (f <$> first) (f <$> second) := by
  rw [map_eq_pure_bind, map_eq_pure_bind]
  exact refines.bind fun _ => same

/-- Steps for all entries are refined each by itself. -/
theorem mapM {step other : β → Derive α} (list : List β)
    (each : ∀ entry, Refines gaveUp (step entry) (other entry)) :
    Refines gaveUp (list.mapM step) (list.mapM other) := by
  -- By induction on the list.
  induction list with
  | nil => exact same
  | cons entry rest ih =>
    rw [List.mapM_cons, List.mapM_cons]
    exact (each entry).bind fun _ => ih.bind fun _ => same

/-- A fold is refined with its steps. -/
theorem foldlM {step other : α → β → Derive α} (list : List β) (start : α)
    (each : ∀ found entry, Refines gaveUp (step found entry) (other found entry)) :
    Refines gaveUp (list.foldlM step start) (list.foldlM other start) := by
  -- By induction on the list.
  induction list generalizing start with
  | nil => exact same
  | cons entry rest ih =>
    rw [List.foldlM_cons, List.foldlM_cons]
    exact (each start entry).bind ih

/-- A step that never fails of its own accord does not give up. -/
theorem eq {first second : Derive α} (refines : Refines gaveUp first second)
    (isOwn : gaveUp.endsRun = false)
    (ends : Ensures (fun _ => True) first (fun _ _ => True)
      fun failure _ => failure.endsRun = true) : first = second := by
  funext state
  -- The other way out would be a failure that ends the run.
  rcases refines state with equal | ⟨last, givesUp⟩
  · exact equal
  · have runEnds := ends.error trivial givesUp
    rw [isOwn] at runEnds
    cases runEnds

/-! ## Shapes -/

section

variable {derive derive' : TypeId → Derive NodeId}
  (others : ∀ id, Refines gaveUp (derive id) (derive' id))
include others

/-- The node of a scalar is refined with that of its base. -/
theorem scalarNode (id : TypeId) (scalar : Scalar) :
    Refines gaveUp (context.scalarNode derive id scalar)
      (context.scalarNode derive' id scalar) := by
  -- Only the base is derived from another type.
  have base : Refines gaveUp (Context.scalarBase? derive scalar)
      (Context.scalarBase? derive' scalar) := by
    unfold Context.scalarBase?
    split
    · exact (others _).map
    · exact same
  exact base.bind fun _ => same

/-- The node of a union of variants is refined with those of the variants. -/
theorem variantsNode (id : TypeId) (union : Union) (nullable : Bool) (variants : List Variant) :
    Refines gaveUp (context.variantsNode derive id union nullable variants)
      (context.variantsNode derive' id union nullable variants) := by
  -- The variants are derived once the union has a name and a node, which is noted.
  refine Refines.same.bind fun _ => Refines.same.bind fun _ => Refines.same.bind fun _ => ?_
  exact (mapM _ fun variant => others (Variant.type variant)).bind fun _ => same

/-- The node of a union is refined with those of its variants. -/
theorem unionNode (id : TypeId) (union : Union) :
    Refines gaveUp (context.unionNode derive id union) (context.unionNode derive' id union) := by
  unfold Context.unionNode
  dsimp only
  -- By the branches of the derivation: no variants, null alone, literals, or variants.
  split
  · exact same
  · exact (others _).bind fun _ => same
  · split
    · exact same
    · exact variantsNode others id union _ _

/-- What a model inherits from is refined with the node of its base. -/
theorem inheritance (model : Model) :
    Refines gaveUp (context.inheritance derive model) (context.inheritance derive' model) := by
  unfold Context.inheritance
  -- There is no base, or a record, of which the values are derived, or another type.
  split
  · exact same
  · split
    · exact (others _).bind fun _ => same
    · exact (others _).bind fun _ => same

/-- What a model adds is refined with the node of its values. -/
theorem additionalNode? (model : Model) (inherited : Option NodeId) :
    Refines gaveUp (Context.additionalNode? derive model inherited)
      (Context.additionalNode? derive' model inherited) := by
  unfold Context.additionalNode?
  -- What is declared is derived; what is inherited is there already.
  split
  · exact (others _).map
  · exact same

/-- The discriminator of a model is refined with the nodes of its subtypes. -/
theorem addDiscriminator? (node : NodeId) (model : Model) :
    Refines gaveUp (Context.addDiscriminator? derive node model)
      (Context.addDiscriminator? derive' node model) := by
  unfold Context.addDiscriminator?
  -- The subtypes are derived one after the other.
  split
  · refine (foldlM _ _ fun subtypes derived => ?_).bind fun _ => same
    exact (others derived).bind fun _ => same
  · exact same

/-- The node of a model is refined with those that it names. -/
theorem modelNode (id : TypeId) (model : Model) :
    Refines gaveUp (context.modelNode derive id model) (context.modelNode derive' id model) := by
  -- The name and the node come first; then the properties, the base, the rest and the subtypes.
  refine Refines.same.bind fun _ => Refines.same.bind fun _ => Refines.same.bind fun _ => ?_
  refine (mapM _ fun property => (others _).bind fun _ => same).bind fun _ => ?_
  refine Refines.same.bind fun _ => (inheritance others model).bind fun found => ?_
  refine (additionalNode? others model found.2).bind fun _ => Refines.same.bind fun _ => ?_
  exact (addDiscriminator? others _ model).bind fun _ => same

/-- The node of a shape is refined with those that the shape refers to. -/
theorem shapeNode (id : TypeId) (shape : Shape) :
    Refines gaveUp (context.shapeNode derive id shape) (context.shapeNode derive' id shape) := by
  cases shape with
  | scalar scalar => exact scalarNode others id scalar
  | member member => exact (others member.parent).bind fun _ => same
  | union union => exact unionNode others id union
  | array element => exact (others element).bind fun _ => same
  | record element => exact Refines.same.bind fun _ => (others element).bind fun _ => same
  | model model => exact modelNode others id model
  -- No other type is needed for what is left.
  | intrinsic _ | literal _ | enumeration _ => exact same

/-- A step is refined with what it derives. -/
theorem nodeStep (id : TypeId) :
    Refines gaveUp (context.nodeStep derive id) (context.nodeStep derive' id) := by
  unfold Context.nodeStep
  refine Refines.same.bind fun current => ?_
  -- A type that has a node is handed out.
  split
  · exact same
  · exact (shapeNode others _ _).bind fun _ => same

end

/-- By induction on the references that are left. -/
theorem nodeOr (exhausted : TypeId → Derive NodeId) (steps : Nat) (id : TypeId) :
    Refines gaveUp (context.nodeOr (fun _ => throw gaveUp) steps id)
      (context.nodeOr exhausted steps id) := by
  induction steps generalizing id with
  | zero => exact fun state => Or.inr ⟨state, rfl⟩
  | succ steps ih => exact nodeStep ih id

end Refines

/-! ## Ways -/

/-- The node of the first type is made last, and so awaits that of the second. -/
def Context.Awaits (context : Context) (first next : TypeId) : Prop :=
  context.LeadsTo first next ∧ ¬ context.IsOpen first

/-- A model or a union only awaits null, which awaits nothing. -/
theorem Context.Awaits.plain {first next last : TypeId} (awaits : context.Awaits first next)
    (further : context.Awaits next last) : context.definition.isComposite first = false := by
  -- A model or union that awaits anything awaits null, and null has no references by which to go
  -- on.
  by_contra composite
  have nowhere := awaits.1.ends (by simpa using composite) awaits.2
  obtain ⟨⟨reference, referred, -⟩, -⟩ := further
  rw [nowhere] at referred
  cases referred

/-- In a guarded definition no type awaits itself. -/
theorem Context.IsGuarded.not_awaits (guarded : context.IsGuarded) (id : TypeId) :
    ¬ Relation.TransGen context.Awaits id id :=
  fun cyclic => guarded id (Service.cycle_of_turns
    (fun _ _ _ awaits further => ⟨awaits.1, awaits.plain further⟩) cyclic)

/-- The models and unions on the way to a type, and the types on it since the last one of these. -/
structure Course (context : Context) (opened waiting : List TypeId) (id : TypeId) : Prop where
  inside : opened ⊆ context.definition.typeIds
  apart : opened.Nodup
  line : Line context.Awaits context.definition.typeIds waiting id

/-- How many references may still follow: a full line for every type that is not open yet. -/
def Context.allowance (context : Context) (opened waiting : List TypeId) : Nat :=
  let size := context.definition.types.size
  (size - opened.length) * (size + 1) + (size - waiting.length)

namespace Course

variable {opened waiting : List TypeId} {id next : TypeId}

/-- At the start nothing is open and nothing waits. -/
theorem start : Course context [] [] id :=
  ⟨List.nil_subset _, List.nodup_nil, .start⟩

/-- Behind a type that is opened now, another line starts. -/
theorem opens (course : Course context opened waiting id)
    (inside : id ∈ context.definition.typeIds) (new : id ∉ opened) :
    Course context (id :: opened) [] next :=
  ⟨List.cons_subset.mpr ⟨inside, course.inside⟩, List.nodup_cons.mpr ⟨new, course.apart⟩, .start⟩

/-- A type that is not open waits for the next one. -/
theorem waits (course : Course context opened waiting id) (guarded : context.IsGuarded)
    (inside : id ∈ context.definition.typeIds) (awaits : context.Awaits id next) :
    Course context opened (id :: waiting) next :=
  ⟨course.inside, course.apart, course.line.cons guarded.not_awaits inside awaits⟩

/-- To open a type lowers the allowance, for there are fewer types left to open. -/
theorem allowance_opens (course : Course context opened waiting id)
    (inside : id ∈ context.definition.typeIds) (new : id ∉ opened) :
    context.allowance (id :: opened) [] < context.allowance opened waiting := by
  have apart : (id :: opened).Nodup := List.nodup_cons.mpr ⟨new, course.apart⟩
  have short := (apart.subperm (List.cons_subset.mpr ⟨inside, course.inside⟩)).length_le
  rw [Definition.length_typeIds, List.length_cons] at short
  -- One type less is left to be opened, which is worth a full line and one reference more.
  obtain ⟨left, isLeft⟩ := Nat.exists_eq_add_of_le short
  have before : context.definition.types.size - opened.length = left + 1 := by omega
  have after : context.definition.types.size - (opened.length + 1) = left := by omega
  simp only [Context.allowance, List.length_cons, List.length_nil, before, after, Nat.succ_mul]
  omega

/-- To wait lowers the allowance, for a line of waiting types has no repetition. -/
theorem allowance_waits (course : Course context opened waiting id) (guarded : context.IsGuarded)
    (inside : id ∈ context.definition.typeIds) :
    context.allowance opened (id :: waiting) < context.allowance opened waiting := by
  -- The line has one type more, and in all it has fewer than there are types.
  have room := course.line.length_lt guarded.not_awaits inside
  rw [Definition.length_typeIds] at room
  simp only [Context.allowance, List.length_cons]
  omega

end Course

/-! ## Declarations -/

/-- The given types have nodes. -/
def Met (opened : List TypeId) (declared : OrderedMap TypeId NodeId) : Prop :=
  ∀ id ∈ opened, (declared.get? id).isSome

section

variable {opened : List TypeId} {id : TypeId}

/-- A type that is noted was met. -/
theorem Met.insert {declared : OrderedMap TypeId NodeId} (met : Met opened declared)
    (node : NodeId) : Met (id :: opened) (declared.insert id node) := by
  -- The type itself has a node by now, and others have theirs still.
  intro other listed
  rcases List.mem_cons.mp listed with rfl | earlier
  · rw [OrderedMap.get?_insert_self]
    rfl
  · exact isSome_insert node (met other earlier)

/-- What was met with one more type was met without it. -/
theorem Met.forget {declared : OrderedMap TypeId NodeId} (met : Met (id :: opened) declared) :
    Met opened declared :=
  fun other listed => met other (List.mem_cons_of_mem _ listed)

/-- Where a run may end, any type may be noted. -/
theorem Met.notes : Notes True (Met opened) (Met (id :: opened)) id :=
  ⟨fun _ _ => Or.inl trivial, fun _ node met => met.insert node⟩

/-- Where a run may end, a type may be noted without counting it as met. -/
theorem Met.notes_still : Notes True (Met opened) (Met opened) id :=
  ⟨fun _ _ => Or.inl trivial, fun _ node met => (met.insert node).forget⟩

end

section

variable (guarded : context.IsGuarded)
include guarded

/--
By induction on the references that are left: a way never uses them up.

A type that is met again has a node if it is open, and if it is not, a cycle of such types would
have to avoid all models and unions.
-/
theorem nodeOr_lands (exhausted : TypeId → Derive NodeId) (steps : Nat) :
    ∀ opened waiting id, Course context opened waiting (context.definition.payloadType id) →
      context.allowance opened waiting < steps →
      Lands True (Met opened) (Met opened) (context.nodeOr exhausted steps id) := by
  induction steps with
  | zero => exact fun _ _ _ _ enough => absurd enough (Nat.not_lt_zero _)
  | succ steps ih =>
    intro opened waiting id course enough
    refine nodeStep_lands ?_
    generalize context.definition.payloadType id = id at course
    by_cases isMet : id ∈ opened
    · -- Nothing is to be shown, for the type has a node.
      intro state start
      have known := start.1 id isMet
      rw [start.2] at known
      cases known
    suffices derives : Lands True (Met opened) (Met opened)
        (context.shapeNode (context.nodeOr exhausted steps) id (context.definition.shapeAt id)) from
      derives.weaken (fun _ => And.left) fun _ ends => ends
    by_cases inside : id ∈ context.definition.typeIds
    · by_cases isOpen : context.IsOpen id
      · have lower := course.allowance_opens inside isMet
        refine Lands.weaken (open_lands isOpen (fun reference _ => ?_) Met.notes)
          (fun _ start => start) fun _ => Met.forget
        exact ih _ [] reference (course.opens inside isMet) (by omega)
      · -- What is noted late waits for its references; on a cycle it would never come to an end.
        have lower := course.allowance_waits guarded inside
        refine shapeNode_lands (fun reference referred => ?_) Met.notes_still
          fun _ _ _ => Met.notes_still
        have awaits : context.Awaits id (context.definition.payloadType reference) :=
          ⟨⟨reference, referred, rfl⟩, isOpen⟩
        exact ih opened _ reference (course.waits guarded inside awaits) (by omega)
    · -- The unknown type refers to nothing.
      refine shapeNode_lands (fun reference referred => ?_) Met.notes_still
        fun _ _ _ => Met.notes_still
      simp [Context.references, Definition.shapeAt_of_notMem inside,
        Context.shapeReferences] at referred

/-- With references enough, only the end of the run fails a derivation. -/
theorem nodeOr_endsRun (exhausted : TypeId → Derive NodeId) (id : TypeId) :
    Ensures (fun _ => True) (context.nodeOr exhausted context.referenceBound id) (fun _ _ => True)
      fun failure _ => failure.endsRun = true := by
  have enough : context.allowance [] [] < context.referenceBound := by
    simp only [Context.allowance, Context.referenceBound, List.length_nil, Nat.sub_zero,
      Nat.succ_mul]
    omega
  refine Ensures.weaken (nodeOr_lands guarded exhausted _ [] [] id .start enough) ?_
    (fun _ _ _ => trivial) fun _ _ fails => fails.2
  -- At the start of a way no type is asked to have a node.
  exact fun _ _ other listed => absurd listed List.not_mem_nil

/-- A failure of the method at hand, which no derivation of a node comes to. -/
def outOfPlace : Failure :=
  .noCorrespondingParameter "" "" ⟨0⟩

/-- What is done once the references are used up makes no difference. -/
theorem nodeOr_congr (exhausted other : TypeId → Derive NodeId) (id : TypeId) :
    context.nodeOr exhausted context.referenceBound id =
      context.nodeOr other context.referenceBound id := by
  -- To give up there with a failure of another kind is to do the same as either.
  have same (exhausted : TypeId → Derive NodeId) :
      context.nodeOr (fun _ => throw outOfPlace) context.referenceBound id =
        context.nodeOr exhausted context.referenceBound id :=
    (Refines.nodeOr exhausted _ id).eq rfl (nodeOr_endsRun guarded _ id)
  rw [← same exhausted, ← same other]

/-- With references enough, it does not matter how running out of them is answered. -/
theorem nodeOr_eq_node (exhausted : TypeId → Derive NodeId) {steps : Nat}
    (enough : context.referenceBound ≤ steps) (id : TypeId) :
    context.nodeOr exhausted steps id = context.node id := by
  -- The bound is enough by itself, so what is left beyond it is never asked for.
  obtain ⟨more, rfl⟩ := Nat.exists_eq_add_of_le enough
  rw [nodeOr_add, Context.node, nodeWithin_eq_nodeOr]
  exact nodeOr_congr guarded _ _ id

/-- The node of a declaration is made of those that it refers to, which are derived alike. -/
theorem node_eq_nodeStep (id : TypeId) : context.node id = context.nodeStep context.node id := by
  -- The bound and the bound with one more step come to the same, and that step is the one to be
  -- seen.
  have same : context.nodeOr context.node context.referenceBound = context.node :=
    funext (nodeOr_eq_node guarded _ (Nat.le_refl _))
  have further := nodeOr_eq_node guarded context.node (Nat.le_succ context.referenceBound) id
  rw [Context.nodeOr, same] at further
  exact further.symm

/-- A derivation fails for the faults of shapes and for endless walks to encodings alone. -/
theorem node_blames {told : Violation → Prop}
    (own : ∀ cause : Violation, cause.isEndless = false → told cause)
    (bases : ∀ id type, context.definition.encoding? id = .error type → told (.endlessBases type))
    (id : TypeId) : Keeps (fun _ => True) (Failure.Blames told) (context.node id) := by
  have frame : ShapeFrame 0 (fun _ => True) (Failure.Blames told) :=
    ShapeFrame.anything fun cause ends other isCause => by
      cases isCause
      exact own cause ends
  -- The references may as well be used up with a failure that blames nothing.
  have keeps (steps : Nat) (id : TypeId) :
      Keeps (fun _ => True) (Failure.Blames told)
        (context.nodeOr (fun _ => throw outOfPlace) steps id) := by
    induction steps generalizing id with
    | zero => exact Ensures.throw fun _ _ => ⟨fun _ => nofun, fun _ => trivial⟩
    | succ steps ih =>
      -- A step blames what its own shape does, and what the steps before it do.
      refine frame.nodeStep ih (fun type last endless cause isCause => ?_) id
      cases isCause
      exact bases type last endless
  rw [← nodeOr_eq_node guarded (fun _ => throw outOfPlace) (Nat.le_refl _) id]
  exact keeps _ id

/-- Only a derivation that lacks references fails with the fault that tells of it. -/
theorem node_isBounded (id type : TypeId) (state last : State) :
    (context.node id state : Except Failure NodeId × State) ≠
      (.error (.violation (.unguardedCycle type)), last) := by
  intro fails
  -- Its own faults are others, and the walk to an encoding has its own.
  have blames : Keeps (fun _ => True)
      (Failure.Blames fun cause => cause ≠ .unguardedCycle type) (context.node id) := by
    refine node_blames guarded (fun cause ends isCycle => ?_) (fun _ _ _ => nofun) id
    rw [isCycle] at ends
    cases ends
  exact (blames.error trivial fails).1 _ rfl rfl

end

/-! ## Cycles without models and unions -/

/-- Along a cycle that avoids models and unions no type has a node, and references are used up. -/
theorem nodeOr_of_cycle {id : TypeId} (gaveUp : Failure) (steps : Nat)
    (cyclic : Relation.TransGen (fun first next => context.LeadsTo first next ∧
      context.definition.isComposite first = false) id id) :
    Ensures (fun state => state.declared = {}) (context.nodeOr (fun _ => throw gaveUp) steps id)
      (fun _ _ => False) fun failure _ => failure = gaveUp := by
  induction steps generalizing id with
  | zero => exact Ensures.throw fun _ _ => rfl
  | succ steps ih =>
    obtain ⟨next, ⟨⟨reference, referred, isNext⟩, plain⟩, back⟩ :=
      Relation.TransGen.head'_iff.mp cyclic
    -- The next type is on the cycle as well, so that it is what is referred to.
    have further : Relation.TransGen (fun first next => context.LeadsTo first next ∧
        context.definition.isComposite first = false) next next :=
      .tail' back ⟨⟨reference, referred, isNext⟩, plain⟩
    obtain ⟨_, ⟨_, nextPlain⟩, _⟩ := Relation.TransGen.head'_iff.mp further
    obtain rfl : reference = next :=
      (payloadType_of_plain (isNext ▸ nextPlain)).symm.trans isNext
    have stops := ih further
    suffices derives : Ensures (fun state => state.declared = {})
        (context.shapeNode (context.nodeOr (fun _ => throw gaveUp) steps) id
          (context.definition.shapeAt id))
        (fun _ _ => False) fun failure _ => failure = gaveUp by
      -- The type itself has no node, so that it is derived by its shape.
      rw [Context.nodeOr, Context.nodeStep,
        Context.payloadType_eq (Definition.model?_of_plain plain)]
      refine Ensures.get_bind fun current start => ?_
      rw [start]
      exact Ensures.bind (derives.starting fun state isCurrent => isCurrent ▸ start)
        fun _ _ never => never.elim
    rw [Context.references] at referred
    rw [Definition.isComposite] at plain
    -- A type of one of these shapes derives its only reference first of all.
    cases shape : context.definition.shapeAt id with
    | array element =>
      rw [shape] at referred
      rw [List.mem_singleton.mp referred] at stops
      exact Ensures.bind stops fun _ _ never => never.elim
    | record element =>
      rw [shape] at referred
      rw [List.mem_singleton.mp referred] at stops
      refine Ensures.via (fun _ state => state.declared = {}) ?_ fun _ =>
        Ensures.bind stops fun _ _ never => never.elim
      exact Ensures.builtinNode (fun _ _ unmet _ => unmet) fun _ unmet _ => unmet
    | member member =>
      rw [shape] at referred
      rw [List.mem_singleton.mp referred] at stops
      exact Ensures.bind stops fun _ _ never => never.elim
    | scalar scalar =>
      simp only [shape, Context.shapeReferences] at referred
      split at referred
      · rename_i inNamespace
        obtain ⟨container, isContainer⟩ := Option.isSome_iff_exists.mp inNamespace
        have base : Ensures (fun state => state.declared = {})
            (Context.scalarBase? (context.nodeOr (fun _ => throw gaveUp) steps) scalar)
            (fun _ _ => False) fun failure _ => failure = gaveUp := by
          unfold Context.scalarBase?
          rw [isContainer, Option.mem_toList.mp referred]
          exact Ensures.map stops
        exact Ensures.bind base fun _ _ never => never.elim
      · cases referred
    | model _ | union _ => simp [shape] at plain
    | intrinsic _ | literal _ | enumeration _ =>
      simp [shape, Context.shapeReferences] at referred

/-- If references are never used up at the start of a run, cycles pass through models and unions. -/
theorem isGuarded_of_ends {steps : Nat}
    (ends : ∀ exhausted other id, context.nodeOr exhausted steps id {} =
      context.nodeOr other steps id {}) : context.IsGuarded := by
  intro id cyclic
  have fails (gaveUp : Failure) : ∃ last,
      (context.nodeOr (fun _ => throw gaveUp) steps id {} : Except Failure NodeId × State) =
        (.error gaveUp, last) := by
    have stops := nodeOr_of_cycle gaveUp steps cyclic {} rfl
    revert stops
    cases (context.nodeOr (fun _ => throw gaveUp) steps id {} : Except Failure NodeId × State) with
    | mk outcome last =>
      cases outcome with
      | ok node => exact fun never => never.elim
      | error failure => exact fun same => ⟨last, by rw [same]⟩
  -- Two ways to give up do not come to the same.
  obtain ⟨last, givesUp⟩ := fails outOfPlace
  obtain ⟨last', givesUp'⟩ := fails (.violation (.unguardedCycle id))
  have same := givesUp.symm.trans ((ends _ _ id).trans givesUp')
  cases same

/-! ## The whole derivation -/

/--
A node is derived within a known number of references, whatever types refer to one another.

It makes no difference what is done once more references than that have been followed, and so the
derivation is the one that follows references without a bound. The same goes for the walks on the
way: from a scalar to the nearest encoding, from a model to its bases, and, for a type without a
name, from a lead to that type.
-/
theorem derivation_of_node_ends (guarded : context.IsGuarded)
    (acyclic : ∀ id, ¬ Relation.TransGen context.definition.Extends id id) :
    (∀ exhausted steps, context.referenceBound ≤ steps → ∀ id state,
        context.nodeOr exhausted steps id state = context.node id state) ∧
      (∀ id state, context.node id state = context.nodeStep context.node id state) ∧
      (∀ id state type last, (context.node id state : Except Failure NodeId × State) ≠
        (.error (.violation (.unguardedCycle type)), last)) ∧
      ∀ steps, context.definition.types.size < steps →
        (∀ exhausted id,
          context.definition.encodingOr exhausted steps id = context.definition.encoding? id) ∧
        (∀ exhausted id,
          context.definition.lineageOr exhausted steps [] id = context.definition.lineage id) ∧
        ∀ exhausted target leads,
          (followAll (pathOr context.definition target exhausted steps) [] leads).1 =
            pathFrom context.definition target leads := by
  -- The nodes come first, and then the walks that derivations take through the definition.
  refine ⟨fun exhausted _ enough id state => ?_, fun id state => ?_,
    fun id state type last => node_isBounded guarded id type state last, fun steps enough => ?_⟩
  · exact congrFun (nodeOr_eq_node guarded exhausted enough id) state
  · exact congrFun (node_eq_nodeStep guarded id) state
  · exact ⟨fun exhausted => Definition.encodingOr_eq_encoding? acyclic exhausted enough,
      fun exhausted => Definition.lineageOr_eq_lineage exhausted enough,
      fun exhausted _ => pathOr_eq_pathFrom exhausted enough⟩

/-- Animals, which live with animals and with packs, and dogs among them, which have a breed. -/
def farmyard : Definition where
  types := #[
    { shape := .model {
        name := some "Animal"
        namespaceId := some ⟨0⟩
        properties := [⟨0⟩, ⟨1⟩]
        derived := [⟨1⟩]
        discriminator := some "kind" } },
    { shape := .model {
        name := some "Dog"
        namespaceId := some ⟨0⟩
        properties := [⟨2⟩, ⟨3⟩]
        base := some ⟨0⟩ } },
    { shape := .union { variants := [{ type := ⟨0⟩ }, { type := ⟨3⟩ }] } },
    { shape := .array ⟨2⟩ },
    { shape := .literal (.text "dog") },
    { shape := .scalar { name := "string" } },
    { shape := .scalar { name := "breed", namespaceId := some ⟨0⟩, base := some ⟨5⟩ } }]
  properties := #[
    { name := "kind", type := ⟨5⟩, model := some ⟨0⟩ },
    { name := "company", type := ⟨3⟩, model := some ⟨0⟩ },
    { name := "kind", type := ⟨4⟩, model := some ⟨1⟩ },
    { name := "breed", type := ⟨6⟩, model := some ⟨1⟩ }]
  containers := #[{ name := "Farmyard", service := some {} }]

/-- In the farmyard types refer to earlier ones. -/
theorem farmyard_isGuarded : (Context.of farmyard {}).IsGuarded :=
  isGuarded_of_earlier (by decide)

/-- In the farmyard scalars extend earlier ones. -/
theorem farmyard_extends (id : TypeId) :
    ¬ Relation.TransGen (Context.of farmyard {}).definition.Extends id id :=
  Definition.extends_acyclic_of_earlier (by decide) id

/-- In the farmyard derivations end, whatever is done once references are used up. -/
theorem derivation_of_node_ends_farmyard :
    (Context.of farmyard {}).IsGuarded ∧
      (∀ id, ¬ Relation.TransGen (Context.of farmyard {}).definition.Extends id id) ∧
      (∀ exhausted steps, (Context.of farmyard {}).referenceBound ≤ steps → ∀ id state,
        (Context.of farmyard {}).nodeOr exhausted steps id state =
          (Context.of farmyard {}).node id state) ∧
      ∀ exhausted, farmyard.encodingOr exhausted 8 ⟨6⟩ = .ok none :=
  have ends := derivation_of_node_ends farmyard_isGuarded farmyard_extends
  ⟨farmyard_isGuarded, farmyard_extends, ends.1, fun exhausted =>
    ((ends.2.2.2 8 (by decide)).1 exhausted ⟨6⟩).trans (by decide)⟩

end ClientModel.Derivation
