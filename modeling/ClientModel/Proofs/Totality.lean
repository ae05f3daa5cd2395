import Mathlib.Data.List.Nodup
import Mathlib.Data.List.Perm.Subperm
import ClientModel.Proofs.Landing
import ClientModel.Proofs.Searches

/-!
Deriving nodes never fails where only models and unions come back to themselves.

The types on the way to a derivation are of two sorts: those whose nodes are there already, and
those whose nodes are made last. The latter are never met again on the way.
-/

namespace ClientModel.Derivation

open Service (Definition Enumeration Intrinsic Literal Model Scalar Shape Union Variant)

variable {α β : Type} {context : Context}

/-! ## Ways -/

/-- The types on the way to one whose node is derived: none comes twice, or comes back to itself. -/
structure Trail (context : Context) (opened late : List TypeId) (id : TypeId) : Prop where
  inside : ∀ other ∈ opened ++ late, other.index < context.definition.types.size
  apart : (opened ++ late).Nodup
  leads : ∀ other ∈ late, Relation.TransGen context.LeadsTo other id
  acyclic : ∀ other ∈ late, ¬ Relation.TransGen context.LeadsTo other other
  plain : ∀ other ∈ late, ∀ member, context.definition.shapeAt other ≠ .member member

namespace Trail

variable {opened late : List TypeId} {id next : TypeId}

/-- No way is longer than there are types. -/
theorem length_le (trail : Trail context opened late id) :
    opened.length + late.length ≤ context.definition.types.size := by
  -- The places of the types on the way are different numbers below the size of the table.
  have places : ((opened ++ late).map TypeId.index).Nodup :=
    List.Nodup.map (fun left right same => by cases left; cases right; simpa using same) trail.apart
  have within : (opened ++ late).map TypeId.index ⊆ List.range context.definition.types.size := by
    intro place listed
    obtain ⟨other, member, rfl⟩ := List.mem_map.mp listed
    exact List.mem_range.mpr (trail.inside other member)
  simpa using (places.subperm within).length_le

/-- The end of the way is none of the types that wait. -/
theorem not_late (trail : Trail context opened late id) : id ∉ late :=
  fun isLate => trail.acyclic id isLate (trail.leads id isLate)

/-- The way goes on from a type whose node is there. -/
theorem opens (trail : Trail context opened late id)
    (inside : id.index < context.definition.types.size) (new : id ∉ opened)
    (leads : context.LeadsTo id next) : Trail context (id :: opened) late next where
  -- The type joins those that are open, and is distinct from all on the way.
  inside other member := by
    rcases List.mem_cons.mp member with rfl | earlier
    · exact inside
    · exact trail.inside other earlier
  apart := by
    rw [List.cons_append, List.nodup_cons]
    exact ⟨by simp [new, trail.not_late], trail.apart⟩
  leads other isLate := (trail.leads other isLate).tail leads
  acyclic := trail.acyclic
  plain := trail.plain

/-- The way goes on from a type whose node is made last. -/
theorem waits (trail : Trail context opened late id)
    (inside : id.index < context.definition.types.size) (new : id ∉ opened)
    (leads : context.LeadsTo id next) (acyclic : ¬ Relation.TransGen context.LeadsTo id id)
    (plain : ∀ member, context.definition.shapeAt id ≠ .member member) :
    Trail context opened (id :: late) next where
  inside other member := by
    rcases List.mem_append.mp member with isOpened | isLate
    · exact trail.inside other (List.mem_append_left _ isOpened)
    · rcases List.mem_cons.mp isLate with rfl | earlier
      · exact inside
      · exact trail.inside other (List.mem_append_right _ earlier)
  apart := by
    -- Those that are open come before those that wait, and the new one is neither.
    rw [List.nodup_middle, List.nodup_cons]
    exact ⟨by simp [new, trail.not_late], trail.apart⟩
  leads other isLate := by
    -- The type that now waits leads on itself; what waited before did so by way of it.
    rcases List.mem_cons.mp isLate with rfl | earlier
    · exact .single leads
    · exact (trail.leads other earlier).tail leads
  acyclic other isLate := by
    rcases List.mem_cons.mp isLate with rfl | earlier
    · exact acyclic
    · exact trail.acyclic other earlier
  plain other isLate := by
    rcases List.mem_cons.mp isLate with rfl | earlier
    · exact plain
    · exact trail.plain other earlier

end Trail

namespace Ready

variable {opened late : List TypeId} {id : TypeId} {declared : OrderedMap TypeId NodeId}

/-- What holds while one more type is open holds without it. -/
theorem forget (ready : Ready context (id :: opened) late declared) :
    Ready context opened late declared :=
  ⟨ready.members, fun other member => ready.known other (List.mem_cons_of_mem _ member),
    ready.awaited⟩

/-- Whatever is neither an enum nor a member of one may be noted. -/
theorem note (ready : Ready context opened late declared) (node : NodeId)
    (closed : id ∉ late)
    (notEnum : ∀ enumeration, context.definition.shapeAt id ≠ .enumeration enumeration)
    (notMember : ∀ member, context.definition.shapeAt id ≠ .member member)
    (placed : context.definition.MembersPlaced) :
    Ready context (id :: opened) late (declared.insert id node) := by
  -- No other declaration is noted.
  have same (other : TypeId) (apart : other ≠ id) :
      (declared.insert id node).get? other = declared.get? other :=
    OrderedMap.get?_insert_ne _ _ apart
  refine { members := ?members, known := ?known, awaited := ?awaited }
  case members =>
    intro other member isMember
    obtain ⟨enumeration, parent, _⟩ := placed.listed other member isMember
    rw [same, same]
    · exact ready.members other member isMember
    · rintro rfl
      exact notEnum enumeration parent
    · rintro rfl
      exact notMember member isMember
  case known =>
    intro other isKnown
    rcases List.mem_cons.mp isKnown with rfl | earlier
    · rw [OrderedMap.get?_insert_self]
      rfl
    · exact isSome_insert node (ready.known other earlier)
  case awaited =>
    intro other isLate
    rw [same other fun isId => closed (isId ▸ isLate)]
    exact ready.awaited other isLate

end Ready

/-! ## Declarations -/

section

variable {opened late : List TypeId} {id : TypeId} {steps : Nat}

/-- A type that has no node yet is derived by what it declares. -/
theorem nodeWithin_lands_of_shape
    (derives : Lands False (fun declared => Ready context opened late declared ∧
        declared.get? (context.definition.payloadType id) = none)
      (Ready context (context.definition.payloadType id :: opened) late)
      (context.shapeNode (context.nodeWithin steps) (context.definition.payloadType id)
        (context.definition.shapeAt (context.definition.payloadType id)))) :
    Lands False (Ready context opened late)
      (Ready context (context.definition.payloadType id :: opened) late)
      (context.nodeWithin (steps + 1) id) := by
  unfold Context.nodeWithin
  -- Whether the type has a node already is looked up first.
  refine Ensures.get_bind fun current start => ?_
  split
  · -- A type that has a node is handed out as it is.
    rename_i node known
    refine Ensures.pure ?_
    rintro state rfl
    refine ⟨start.members, fun other isKnown => ?_, start.awaited⟩
    rcases List.mem_cons.mp isKnown with rfl | earlier
    · exact Option.isSome_iff_exists.mpr ⟨node, known⟩
    · exact start.known other earlier
  · -- A type without a node gets one, and documentation is a mark on it.
    rename_i unknown
    refine Ensures.bind (Ensures.starting derives ?_)
      fun node => ?_
    · rintro state rfl
      exact ⟨start, by simpa using unknown⟩
    · exact Lands.modifyNode.bind fun _ => .pure

variable (placed : context.definition.MembersPlaced)
include placed

/-- A type that refers to nothing is derived in a single step. -/
theorem leaf_lands (closed : id ∉ late)
    (plain : ∀ other ∈ late, ∀ member, context.definition.shapeAt other ≠ .member member)
    (nowhere : context.references id = [])
    (encodes : ∃ encode, context.definition.encoding? id = .ok encode)
    {derive : TypeId → Derive NodeId} :
    Lands False (fun declared => Ready context opened late declared ∧ declared.get? id = none)
      (Ready context (id :: opened) late)
      (context.shapeNode derive id (context.definition.shapeAt id)) := by
  by_cases isEnum : ∃ enumeration, context.definition.shapeAt id = .enumeration enumeration
  · obtain ⟨enumeration, shape⟩ := isEnum
    rw [shape]
    exact enumerationNode_lands placed shape plain closed
  · have notMember (member : Service.Member) : context.definition.shapeAt id ≠ .member member := by
      intro shape
      simp [Context.references, shape, Context.shapeReferences] at nowhere
    -- What follows a reference is never asked for.
    have others {during : OrderedMap TypeId NodeId → Prop} :
        ∀ reference ∈ context.references id, Lands False during during (derive reference) := by
      simp [nowhere]
    have notes : Notes False
        (fun declared => Ready context opened late declared ∧ declared.get? id = none)
        (Ready context (id :: opened) late) id :=
      ⟨fun _ start => Or.inr start.2, fun _ node start => start.1.note node closed
        (fun enumeration shape => isEnum ⟨enumeration, shape⟩) notMember placed⟩
    by_cases isOpen : context.IsOpen id
    · exact open_lands isOpen others notes
    · exact late_lands isOpen (fun enumeration shape => isEnum ⟨enumeration, shape⟩) notMember
        others (Or.inr encodes) notes

end

/-- Every type that comes back to itself is a model or a union. -/
def Context.IsSafe (context : Context) : Prop :=
  ∀ id, Relation.TransGen context.LeadsTo id id → context.definition.isComposite id

/-- A model or a union that is not open leads at most to null, which leads no further. -/
theorem Context.LeadsTo.ends {id other : TypeId} (leads : context.LeadsTo id other)
    (composite : context.definition.isComposite id = true) (late : ¬ context.IsOpen id) :
    context.references other = [] := by
  obtain ⟨reference, referred, rfl⟩ := leads
  rw [Definition.isComposite] at composite
  rw [Context.IsOpen] at late
  rw [Context.references] at referred
  cases shape : context.definition.shapeAt id with
  | model declared => simp [shape] at late
  | union union =>
    simp only [shape, not_and] at late
    simp only [shape, Context.shapeReferences, Context.unionReferences] at referred
    split at referred
    · rename_i noneValued
      rw [List.isEmpty_iff] at noneValued
      cases all : union.variants with
      | nil => simp [all] at referred
      | cons null rest =>
        -- The only reference is to null.
        have isNull : context.definition.shapeAt null.type = .intrinsic .null := by
          have noneLeft := List.filter_eq_nil_iff.mp noneValued null (by simp [all])
          simpa [Definition.isNull] using noneLeft
        have isReference : reference = null.type := by simpa [all] using referred
        rw [isReference, Context.payloadType_eq (by simp [Definition.model?, isNull])]
        simp [Context.references, isNull, Context.shapeReferences]
    · rename_i valued
      split at referred
      · cases referred
      · rename_i notFlat
        exact absurd (by simpa using notFlat) (late (by simpa using valued))
  | scalar _ | intrinsic _ | literal _ | enumeration _ | member _ | array _ | record _ =>
    simp [shape] at composite

/-- In a safe definition no type leads back to itself unless it is open. -/
theorem Context.IsSafe.acyclic {id : TypeId} (safe : context.IsSafe) (late : ¬ context.IsOpen id) :
    ¬ Relation.TransGen context.LeadsTo id id := by
  intro cyclic
  obtain ⟨next, leads, back⟩ := Relation.TransGen.head'_iff.mp cyclic
  have nowhere := leads.ends (safe id cyclic) late
  -- The way back is over at once, where the type itself would have to lead on.
  rw [← Context.not_reaches nowhere back] at nowhere
  obtain ⟨reference, referred, -⟩ := leads
  rw [nowhere] at referred
  cases referred

section

variable (placed : context.definition.MembersPlaced) (safe : context.IsSafe)
  (searchable : Searchable context.definition)
include placed safe searchable

omit safe searchable in
/-- A member gets its node along with the enum that lists it. -/
theorem member_lands {opened late : List TypeId} {id : TypeId} {steps : Nat}
    {member : Service.Member} (shape : context.definition.shapeAt id = .member member)
    (trail : Trail context opened late id)
    (inside : id.index < context.definition.types.size) (new : id ∉ opened)
    (enough : context.definition.types.size + 1 ≤ opened.length + late.length + (steps + 1)) :
    Lands False (Ready context opened late) (Ready context (id :: opened) late)
      (context.shapeNode (context.nodeWithin steps) id (.member member)) := by
  obtain ⟨enumeration, parentShape, _⟩ := placed.listed id member shape
  have parent : context.definition.payloadType member.parent = member.parent :=
    Context.payloadType_eq (by simp [Definition.model?, parentShape])
  -- There is at least one reference left, and the enum itself refers to nothing.
  have further : Trail context (id :: opened) late member.parent :=
    trail.opens inside new ⟨member.parent, by
      simp [Context.references, shape, Context.shapeReferences], parent⟩
  have short := further.length_le
  rw [List.length_cons] at short
  obtain ⟨rest, rfl⟩ : ∃ rest, steps = rest + 1 := ⟨steps - 1, by omega⟩
  have derives : Lands False (Ready context opened late)
      (Ready context (context.definition.payloadType member.parent :: opened) late)
      (context.nodeWithin (rest + 1) member.parent) := by
    refine nodeWithin_lands_of_shape ?_
    rw [parent, parentShape]
    exact enumerationNode_lands placed parentShape further.plain further.not_late
  rw [parent] at derives
  refine Ensures.bind derives fun node => Ensures.get_bind fun current ready => ?_
  -- Now that the enum has its node, so has the member.
  have known := (ready.members id member shape).mpr (ready.known _ List.mem_cons_self)
  split
  · refine Ensures.pure ?_
    rintro state rfl
    refine ⟨ready.members, fun other isKnown => ?_, ready.awaited⟩
    rcases List.mem_cons.mp isKnown with rfl | earlier
    · exact known
    · exact ready.known other (List.mem_cons_of_mem _ earlier)
  · rename_i unknown
    obtain ⟨node, isNode⟩ := Option.isSome_iff_exists.mp known
    rw [unknown] at isNode
    cases isNode

/--
By induction on the references that are left: no type on the way is met a second time without a
node, so that there are references left for all types beside it.
-/
theorem nodeWithin_lands (steps : Nat) :
    ∀ opened late id, Trail context opened late (context.definition.payloadType id) →
      context.definition.types.size + 1 ≤ opened.length + late.length + steps →
      Lands False (Ready context opened late)
        (Ready context (context.definition.payloadType id :: opened) late)
        (context.nodeWithin steps id) := by
  induction steps with
  | zero =>
    intro opened late id trail enough
    have short := trail.length_le
    omega
  | succ steps ih =>
    intro opened late id trail enough
    refine nodeWithin_lands_of_shape ?_
    generalize context.definition.payloadType id = id at trail
    by_cases nowhere : context.references id = []
    · exact leaf_lands placed trail.not_late trail.plain nowhere
        ((searchable_iff.mp searchable).1 id)
    by_cases isOpened : id ∈ opened
    · -- Nothing is to be shown, for the type has a node.
      intro state start
      have known := start.1.known id isOpened
      rw [start.2] at known
      cases known
    -- What refers to anything is declared.
    have inside : id.index < context.definition.types.size := by
      by_contra outside
      rw [← Definition.mem_typeIds] at outside
      exact nowhere (by
        rw [Context.references, Definition.shapeAt_of_notMem outside, Context.shapeReferences])
    have notEnum (enumeration : Enumeration) :
        context.definition.shapeAt id ≠ .enumeration enumeration := by
      intro shape
      simp [Context.references, shape, Context.shapeReferences] at nowhere
    -- A member goes through its enum; any other type is noted before or after its references.
    by_cases isMember : ∃ member, context.definition.shapeAt id = .member member
    · obtain ⟨member, shape⟩ := isMember
      rw [shape]
      exact (member_lands placed shape trail inside isOpened enough).weaken (fun _ start => start.1)
        fun _ ends => ends
    have notMember (member : Service.Member) : context.definition.shapeAt id ≠ .member member :=
      fun shape => isMember ⟨member, shape⟩
    by_cases isOpen : context.IsOpen id
    · refine open_lands isOpen (fun reference referred => ?_) ⟨fun _ start => Or.inr start.2,
        fun _ node start => start.1.note node trail.not_late notEnum notMember placed⟩
      refine Lands.weaken (ih (id :: opened) late reference
        (trail.opens inside isOpened ⟨reference, referred, rfl⟩) ?_) (fun _ start => start)
        fun _ ends => ends.forget
      simp only [List.length_cons]
      omega
    · -- A type that is noted last waits while its references are derived, and is not met again.
      have acyclic := safe.acyclic isOpen
      have notes : Notes False (Ready context opened (id :: late))
          (Ready context (id :: opened) late) id :=
        ⟨fun _ ready => Or.inr (ready.awaited id List.mem_cons_self), fun _ node ready =>
          Ready.note ⟨ready.members, ready.known, fun other isLate =>
            ready.awaited other (List.mem_cons_of_mem _ isLate)⟩ node trail.not_late notEnum
            notMember placed⟩
      refine Lands.weaken (late_lands isOpen notEnum notMember (fun reference referred => ?_)
          (Or.inr ((searchable_iff.mp searchable).1 id)) notes)
        (fun declared start => ⟨start.1.members, start.1.known, fun other isLate => ?_⟩)
        fun _ ends => ends
      · refine Lands.weaken (ih opened (id :: late) reference
          (trail.waits inside isOpened ⟨reference, referred, rfl⟩ acyclic notMember) ?_)
          (fun _ start => start) fun _ ends => ends.forget
        simp only [List.length_cons]
        omega
      · rcases List.mem_cons.mp isLate with rfl | earlier
        · exact start.2
        · exact start.1.awaited other earlier

/-- No derivation of a node fails, whatever nodes there are already. -/
theorem node_lands (id : TypeId) :
    Lands False (Ready context [] []) (Ready context [] []) (context.node id) := by
  -- No type is open and none waits at the start.
  have trail : Trail context [] [] (context.definition.payloadType id) :=
    ⟨by simp, by simp, by simp, by simp, by simp⟩
  refine (nodeWithin_lands placed safe searchable context.referenceBound [] [] id trail ?_).weaken
    (fun _ start => start) fun _ ends => ends.forget
  have square := Nat.le_mul_self (context.definition.types.size + 1)
  simp only [Context.referenceBound, List.length_nil]
  omega

/-- No step of a run fails but for methods, which are left out when they do. -/
theorem ready_robust : Robust context (Knows (Ready context [] [])) (Fatal False) where
  -- Neither names nor reports touch the declarations.
  toSteady := .nameless (fun _ _ => Lands.builtinNode.keeps) (fun _ _ _ start => start)
    (fun _ _ start => start) fun _ _ _ start => start
  node id := (node_lands placed safe searchable id).keeps
  search types := by
    have ends (type : TypeId) := (searchable_iff.mp searchable).2 type
    exact (Lands.answerOf (Or.inr (findSomeM?_finalMonitor?_isOk fun type _ => ends type))).keeps
  clientParameter _ _ _ start := start
  endpoints _ _ start := start
  credentials _ _ start := start
  seeds _ _ start := start
  bodyFormats _ _ start := start

end

/--
Where only models and unions come back to themselves, every service has a package.

Besides, the searches on the way must end.
-/
theorem derivePackage_isOk {definition : Definition} {options : Options}
    (placed : definition.MembersPlaced) (safe : (Context.of definition options).IsSafe)
    (searchable : Searchable definition) :
    ∃ package, derivePackage definition options = .ok package := by
  have start : Knows (Ready (Context.of definition options) [] []) {} :=
    ⟨by simp [OrderedMap.get?], by simp, by simp⟩
  have lands :=
    (ready_robust placed safe searchable).stable.clients (fun _ _ _ _ => trivial) {} start
  unfold derivePackage
  -- A run fails for faults only, and there are none.
  cases run :
      ((Context.of definition options).clients {} : Except Failure (List Client) × State) with
  | mk outcome state =>
    rw [run] at lands
    cases outcome with
    | ok clients => exact ⟨state.package _ clients, by simp [ExceptT.run, run]; rfl⟩
    | error failure => exact lands.1.1.elim

end ClientModel.Derivation
