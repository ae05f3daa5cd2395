import ClientModel.Proofs.Growth

/-!
Derivations of nodes that do not fail.

Of all that a run has found, only the declarations that have a node decide whether another one can
be noted. Shape by shape, a derivation comes to an end if those of other types do so.
-/

namespace ClientModel.Derivation

open Service (Definition Enumeration Intrinsic Literal Model Scalar Shape Union Variant)

variable {α β : Type} {context : Context}

/-! ## Steps that come to an end -/

/-- The declarations that have a node are as told. -/
def Knows (told : OrderedMap TypeId NodeId → Prop) (state : State) : Prop :=
  told state.declared

/-- A failure that ends the run; only a fallible step comes to one. -/
def Fatal (fallible : Prop) (failure : Failure) : Prop :=
  fallible ∧ failure.endsRun = true

/-- From declarations of one sort, a step leads to those of the other, or to the run's end. -/
def Lands (fallible : Prop) (before after : OrderedMap TypeId NodeId → Prop) (step : Derive α) :
    Prop :=
  Ensures (Knows before) step (fun _ => Knows after)
    fun failure _ => Fatal fallible failure

section

variable {fallible : Prop} {before during after : OrderedMap TypeId NodeId → Prop}

/-- To return a value leaves the declarations as they are. -/
theorem Lands.pure {value : α} : Lands fallible during during (pure value : Derive α) :=
  Ensures.pure fun _ start => start

/-- Two steps land where the second one does. -/
theorem Lands.bind {step : Derive α} {next : α → Derive β}
    (first : Lands fallible before during step)
    (rest : ∀ value, Lands fallible during after (next value)) :
    Lands fallible before after (step >>= next) :=
  Ensures.bind first rest

/-- What is asked for may be more, and what is told less. -/
theorem Lands.weaken {before' after' : OrderedMap TypeId NodeId → Prop} {step : Derive α}
    (lands : Lands fallible before after step)
    (start : ∀ declared, before' declared → before declared)
    (ends : ∀ declared, after declared → after' declared) : Lands fallible before' after' step :=
  Ensures.weaken lands (fun _ => start _) (fun _ _ => ends _) fun _ _ fails => fails

/-- Whatever keeps what is known without a failure comes to an end with it. -/
theorem Keeps.lands {step : Derive α} (keeps : Keeps (Knows during) (Fatal fallible) step) :
    Lands fallible during during step :=
  Ensures.weaken keeps (fun _ start => start) (fun _ _ ends => ends) fun _ _ fails => fails.1

/-- A step that lands where it started keeps what is known. -/
theorem Lands.keeps {step : Derive α} (lands : Lands fallible during during step) :
    Keeps (Knows during) (Fatal fallible) step :=
  -- A failure that is no fault leaves the state where it was.
  Ensures.weaken lands (fun _ start => start) (fun _ _ ends => ends) fun _ _ fails =>
    ⟨fails, fun isOwn => by rw [fails.2] at isOwn; cases isOwn⟩

/-- A search that may fail, or else ends, is answered. -/
theorem Lands.answerOf {endless : TypeId → Violation} {search : Except TypeId α}
    (answered : fallible ∨ ∃ found, search = .ok found) :
    Lands fallible during during (answerOf endless search) := by
  -- If it has no end, it was allowed to fail.
  refine Ensures.answerOf (fun _ _ _ start => start) fun type _ fails _ => ⟨?_, rfl⟩
  refine answered.resolve_right ?_
  rintro ⟨found, isFound⟩
  rw [isFound] at fails
  cases fails

/-- A node that is added is noted for no declaration. -/
theorem Lands.addNode {node : Node} : Lands fallible during during (addNode node) :=
  Ensures.addNode fun _ start => start

/-- A node that is changed is noted for no declaration. -/
theorem Lands.modifyNode {id : NodeId} {change : Node → Node} :
    Lands fallible during during (modifyNode id change) :=
  Ensures.modifyNode fun _ start => start

/-- A builtin type is noted for no declaration. -/
theorem Lands.builtinNode {kind : BuiltinKind} {name : String} :
    Lands fallible during during (builtinNode kind name) :=
  Ensures.builtinNode (fun _ _ start _ => start) fun _ start _ => start

/-- A name that is made up is noted for no declaration. -/
theorem Lands.nameOrGenerated {id : TypeId} {declared : Option String} :
    Lands fallible during during (context.nameOrGenerated id declared) :=
  -- Names are kept beside the nodes, and to make one up remembers no node.
  Ensures.ending (nameOrGenerated_keeps (fun _ _ start => start) id declared) fun _ _ ends =>
    ends.1

/-- To make a step for each entry of a list lands where the steps do. -/
theorem Lands.mapM {step : β → Derive α} {list : List β}
    (each : ∀ entry ∈ list, Lands fallible during during (step entry)) :
    Lands fallible during during (list.mapM step) :=
  Ensures.mapM (fun _ => Knows during) list (fun entry member _ => each entry member) []

/-- So does a fold. -/
theorem Lands.foldlM {step : α → β → Derive α} {list : List β} {start : α}
    (each : ∀ found, ∀ entry ∈ list, Lands fallible during during (step found entry)) :
    Lands fallible during during (list.foldlM step start) :=
  -- By induction on the list: each step starts where the one before has landed.
  Ensures.foldlM (fun _ => Knows during) list (fun entry member found => each found entry member)
    start

/-- A type is noted: it has no node unless that may fail, and afterwards everything is as told. -/
structure Notes (fallible : Prop) (before after : OrderedMap TypeId NodeId → Prop) (id : TypeId) :
    Prop where
  fresh : ∀ declared, before declared → fallible ∨ declared.get? id = none
  noted : ∀ declared node, before declared → after (declared.insert id node)

/-- To remember a node lands where the note takes it. -/
theorem Notes.remember {id : TypeId} (notes : Notes fallible before after id) (node : NodeId) :
    Lands fallible before after (remember id node) := by
  refine Ensures.remember (fun state start _ => notes.noted _ _ start) ?_
  -- Another node for the type could only be there if the step may fail.
  intro state first _ start known _
  refine ⟨(notes.fresh _ start).resolve_right fun unknown => ?_, rfl⟩
  rw [unknown] at known
  cases known

/-! ## Types whose nodes are made last -/

variable {derive : TypeId → Derive NodeId} {id : TypeId}

/-- So does to remember it and hand it back. -/
theorem Notes.last (notes : Notes fallible during after id) (node : NodeId) :
    Lands fallible during after (do Derivation.remember id node; return node) :=
  (notes.remember node).bind fun _ => .pure

/-- A union of texts is noted when its node is there. -/
theorem Notes.flattened (notes : Notes fallible during after id) {union : Union}
    {nullable isFixed : Bool} {literals : List (String × String)} :
    Lands fallible during after (context.flattenedNode id union nullable literals isFixed) := by
  refine Lands.nameOrGenerated.bind fun name => Lands.addNode.bind fun node => ?_
  -- The enum is noted before its values, which no declaration has.
  refine (notes.remember node).bind fun _ => ?_
  refine (Lands.mapM fun _ _ => Lands.addNode).bind fun values => ?_
  exact Lands.modifyNode.bind fun _ => .pure

/-- A type that is neither open nor an enum or a member of one is noted at the end. -/
theorem late_lands (late : ¬ context.IsOpen id)
    (notEnum : ∀ enumeration, context.definition.shapeAt id ≠ .enumeration enumeration)
    (notMember : ∀ member, context.definition.shapeAt id ≠ .member member)
    (others : ∀ reference ∈ context.references id, Lands fallible during during (derive reference))
    (encodes : fallible ∨ ∃ encode, context.definition.encoding? id = .ok encode)
    (notes : Notes fallible during after id) :
    Lands fallible during after (context.shapeNode derive id (context.definition.shapeAt id)) := by
  rw [Context.references] at others
  cases shape : context.definition.shapeAt id with
  | scalar scalar =>
    rw [shape] at others
    -- Only a scalar that is declared in a namespace has its base derived.
    have base : Keeps (Knows during) (Fatal fallible) (Context.scalarBase? derive scalar) :=
      Keeps.scalarBase? scalar fun base isBase inNamespace => (others base (by
        rw [Context.shapeReferences, if_pos inNamespace]
        exact Option.mem_toList.mpr isBase)).keeps
    refine base.lands.bind fun _ => (Lands.answerOf encodes).bind fun _ => ?_
    exact Lands.addNode.bind fun node => notes.last node
  | intrinsic intrinsic =>
    change Lands fallible during after (Context.intrinsicNode id intrinsic)
    unfold Context.intrinsicNode
    split
    · exact Lands.builtinNode.bind fun node => notes.last node
    · exact Lands.addNode.bind fun node => notes.last node
  -- No other type is needed for a literal.
  | literal value =>
    exact Lands.addNode.bind fun node => Lands.modifyNode.bind fun _ => notes.last node
  | enumeration enumeration => exact absurd shape (notEnum enumeration)
  | member member => exact absurd shape (notMember member)
  | array element =>
    rw [shape] at others
    refine (others element (List.mem_singleton_self _)).bind fun _ => ?_
    exact Lands.addNode.bind fun node => notes.last node
  | record element =>
    rw [shape] at others
    refine Lands.builtinNode.bind fun _ => ?_
    refine (others element (List.mem_singleton_self _)).bind fun _ => ?_
    exact Lands.addNode.bind fun node => notes.last node
  | model model => simp [Context.IsOpen, shape] at late
  | union union =>
    rw [shape] at others
    simp only [Context.IsOpen, shape, not_and] at late
    simp only [Context.shapeReferences, Context.unionReferences] at others
    change Lands fallible during after (context.unionNode derive id union)
    -- A union that is not open has no variants with values, or literals that make an enum.
    rcases context.unionNode_cases derive id union with ⟨noneValued, noVariants, isStep⟩ |
      ⟨null, rest, noneValued, isNull, isStep⟩ |
      ⟨valued, nullable, ⟨literals, isFixed, flat, isStep⟩ | ⟨notFlat, isStep⟩⟩
    · rw [isStep]
      exact Lands.builtinNode.bind fun node => notes.last node
    · rw [isStep]
      refine (others null.type ?_).bind fun node => notes.last node
      simp [noneValued, isNull]
    · rw [isStep]
      exact notes.flattened
    · exact absurd notFlat (late valued)

/-! ## Types whose nodes are made first -/

/-- A subtype lands where the derivation of it does. -/
theorem addSubtype_lands {discriminator : String} {subtypes : OrderedMap String NodeId}
    {derived : TypeId} (other : Lands fallible during during (derive derived)) :
    Lands fallible during during (Context.addSubtype derive discriminator subtypes derived) := by
  -- Whether it is listed or reported, nothing is noted of a declaration.
  refine other.bind fun child => Ensures.look fun current => ?_
  split
  · exact Lands.modifyNode.bind fun _ => .pure
  · refine Lands.bind (Ensures.modify fun _ start => start) fun _ => .pure

/-- So does a discriminator, with all subtypes. -/
theorem addDiscriminator?_lands {node : NodeId} {declared : Model}
    (others : ∀ derived ∈ declared.derived, declared.discriminator.isSome →
      Lands fallible during during (derive derived)) :
    Lands fallible during during (Context.addDiscriminator? derive node declared) := by
  unfold Context.addDiscriminator?
  cases isName : declared.discriminator with
  | none => exact .pure
  | some discriminator =>
    rw [isName] at others
    -- Only a model that tells its subtypes apart derives them.
    refine Lands.bind (Lands.foldlM fun _ derived listed => ?_) fun _ => ?_
    · exact addSubtype_lands (others derived listed rfl)
    · exact Lands.builtinNode.bind fun _ => Lands.modifyNode

/-- A type that is open is noted at the start. -/
theorem open_lands (isOpen : context.IsOpen id)
    (others : ∀ reference ∈ context.references id, Lands fallible during during (derive reference))
    (notes : Notes fallible before during id) :
    Lands fallible before during (context.shapeNode derive id (context.definition.shapeAt id)) := by
  -- Open are models, and unions the variants of which become a node of their own.
  rw [Context.references] at others
  rw [Context.IsOpen] at isOpen
  cases shape : context.definition.shapeAt id with
  | model declared =>
    rw [shape, Context.shapeReferences] at others
    simp only [Context.mem_modelReferences] at others
    refine Lands.nameOrGenerated.bind fun name => Lands.addNode.bind fun node => ?_
    -- From here on the model has a node, whatever comes back to it.
    refine (notes.remember node).bind fun _ => ?_
    refine (Lands.mapM fun member listed => ?_).bind fun properties => ?_
    · exact (Keeps.memberProperty _ _ member (others _ (Or.inl ⟨member, listed, rfl⟩)).keeps).lands
    -- The base and the record in its place are both among the references.
    have kin : Keeps (Knows during) (Fatal fallible) (context.inheritance derive declared) := by
      refine Keeps.inheritance declared fun type isKin => (others type (Or.inr ?_)).keeps
      rcases List.mem_append.mp isKin with isBase | isInherited
      · exact Or.inl (Option.mem_toList.mp isBase)
      · exact Or.inr (Or.inl (Option.mem_toList.mp isInherited))
    refine Lands.modifyNode.bind fun _ => kin.lands.bind fun found => ?_
    have additional : Keeps (Knows during) (Fatal fallible)
        (Context.additionalNode? derive declared found.2) :=
      Keeps.additionalNode? declared found.2 fun value isValue =>
        (others value (Or.inr (Or.inr (Or.inr (Or.inl isValue))))).keeps
    refine additional.lands.bind fun _ => Lands.modifyNode.bind fun _ => ?_
    refine Lands.bind (addDiscriminator?_lands fun derived listed discriminated => ?_)
      fun _ => .pure
    exact others derived (Or.inr (Or.inr (Or.inr (Or.inr ⟨discriminated, listed⟩))))
  | union union =>
    rw [shape] at isOpen others
    obtain ⟨valued, notFlat⟩ := isOpen
    simp only [Context.shapeReferences, Context.unionReferences, notFlat, List.isEmpty_iff, valued,
      Option.isSome_none, Bool.false_eq_true, if_false] at others
    change Lands fallible before during (context.unionNode derive id union)
    rcases context.unionNode_cases derive id union with ⟨noneValued, _⟩ | ⟨_, _, noneValued, _⟩ |
      ⟨_, nullable, ⟨_, _, flat, _⟩ | ⟨_, isStep⟩⟩
    · -- The other outcomes of a union are for those that are not open.
      exact absurd noneValued valued
    · exact absurd noneValued valued
    · rw [notFlat] at flat
      cases flat
    · -- Like a model, it is noted before its variants are derived.
      rw [isStep]
      have name : Lands fallible before before
          (context.unionName? id union nullable (context.valuedVariants union)) := by
        unfold Context.unionName?
        split
        · exact .pure
        · exact Lands.nameOrGenerated.bind fun _ => .pure
      refine name.bind fun name => Lands.addNode.bind fun node => ?_
      refine (notes.remember node).bind fun _ => ?_
      refine (Lands.mapM fun variant listed => others _ (List.mem_map_of_mem listed)).bind ?_
      exact fun _ => Lands.modifyNode.bind fun _ => .pure
  | scalar _ | intrinsic _ | literal _ | enumeration _ | member _ | array _ | record _ =>
    simp [shape] at isOpen

end

/-! ## Enums -/

/--
While some types are derived, those of one sort have nodes and those of another have none.

Besides, the members of an enum have nodes exactly if the enum has one.
-/
structure Ready (context : Context) (opened late : List TypeId)
    (declared : OrderedMap TypeId NodeId) : Prop where
  members : ∀ id member, context.definition.shapeAt id = .member member →
    ((declared.get? id).isSome ↔ (declared.get? member.parent).isSome)
  known : ∀ id ∈ opened, (declared.get? id).isSome
  awaited : ∀ id ∈ late, declared.get? id = none

/-- The members of an enum have nodes, but for some that come last. -/
structure Filling (context : Context) (opened late : List TypeId) (id : TypeId)
    (enumeration : Enumeration) (rest : List TypeId) (declared : OrderedMap TypeId NodeId) :
    Prop where
  own : (declared.get? id).isSome
  others : ∀ other member, context.definition.shapeAt other = .member member → member.parent ≠ id →
    ((declared.get? other).isSome ↔ (declared.get? member.parent).isSome)
  filled : ∀ other ∈ enumeration.members, ∀ member,
    context.definition.shapeAt other = .member member →
      ((declared.get? other).isSome ↔ other ∉ rest)
  known : ∀ other ∈ opened, (declared.get? other).isSome
  awaited : ∀ other ∈ late, declared.get? other = none

/-- Whatever is noted stays known when another type is noted. -/
theorem isSome_insert {declared : OrderedMap TypeId NodeId} {id other : TypeId} (node : NodeId)
    (known : (declared.get? other).isSome) : ((declared.insert id node).get? other).isSome := by
  -- The type is the one that is noted now, or it was known before.
  rw [OrderedMap.get?_insert]
  split
  · rfl
  · exact known

section

variable {opened late : List TypeId} {id : TypeId} {enumeration : Enumeration}
  (placed : context.definition.MembersPlaced)
  (shape : context.definition.shapeAt id = .enumeration enumeration)
  (plain : ∀ other ∈ late, ∀ member, context.definition.shapeAt other ≠ .member member)
include placed shape plain

/-- To note the first of the members that are left leaves the others to be noted. -/
theorem Filling.notes {first : TypeId} {member : Service.Member} {rest : List TypeId}
    (listed : first ∈ enumeration.members)
    (isMember : context.definition.shapeAt first = .member member) (once : first ∉ rest) :
    Notes fallible (Filling context opened late id enumeration (first :: rest))
      (Filling context opened late id enumeration rest) first := by
  constructor
  · intro declared filling
    have unfilled := filling.filled first listed member isMember
    -- The place of the member is the only one that changes.
    exact Or.inr (by simpa using unfilled)
  · intro declared node filling
    have same (other : TypeId) (apart : other ≠ first) :
        (declared.insert first node).get? other = declared.get? other :=
      OrderedMap.get?_insert_ne _ _ apart
    refine
      { own := isSome_insert node filling.own
        others := ?others
        filled := ?filled
        known := fun other isKnown => isSome_insert node (filling.known other isKnown)
        awaited := ?awaited }
    case others =>
      -- Neither a member of another enum nor that enum is what is noted.
      intro other declared' isOther elsewhere
      obtain ⟨_, parent, _⟩ := placed.listed other declared' isOther
      rw [same, same]
      · exact filling.others other declared' isOther elsewhere
      · rintro rfl
        rw [isMember] at parent
        cases parent
      · rintro rfl
        exact elsewhere (placed.own id enumeration shape _ listed _ isOther)
    case filled =>
      intro other listedToo declared' isOther
      by_cases isFirst : other = first
      · subst isFirst
        simp [once]
      · rw [same other isFirst, filling.filled other listedToo declared' isOther]
        simp [isFirst]
    case awaited =>
      intro other isLate
      rw [same]
      · exact filling.awaited other isLate
      · rintro rfl
        exact plain _ isLate member isMember

/-- By induction on the members that are left: each gets its node. -/
theorem members_land (step : TypeId × Service.Member → Derive NodeId)
    (list : List (TypeId × Service.Member))
    (each : ∀ entry ∈ list, ∀ before after, Notes fallible before after entry.1 →
      Lands fallible before after (step entry))
    (listed : ∀ entry ∈ list, entry.1 ∈ enumeration.members ∧
      context.definition.shapeAt entry.1 = .member entry.2)
    (once : (list.map Prod.fst).Nodup) :
    Lands fallible (Filling context opened late id enumeration (list.map Prod.fst))
      (Filling context opened late id enumeration []) (list.mapM step) := by
  -- By induction on the list; a member that comes later is another one, so it has no node yet.
  induction list with
  | nil =>
    rw [List.mapM_nil]
    exact .pure
  | cons first list ih =>
    obtain ⟨isMember, memberShape⟩ := listed first List.mem_cons_self
    obtain ⟨apart, others⟩ := List.nodup_cons.mp once
    rw [List.mapM_cons]
    -- The first member is noted, which leaves those that come after it.
    refine (each first List.mem_cons_self _ _
      (Filling.notes placed shape plain isMember memberShape apart)).bind fun value => ?_
    refine Lands.bind (ih (fun entry member => each entry (List.mem_cons_of_mem _ member))
      (fun entry member => listed entry (List.mem_cons_of_mem _ member)) others) fun values => ?_
    exact .pure

omit plain in
/-- When an enum is noted that had no node, all of its members are left to be noted. -/
theorem Filling.started (closed : id ∉ late) {list : List TypeId}
    (all : ∀ other ∈ enumeration.members, ∀ member,
      context.definition.shapeAt other = .member member → other ∈ list) :
    Notes fallible (fun declared => Ready context opened late declared ∧ declared.get? id = none)
      (Filling context opened late id enumeration list) id := by
  -- The enum was not noted before, and its place is the only one that changes.
  refine ⟨fun declared start => Or.inr start.2, fun declared node start => ?_⟩
  obtain ⟨ready, fresh⟩ := start
  have same (other : TypeId) (apart : other ≠ id) :
      (declared.insert id node).get? other = declared.get? other :=
    OrderedMap.get?_insert_ne _ _ apart
  have notEnum (other : TypeId) (member : Service.Member)
      (isMember : context.definition.shapeAt other = .member member) : other ≠ id := by
    rintro rfl
    rw [shape] at isMember
    cases isMember
  refine
    { own := by simp
      others := ?others
      filled := ?filled
      known := fun other isKnown => isSome_insert node (ready.known other isKnown)
      awaited := ?awaited }
  case others =>
    intro other member isMember elsewhere
    rw [same other (notEnum other member isMember), same _ elsewhere]
    exact ready.members other member isMember
  case filled =>
    -- The members had no nodes, since the enum had none.
    intro other isMember member memberShape
    have parent := placed.own id enumeration shape other isMember member memberShape
    rw [same other (notEnum other member memberShape), ready.members other member memberShape,
      parent, fresh]
    simp [all other isMember member memberShape]
  case awaited =>
    intro other isLate
    rw [same other fun isId => closed (isId ▸ isLate)]
    exact ready.awaited other isLate

omit plain in
/-- Once no member is left, the enum and its members have nodes alike. -/
theorem Filling.finished {declared : OrderedMap TypeId NodeId}
    (filling : Filling context opened late id enumeration [] declared) :
    Ready context (id :: opened) late declared := by
  refine ⟨fun other member isMember => ?_, fun other isKnown => ?_, filling.awaited⟩
  · by_cases parent : member.parent = id
    -- A member of this enum is listed by it, and has been filled in.
    · obtain ⟨enum, parentShape, isListed⟩ := placed.listed other member isMember
      rw [parent, shape] at parentShape
      cases parentShape
      rw [filling.filled other isListed member isMember, parent]
      simp [filling.own]
    · exact filling.others other member isMember parent
  · rcases List.mem_cons.mp isKnown with rfl | earlier
    · exact filling.own
    · exact filling.known other earlier

/-- An enum gets a node, and then each of its members does. -/
theorem enumerationNode_lands (closed : id ∉ late) :
    Lands fallible (fun declared => Ready context opened late declared ∧ declared.get? id = none)
      (Ready context (id :: opened) late) (context.enumerationNode id enumeration) := by
  unfold Context.enumerationNode
  dsimp only
  -- The members are those that are listed and are members at all, each once.
  generalize isList : enumeration.members.filterMap _ = list
  have listed : ∀ entry ∈ list, entry.1 ∈ enumeration.members ∧
      context.definition.shapeAt entry.1 = .member entry.2 := by
    intro entry member
    rw [← isList] at member
    obtain ⟨other, isMember, isEntryOf⟩ := List.mem_filterMap.mp member
    split at isEntryOf
    · rename_i declared memberShape
      cases isEntryOf
      exact ⟨isMember, memberShape⟩
    · cases isEntryOf
  have once : (list.map Prod.fst).Nodup := by
    rw [← isList, List.Nodup, List.pairwise_map, List.pairwise_filterMap]
    refine (placed.once id enumeration shape).imp fun apart entry isEntryOf other isOther same => ?_
    split at isEntryOf <;> split at isOther <;> cases isEntryOf <;> cases isOther
    exact apart same
  -- Every listed type that is a member at all is on the list to be filled in.
  have all (other : TypeId) (isMember : other ∈ enumeration.members) (member : Service.Member)
      (memberShape : context.definition.shapeAt other = .member member) :
      other ∈ list.map Prod.fst := by
    rw [← isList]
    refine List.mem_map.mpr ⟨(other, member), List.mem_filterMap.mpr ⟨other, isMember, ?_⟩, rfl⟩
    simp only [memberShape]
  have notes : Notes fallible
      (fun declared => Ready context opened late declared ∧ declared.get? id = none)
      (Filling context opened late id enumeration (list.map Prod.fst)) id :=
    Filling.started placed shape closed all
  refine Lands.addNode.bind fun node => (notes.remember node).bind fun _ => ?_
  refine Lands.bind (members_land placed shape plain _ list ?_ listed once) fun values => ?_
  · exact fun entry _ before after notes => Lands.addNode.bind fun value => notes.last value
  · refine Lands.modifyNode.bind fun _ => Lands.weaken Lands.pure (fun _ start => start) ?_
    exact fun declared filling => filling.finished placed shape

end

/-! ## Derivations that may end the run -/

section

variable {during : OrderedMap TypeId NodeId → Prop} {derive : TypeId → Derive NodeId} {id : TypeId}

/-- Where a run may end, a type is derived if it and the members of enums may be noted. -/
theorem shapeNode_lands
    (others : ∀ reference ∈ context.references id, Lands True during during (derive reference))
    (own : Notes True during during id)
    (members : ∀ other member, context.definition.shapeAt other = .member member →
      Notes True during during other) :
    Lands True during during (context.shapeNode derive id (context.definition.shapeAt id)) := by
  -- Only enums and their members are derived together; the others are open, or noted at last.
  cases shape : context.definition.shapeAt id with
  | enumeration enumeration =>
    change Lands True _ _ (context.enumerationNode id enumeration)
    unfold Context.enumerationNode
    refine Lands.addNode.bind fun node => (own.remember node).bind fun _ => ?_
    refine (Lands.mapM fun entry listed => ?_).bind fun _ => Lands.modifyNode.bind fun _ => .pure
    -- Along with an enum, its members get their nodes.
    obtain ⟨memberId, _, isEntry⟩ := List.mem_filterMap.mp listed
    split at isEntry
    · rename_i member memberShape
      cases isEntry
      exact Lands.addNode.bind fun value => (members _ member memberShape).last value
    · cases isEntry
  | member member =>
    refine (others _ ?_).bind fun _ => Ensures.look fun current => ?_
    · simp [Context.references, shape, Context.shapeReferences]
    · split
      · exact Lands.pure
      · exact Ensures.throw fun _ _ => ⟨trivial, rfl⟩
  | model _ | union _ | scalar _ | intrinsic _ | literal _ | array _ | record _ =>
    rw [← shape]
    by_cases isOpen : context.IsOpen id
    · exact open_lands isOpen others own
    · exact late_lands isOpen (by simp [shape]) (by simp [shape]) others (Or.inl trivial) own

/-- A type that has a node is left alone, and any other is derived by what it declares. -/
theorem nodeStep_lands
    (derives : Lands True
      (fun declared => during declared ∧
        declared.get? (context.definition.payloadType id) = none)
      during (context.shapeNode derive (context.definition.payloadType id)
        (context.definition.shapeAt (context.definition.payloadType id)))) :
    Lands True during during (context.nodeStep derive id) := by
  unfold Context.nodeStep
  -- The step looks at the declarations first, and documents the node at last.
  refine Ensures.get_bind fun current start => ?_
  split
  · refine Ensures.pure ?_
    rintro state rfl
    exact start
  · rename_i unknown
    refine Ensures.bind (Ensures.starting derives ?_) fun node =>
      Lands.modifyNode.bind fun _ => .pure
    rintro state rfl
    exact ⟨start, unknown⟩

end

end ClientModel.Derivation
