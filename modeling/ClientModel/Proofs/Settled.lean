import ClientModel.Proofs.Mirrors

/-!
Deriving a node settles it.

Whatever a derivation adds is settled when it is over, and so is all that was settled before. Only
the nodes that it was started from stay open.
-/

namespace ClientModel

open Service (Enumeration Intrinsic Literal Model Scalar Shape Union Variant)

/-- Whether a node carries usage is told without its marks. -/
theorem Node.carriesUsage_plain (node : Node) : node.plain.carriesUsage = node.carriesUsage := by
  cases kind : node.kind <;>
    simp [Node.plain, NodeKind.plain, Node.carriesUsage, Node.usage?, kind]

/-- A union that changes keeps its origin, and carries usage as before. -/
theorem Node.mapUnion_keeps (change : UnionNode → UnionNode) (node : Node) :
    (node.mapUnion change).origin = node.origin ∧
      (node.mapUnion change).carriesUsage = node.carriesUsage := by
  cases kind : node.kind <;> simp [Node.mapUnion, Node.carriesUsage, Node.usage?, kind]

/-- A model that changes keeps its origin, and carries usage as before. -/
theorem Node.mapModel_keeps (change : ModelNode → ModelNode) (node : Node) :
    (node.mapModel change).origin = node.origin ∧
      (node.mapModel change).carriesUsage = node.carriesUsage := by
  cases kind : node.kind <;> simp [Node.mapModel, Node.carriesUsage, Node.usage?, kind]

namespace Derivation

variable {context : Context} {pending : TypeId → Prop} {before after state : State}

/-- What was finished stays so, as far as its node is the same but for marks. -/
theorem Context.Finished.mono {id : TypeId} {node : NodeId}
    (finished : context.Finished before id node) (agrees : Agrees before after)
    (same : (after.catalogue.nodeAt node).plain = (before.catalogue.nodeAt node).plain) :
    context.Finished after id node where
  references reference referred := by
    obtain ⟨other, stands⟩ := finished.references reference referred
    exact ⟨other, agrees.stands stands⟩
  mirrors := by
    rw [same]
    exact finished.mirrors.mono agrees

namespace Context.Settled

/-! ## Small steps -/

/-- Nothing that is added without a declaration matters, nor do marks. -/
theorem transport (settled : context.Settled pending before) (grown : Grown before after)
    (declared : after.declared = before.declared)
    (builtins : ∀ kind node, after.builtins.get? kind = some node →
      before.builtins.get? kind = some node ∨ node.index < after.catalogue.size ∧
        ∃ builtin, (after.catalogue.nodeAt node).plain.kind = .builtin builtin)
    (loose : ∀ node : NodeId, before.catalogue.size ≤ node.index →
      (after.catalogue.nodeAt node).carriesUsage → (after.catalogue.nodeAt node).origin = none) :
    context.Settled pending after where
  builtins kind node known := by
    rcases builtins kind node known with earlier | new
    · obtain ⟨inside, builtin, isBuiltin⟩ := settled.builtins kind node earlier
      refine ⟨Nat.lt_of_lt_of_le inside grown.size, builtin, ?_⟩
      rw [grown.nodes node inside]
      exact isBuiltin
    · exact new
  inside id node known := by
    -- Each of the five parts is transported: nodes that were known are the same but for marks.
    rw [declared] at known
    exact Nat.lt_of_lt_of_le (settled.inside id node known) grown.size
  finished id node known := by
    rw [declared] at known
    exact (settled.finished id node known).imp_right fun finished =>
      finished.mono grown.agrees (grown.nodes node (settled.inside id node known))
  origin id node known carries := by
    rw [declared] at known
    have same := grown.nodes node (settled.inside id node known)
    rw [← Node.carriesUsage_plain, same, Node.carriesUsage_plain] at carries
    exact (congrArg Node.origin same).trans (settled.origin id node known carries)
  registered id node carries isOrigin := by
    rw [declared]
    by_cases inside : node.index < before.catalogue.size
    · have same := grown.nodes node inside
      rw [← Node.carriesUsage_plain, same, Node.carriesUsage_plain] at carries
      exact settled.registered id node carries ((congrArg Node.origin same).symm.trans isOrigin)
    · -- A node that is new and carries usage has no declaration, by assumption.
      rw [loose node (Nat.le_of_not_lt inside) carries] at isOrigin
      cases isOrigin

/-- A node out of range carries no usage. -/
theorem not_carriesUsage_of_ge {catalogue : Catalogue} {node : NodeId}
    (outside : catalogue.size ≤ node.index) : ¬ (catalogue.nodeAt node).carriesUsage := by
  -- Out of range the table answers a node without usage.
  rw [Catalogue.nodeAt_of_ge _ outside]
  simp [Node.carriesUsage, Node.usage?, Node.outOfRange]

/-- Of what was out of range, only the node that is added carries usage. -/
theorem eq_last_of_carriesUsage {catalogue : Catalogue} {node : Node} {other : NodeId}
    (new : catalogue.size ≤ other.index)
    (carries : ((catalogue.push node).nodeAt other).carriesUsage) : other = ⟨catalogue.size⟩ := by
  -- Past the node that is added the catalogue ends, and nothing carries usage there.
  rcases Nat.eq_or_lt_of_le new with last | outside
  · exact NodeId.index_inj.mp last.symm
  · refine absurd carries (not_carriesUsage_of_ge ?_)
    rw [Catalogue.size_push]
    omega

/-- A node without declaration may be added. -/
theorem push (settled : context.Settled pending state) {node : Node}
    (loose : node.carriesUsage → node.origin = none) :
    context.Settled pending { state with catalogue := state.catalogue.push node } := by
  refine settled.transport ((Grown.refl state).push node) rfl (fun _ _ known => Or.inl known) ?_
  intro other new carries
  -- Only the node that is added could claim to come from a declaration.
  obtain rfl := eq_last_of_carriesUsage new carries
  rw [Catalogue.nodeAt_push_self] at carries ⊢
  exact loose carries

/-- Marks may be set. -/
theorem mark (settled : context.Settled pending state) {id : NodeId} {change : Node → Node}
    (same : ∀ node : Node, (change node).plain = node.plain) :
    context.Settled pending { state with catalogue := state.catalogue.modify id change } := by
  refine settled.transport ((Grown.refl state).modify (Or.inr same)) rfl
    (fun _ _ known => Or.inl known) ?_
  intro other new carries
  -- Nothing new is in range.
  refine absurd carries (not_carriesUsage_of_ge ?_)
  rw [Catalogue.size_modify]
  exact new

/-- Names may be claimed. -/
theorem rename (settled : context.Settled pending state) (names : NameRegistry) :
    context.Settled pending { state with names } :=
  -- Names are beside the nodes, and no node is new, so none is left open.
  settled.transport ((Grown.refl state).rename names) rfl (fun _ _ known => Or.inl known)
    fun _ outside carries => absurd carries (not_carriesUsage_of_ge outside)

/-- Reports may be made. -/
theorem report (settled : context.Settled pending state) (report : Diagnostic) :
    context.Settled pending { state with diagnostics := state.diagnostics.add report } :=
  -- Reports are beside the nodes, and no node is new, so none is left open.
  settled.transport ((Grown.refl state).report report) rfl (fun _ _ known => Or.inl known)
    fun _ outside carries => absurd carries (not_carriesUsage_of_ge outside)

/-- A primitive node may be added for a kind that had none. -/
theorem make (settled : context.Settled pending state) {kind : BuiltinKind} {builtin : BuiltinNode}
    (fresh : state.builtins.get? kind = none) :
    context.Settled pending { state with
      catalogue := state.catalogue.push { kind := .builtin builtin }
      builtins := state.builtins.insert kind ⟨state.catalogue.size⟩ } := by
  have grown := ((Grown.refl state).push { kind := .builtin builtin }).makes
    ⟨state.catalogue.size⟩ fresh
  refine settled.transport grown rfl (fun other node known => ?_) fun other new carries => ?_
  · -- A kind that had no node gets this one, and others keep theirs.
    rcases OrderedMap.get?_insert_cases known with ⟨rfl, rfl⟩ | known
    · refine Or.inr ⟨by simp, builtin, ?_⟩
      rw [Catalogue.nodeAt_push_self]
      rfl
    · exact Or.inl known
  · obtain rfl := eq_last_of_carriesUsage new carries
    rw [Catalogue.nodeAt_push_self]

/-- A node is noted as the one of a declaration that is finished or stays open. -/
theorem insert (settled : context.Settled pending state) {id : TypeId} {node : NodeId}
    (inside : node.index < state.catalogue.size)
    (same : ∀ first, state.declared.get? id = some first → first = node)
    (own : (state.catalogue.nodeAt node).carriesUsage →
      (state.catalogue.nodeAt node).origin = some id)
    (told : pending id ∨ context.Finished
      { state with declared := state.declared.insert id node } id node) :
    context.Settled pending { state with declared := state.declared.insert id node } where
  builtins := settled.builtins
  inside other found known := by
    rcases OrderedMap.get?_insert_cases known with ⟨rfl, rfl⟩ | known
    · exact inside
    · exact settled.inside other found known
  finished other found known := by
    -- What other types tell is not affected by a further declaration.
    have agrees := ((Grown.refl state).insert same).agrees
    rcases OrderedMap.get?_insert_cases known with ⟨rfl, rfl⟩ | known
    · exact told
    · exact (settled.finished other found known).imp_right fun finished => finished.mono agrees rfl
  -- What is noted already keeps its node, and the new entry is as told.
  origin other found known carries := by
    rcases OrderedMap.get?_insert_cases known with ⟨rfl, rfl⟩ | known
    · exact own carries
    · exact settled.origin other found known carries
  registered other found carries isOrigin :=
    OrderedMap.get?_insert_of_get? same (settled.registered other found carries isOrigin)

/-- A new node is noted as the one of a declaration that had none. -/
theorem register (settled : context.Settled pending state) {id : TypeId} {node : Node}
    (fresh : state.declared.get? id = none) (own : node.origin = some id)
    (told : pending id ∨ context.Finished { state with
      catalogue := state.catalogue.push node
      declared := state.declared.insert id ⟨state.catalogue.size⟩ } id ⟨state.catalogue.size⟩) :
    context.Settled pending { state with
      catalogue := state.catalogue.push node
      declared := state.declared.insert id ⟨state.catalogue.size⟩ } := by
  -- A declaration without a node may be given any.
  have missing (first : NodeId) (known : state.declared.get? id = some first) :
      first = ⟨state.catalogue.size⟩ := by
    rw [fresh] at known
    cases known
  have grown : Grown state { state with
      catalogue := state.catalogue.push node
      declared := state.declared.insert id ⟨state.catalogue.size⟩ } :=
    ((Grown.refl state).push node).insert missing
  have size : (state.catalogue.push node).size = state.catalogue.size + 1 := by simp
  -- Each part is told of the new entry first, and then of those that were there.
  refine
    { builtins := ?builtins
      inside := ?inside
      finished := ?finished
      origin := ?origin
      registered := ?registered }
  case builtins =>
    intro kind other known
    obtain ⟨inside, builtin, isBuiltin⟩ := settled.builtins kind other known
    refine ⟨by simp only [size]; omega, builtin, ?_⟩
    rw [grown.nodes other inside]
    exact isBuiltin
  case inside =>
    intro other found known
    rcases OrderedMap.get?_insert_cases known with ⟨rfl, rfl⟩ | known
    · simp only [size]
      omega
    · have inside := settled.inside other found known
      simp only [size]
      omega
  case finished =>
    intro other found known
    rcases OrderedMap.get?_insert_cases known with ⟨rfl, rfl⟩ | known
    · exact told
    · exact (settled.finished other found known).imp_right fun finished =>
        finished.mono grown.agrees (grown.nodes found (settled.inside other found known))
  case origin =>
    intro other found known carries
    rcases OrderedMap.get?_insert_cases known with ⟨rfl, rfl⟩ | known
    · rw [Catalogue.nodeAt_push_self]
      exact own
    · rw [Catalogue.nodeAt_push_lt _ (settled.inside other found known)] at carries ⊢
      exact settled.origin other found known carries
  case registered =>
    intro other found carries isOrigin
    by_cases inside : found.index < state.catalogue.size
    · rw [Catalogue.nodeAt_push_lt _ inside] at carries isOrigin
      exact OrderedMap.get?_insert_of_get? missing (settled.registered other found carries isOrigin)
    · obtain rfl := eq_last_of_carriesUsage (Nat.le_of_not_lt inside) carries
      rw [Catalogue.nodeAt_push_self, own] at isOrigin
      cases isOrigin
      exact OrderedMap.get?_insert_self _ _ _

/-- An open node changes, and tells no less of the text that its discriminator is fixed to. -/
theorem draft_agrees (settled : context.Settled pending state) {id : TypeId} {node : NodeId}
    {change : Node → Node} (known : state.declared.get? id = some node)
    (carries : (state.catalogue.nodeAt node).carriesUsage)
    (slots : ∀ model, (state.catalogue.nodeAt node).model? = some model →
      ∃ later, (change (state.catalogue.nodeAt node)).model? = some later ∧ ∀ name slot,
        model.slots.find? (fun other => other.1 == name) = some slot →
          later.slots.find? (fun other => other.1 == name) = some slot) :
    Agrees state { state with catalogue := state.catalogue.modify node change } := by
  -- A slot is read off the model that the child is, so that only the open node is at stake.
  have inside := settled.inside id node known
  refine ⟨fun _ _ known => known, fun _ _ known => known, fun clean => clean, ?_⟩
  intro child name value fixed
  rw [discriminatorValue?_eq] at fixed ⊢
  obtain ⟨model, isModel, fixed⟩ := Option.bind_eq_some_iff.mp fixed
  obtain ⟨slot, found, text⟩ := Option.bind_eq_some_iff.mp fixed
  -- The text stands on a constant, which the open node is not.
  have apart : slot.2 ≠ node := by
    rintro isNode
    rw [isNode] at text
    cases kind : (state.catalogue.nodeAt node).kind <;>
      simp [Node.constantText?, Node.carriesUsage, Node.usage?, kind] at text carries
  by_cases isNode : child = node
  · subst isNode
    obtain ⟨later, stillModel, keeps⟩ := slots model isModel
    rw [Catalogue.model?, Catalogue.nodeAt_modify_self _ inside, stillModel, Option.bind_some,
      keeps name slot found, Option.bind_some, Catalogue.nodeAt_modify_ne _ apart]
    exact text
  · rw [Catalogue.model?, Catalogue.nodeAt_modify_ne _ isNode, ← Catalogue.model?, isModel,
      Option.bind_some, found, Option.bind_some, Catalogue.nodeAt_modify_ne _ apart]
    exact text

/-- While an open node changes, everything else stays settled. -/
theorem draft (settled : context.Settled pending state) {id : TypeId} {node : NodeId}
    {change : Node → Node} (isOpen : pending id) (known : state.declared.get? id = some node)
    (carries : (state.catalogue.nodeAt node).carriesUsage)
    (same : ∀ before : Node, (change before).origin = before.origin ∧
      (change before).carriesUsage = before.carriesUsage)
    (agrees : Agrees state { state with catalogue := state.catalogue.modify node change }) :
    context.Settled pending { state with catalogue := state.catalogue.modify node change } := by
  have inside := settled.inside id node known
  have own := settled.origin id node known carries
  -- Only the open node changes.
  have others (other : NodeId) (apart : other ≠ node) :
      (state.catalogue.modify node change).nodeAt other = state.catalogue.nodeAt other :=
    Catalogue.nodeAt_modify_ne _ apart
  refine
    { builtins := ?builtins
      inside := ?inside
      finished := ?finished
      origin := ?origin
      registered := ?registered }
  case builtins =>
    -- A primitive node carries no usage, and so is not the open one.
    intro kind other isKind
    obtain ⟨insideOther, builtin, isBuiltin⟩ := settled.builtins kind other isKind
    have apart : other ≠ node := by
      rintro rfl
      rw [← Node.carriesUsage_plain] at carries
      simp [Node.carriesUsage, Node.usage?, isBuiltin] at carries
    refine ⟨by simpa using insideOther, builtin, ?_⟩
    rw [others other apart]
    exact isBuiltin
  case inside =>
    intro other found isFound
    have insideOther := settled.inside other found isFound
    simpa using insideOther
  case finished =>
    intro other found isFound
    by_cases apart : found = node
    · -- Only one declaration has the open node.
      subst apart
      have origin := settled.origin other found isFound carries
      rw [own] at origin
      cases origin
      exact Or.inl isOpen
    · exact (settled.finished other found isFound).imp_right fun finished =>
        finished.mono agrees (congrArg Node.plain (others found apart))
  case origin =>
    -- An open node keeps its origin and still carries usage.
    intro other found isFound carriesOther
    by_cases apart : found = node
    · subst apart
      rw [Catalogue.nodeAt_modify_self _ inside] at carriesOther ⊢
      rw [(same _).2] at carriesOther
      rw [(same _).1]
      exact settled.origin other found isFound carriesOther
    · rw [others found apart] at carriesOther ⊢
      exact settled.origin other found isFound carriesOther
  case registered =>
    -- The same for what is registered.
    intro other found carriesOther isOrigin
    by_cases apart : found = node
    · subst apart
      rw [Catalogue.nodeAt_modify_self _ inside] at carriesOther isOrigin
      rw [(same _).2] at carriesOther
      rw [(same _).1] at isOrigin
      exact settled.registered other found carriesOther isOrigin
    · rw [others found apart] at carriesOther isOrigin
      exact settled.registered other found carriesOther isOrigin

/-- Another declaration may be open as well. -/
theorem weaken (settled : context.Settled pending state) {more : TypeId → Prop}
    (includes : ∀ id, pending id → more id) : context.Settled more state :=
  ⟨settled.builtins, settled.inside,
    fun id node known => (settled.finished id node known).imp_left (includes id),
    settled.origin, settled.registered⟩

/-- A declaration that is finished is no longer open. -/
theorem close {id : TypeId}
    (settled : context.Settled (fun other => pending other ∨ other = id) state)
    (finished : ∀ node, state.declared.get? id = some node → context.Finished state id node) :
    context.Settled pending state where
  builtins := settled.builtins
  inside := settled.inside
  finished other node known := by
    -- It was open, or it is the one that is closed, or it was finished before.
    rcases settled.finished other node known with (open' | isId) | told
    · exact Or.inl open'
    · subst isId
      exact Or.inr (finished node known)
    · exact Or.inr told
  origin := settled.origin
  registered := settled.registered

end Context.Settled

end Derivation

end ClientModel
