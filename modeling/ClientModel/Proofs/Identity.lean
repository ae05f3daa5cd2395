import ClientModel.Proofs.Completeness

/-!
Declarations are told apart by their nodes.

A derivation comes back with the node that is remembered for a type, and what is remembered for one
never changes, so that it makes no difference when a type is derived, nor how often.
-/

namespace ClientModel.Derivation

open Service (Definition Enumeration Intrinsic Literal Model Scalar Shape Union Variant)

variable {α : Type} {context : Context}

/-! ## What is remembered -/

/-- The node is remembered for a type. -/
def Remembered (id : TypeId) (node : NodeId) (state : State) : Prop :=
  state.declared.get? id = some node

/-- What is remembered for a type stays so, whatever is derived. -/
theorem remembered_frame (id : TypeId) (node : NodeId) :
    Frame 0 (Remembered id node) fun _ => True where
  -- No step forgets a declaration; the one that writes declarations writes those that have none.
  violation _ := trivial
  inside _ _ := Nat.zero_le _
  added _ _ known := known
  changed _ _ _ known _ _ := known
  marked _ _ _ known _ := known
  declared _ _ _ known same := OrderedMap.get?_insert_of_get? same known
  builtins _ _ _ known _ := known
  names _ _ known := known
  diagnostics _ _ _ known := known

/-- What is remembered stays remembered. -/
theorem lasting_remembered (id : TypeId) (node : NodeId) : Lasting (Remembered id node) :=
  fun _ _ known grown => grown.declared id node known

/-- A step comes back with the node that is remembered for a type. -/
def Finds (id : TypeId) (step : Derive NodeId) : Prop :=
  Yields step (Remembered id)

namespace Finds

variable {id : TypeId} {node : NodeId}

/-- What comes first does not matter. -/
theorem after {step : Derive α} {next : α → Derive NodeId} (rest : ∀ value, Finds id (next value)) :
    Finds id (step >>= next) :=
  Yields.after rest

/-- What comes after the node is remembered does not matter as long as the node is handed over. -/
theorem remember {next : Derive NodeId}
    (rest : Ensures (Remembered id node) next (Remembered id) fun _ _ => True) :
    Finds id (remember id node >>= fun _ => next) :=
  -- A declaration that has another node ends the run, so that it has this one from now on.
  Ensures.via (fun _ => Remembered id node)
    (Ensures.remember (fun _ _ _ => OrderedMap.get?_insert_self _ _ _) fun _ _ _ _ _ _ => trivial)
    fun _ => rest

/-- A step that leaves what is remembered alone may come before the node is handed over. -/
theorem past {step : Derive α} {next : α → Derive NodeId}
    (first : Keeps (Remembered id node) (fun _ => True) step)
    (rest : ∀ value, Ensures (Remembered id node) (next value) (Remembered id) fun _ _ => True) :
    Ensures (Remembered id node) (step >>= next) (Remembered id) fun _ _ => True :=
  first.told rest

/-- To remember a node and return it finds it. -/
theorem remember_pure : Finds id (do Derivation.remember id node; return node) :=
  remember (Ensures.pure fun _ known => known)

end Finds

/-! ## Shapes -/

section

variable {derive : TypeId → Derive NodeId} {id : TypeId}
  (others : ∀ known node type, Keeps (Remembered known node) (fun _ => True) (derive type))

/-- The node of an intrinsic type is found. -/
theorem intrinsicNode_finds (intrinsic : Intrinsic) :
    Finds id (Context.intrinsicNode id intrinsic) := by
  unfold Context.intrinsicNode
  dsimp only
  -- The node is a shared one or a new one; it is remembered last in either case.
  split
  · exact .after fun _ => .remember_pure
  · exact .after fun _ => .remember_pure

/-- The node of a literal is found. -/
theorem literalNode_finds (value : Literal) : Finds id (Context.literalNode id value) :=
  .after fun _ => .after fun _ => .remember_pure

/-- The node of an enumeration is found. -/
theorem enumerationNode_finds (enumeration : Enumeration) :
    Finds id (context.enumerationNode id enumeration) := by
  -- The enum is remembered before its members, which leave it alone.
  refine .after fun node => .remember ?_
  have frame := remembered_frame id node
  refine Finds.past (Keeps.mapM _ fun member => ?_) fun values => ?_
  · exact frame.addNode_bind fun value _ => (frame.remember _ value).bind fun _ => .pure _
  · refine Finds.past (frame.modifyNode (Nat.zero_le _) (Node.label_mapEnumeration · _)) fun _ => ?_
    exact Ensures.pure fun _ known => known

/-- The node of a union of texts is found. -/
theorem flattenedNode_finds (union : Union) (nullable : Bool) (literals : List (String × String))
    (isFixed : Bool) : Finds id (context.flattenedNode id union nullable literals isFixed) := by
  -- Values of a flattened union are remembered for no declaration.
  refine .after fun name => .after fun node => .remember ?_
  have frame := remembered_frame id node
  refine Finds.past (Keeps.mapM _ fun literal => frame.addNode.ending fun _ _ => And.left)
    fun values => ?_
  refine Finds.past (frame.modifyNode (Nat.zero_le _) (Node.label_mapEnumeration · _)) fun _ => ?_
  exact Ensures.pure fun _ known => known

include others

/-- The node of a union of variants is found. -/
theorem variantsNode_finds (union : Union) (nullable : Bool) (variants : List Variant) :
    Finds id (context.variantsNode derive id union nullable variants) := by
  -- The union is remembered before its variants are derived.
  refine .after fun name => .after fun node => .remember ?_
  have frame := remembered_frame id node
  refine Finds.past (Keeps.mapM _ fun variant => others id node _) fun variants => ?_
  refine Finds.past (frame.modifyNode (Nat.zero_le _) (Node.label_mapUnion · _)) fun _ => ?_
  exact Ensures.pure fun _ known => known

/-- The node of any union is found. -/
theorem unionNode_finds (union : Union) : Finds id (context.unionNode derive id union) := by
  -- By cases on what is left of the union without null.
  rcases context.unionNode_cases derive id union with ⟨_, _, same⟩ | ⟨_, _, _, _, same⟩ |
    ⟨_, nullable, ⟨literals, isFixed, _, same⟩ | ⟨_, same⟩⟩
  · rw [same]
    exact .after fun _ => .remember_pure
  · rw [same]
    exact .after fun _ => .remember_pure
  · rw [same]
    exact flattenedNode_finds union nullable literals isFixed
  · rw [same]
    exact variantsNode_finds others union nullable _

/-- The node of a model is found. -/
theorem modelNode_finds (declared : Model) : Finds id (context.modelNode derive id declared) := by
  -- The model is remembered first; everything after that is filled in.
  refine .after fun name => .after fun node => .remember ?_
  have frame := remembered_frame id node
  have others := others id node
  refine Finds.past (Keeps.mapM _ fun property => Keeps.memberProperty _ _ property (others _))
    fun properties => ?_
  refine Finds.past (frame.modifyNode (Nat.zero_le _) (Node.label_mapModel · _)) fun _ => ?_
  refine Finds.past (Keeps.inheritance declared fun type _ => others type) fun inherited => ?_
  refine Finds.past (Keeps.additionalNode? declared _ fun type _ => others type)
    fun additional => ?_
  refine Finds.past (frame.modifyNode (Nat.zero_le _) (Node.label_mapModel · _)) fun _ => ?_
  refine Finds.past (frame.addDiscriminator? others (Nat.zero_le _) declared) fun _ => ?_
  exact Ensures.pure fun _ known => known

/-- The node of any shape is found. -/
theorem shapeNode_finds (shape : Shape) : Finds id (context.shapeNode derive id shape) := by
  cases shape with
  | scalar scalar => exact .after fun _ => .after fun _ => .after fun _ => .remember_pure
  | intrinsic intrinsic => exact intrinsicNode_finds intrinsic
  | literal value => exact literalNode_finds value
  | enumeration enumeration => exact enumerationNode_finds enumeration
  | member member =>
    -- A member is remembered by its enum.
    refine .after fun _ => Ensures.get_bind fun current _ => ?_
    split
    · rename_i node known
      exact Ensures.pure fun _ same => same ▸ known
    · exact Ensures.throw fun _ _ => trivial
  | union union => exact unionNode_finds others union
  | array element => exact .after fun _ => .after fun _ => .remember_pure
  | record element =>
    exact .after fun _ => .after fun _ => .after fun _ => .remember_pure
  | model model => exact modelNode_finds others model

end

/-! ## Calls -/

/-- A derivation comes back with what is remembered for the type whose payload it derives. -/
theorem nodeWithin_finds (steps : Nat) (id : TypeId) :
    Finds (context.definition.payloadType id) (context.nodeWithin steps id) := by
  -- Out of steps there is nothing to be found; otherwise it is one step over those that are left.
  cases steps with
  | zero =>
    have fails :
        Yields (context.nodeWithin 0 id) (Remembered (context.definition.payloadType id)) :=
      Ensures.throw fun _ _ => trivial
    exact fails
  | succ steps =>
    unfold Context.nodeWithin
    refine Ensures.get_bind fun current _ => ?_
    -- The type was met before, or its shape is derived and the node documented.
    split
    · rename_i node known
      exact Ensures.pure fun _ same => same ▸ known
    · refine Ensures.via (fun node => Remembered (context.definition.payloadType id) node)
        ((shapeNode_finds (fun known node type =>
          (remembered_frame known node).nodeWithin steps type) _).starting fun _ _ => trivial)
        fun node => ?_
      refine Finds.past ((remembered_frame _ node).markNode fun derived => ?_) fun _ =>
        Ensures.pure fun _ known => known
      split
      · rfl
      · rfl

/-- By induction on the single steps: what is remembered for a type never changes. -/
theorem Passes.remembered {before after : State} (passes : Passes context before after)
    {id : TypeId} {node : NodeId} (known : Remembered id node before) :
    Remembered id node after := by
  induction passes with
  | refl => exact known
  | tail _ last ih =>
    -- A step is a move, or it leaves all that is remembered alone.
    rcases last with move | same
    · cases move with
      -- A declaration gets a node only while it has none.
      | registered own fresh => exact OrderedMap.get?_insert_of_get? fresh ih
      | shared inside same => exact OrderedMap.get?_insert_of_get? same ih
      | made | loose | changed | named | unfixed | reported => exact ih
    · rw [Remembered, same.declared]
      exact ih

/-! ## Nodes -/

section

variable {state : State} {catalogue : Catalogue} (orderly : Orderly context state)
  (cores : SameCores state.catalogue catalogue)
include orderly cores

/-- A node is the only one of its declaration. -/
theorem eq_of_origin {id : TypeId} {node other : NodeId}
    (isOrigin : (catalogue.nodeAt node).origin = some id)
    (isOther : (catalogue.nodeAt other).origin = some id) : node = other := by
  -- Both are what the declaration has in the state.
  rw [cores.origin] at isOrigin isOther
  have left := orderly.registered id node isOrigin
  have right := orderly.registered id other isOther
  exact Option.some.inj (left.symm.trans right)

/-- A node that a declaration has is its own, or a primitive one. -/
theorem own_or_builtin {id : TypeId} {node : NodeId} (known : Remembered id node state) :
    (catalogue.nodeAt node).origin = some id ∨
      ∃ builtin, (catalogue.nodeAt node).kind = .builtin builtin := by
  -- A primitive node is no more than its core, so that it is primitive in the package.
  rw [cores.origin]
  refine (orderly.own id node known).imp_right fun ⟨builtin, isBuiltin⟩ => ⟨builtin, ?_⟩
  have same := cores.core node
  rw [isBuiltin] at same
  exact NodeKind.eq_of_core same (by simp [NodeKind.label])

/-- A primitive node without a declaration is the only one of its kind. -/
theorem eq_of_builtin {node other : NodeId} {builtin shared : BuiltinNode}
    (inside : node.index < catalogue.size) (otherInside : other.index < catalogue.size)
    (bare : (catalogue.nodeAt node).origin = none)
    (otherBare : (catalogue.nodeAt other).origin = none)
    (isBuiltin : (catalogue.nodeAt node).kind = .builtin builtin)
    (isShared : (catalogue.nodeAt other).kind = .builtin shared)
    (same : builtin.kind = shared.kind) : node = other := by
  -- Primitive nodes without a declaration are listed by their kind.
  have told {node : NodeId} {builtin : BuiltinNode} (inside : node.index < catalogue.size)
      (bare : (catalogue.nodeAt node).origin = none)
      (isBuiltin : (catalogue.nodeAt node).kind = .builtin builtin) :
      state.builtins.get? builtin.kind = some node := by
    rw [cores.size] at inside
    rw [cores.origin] at bare
    have core := (cores.core node).symm
    rw [isBuiltin] at core
    exact orderly.shared node builtin inside bare
      (NodeKind.eq_of_core core (by simp [NodeKind.label]))
  have left := told inside bare isBuiltin
  rw [same, told otherInside otherBare isShared] at left
  exact (Option.some.inj left).symm

end

/-! ## Packages -/

/-- Declarations are told apart by their nodes, in a catalogue and all the way to its state. -/
structure Context.TellsApart (context : Context) (state : State) (catalogue : Catalogue) :
    Prop where
  /-- No declaration has two nodes. -/
  single : ∀ id node other, (catalogue.nodeAt node).origin = some id →
    (catalogue.nodeAt other).origin = some id → node = other
  /-- Only primitive nodes are shared among declarations. -/
  own : ∀ id node, Remembered id node state → (catalogue.nodeAt node).origin = some id ∨
    ∃ builtin, (catalogue.nodeAt node).kind = .builtin builtin
  /-- No primitive kind has two nodes without a declaration. -/
  shared : ∀ node other builtin otherBuiltin, node.index < catalogue.size →
    other.index < catalogue.size → (catalogue.nodeAt node).origin = none →
    (catalogue.nodeAt other).origin = none → (catalogue.nodeAt node).kind = .builtin builtin →
    (catalogue.nodeAt other).kind = .builtin otherBuiltin → builtin.kind = otherBuiltin.kind →
      node = other
  passes : Passes context {} state
  /-- Whenever a derivation comes back on the way, it is with the node that there is in the end. -/
  calls : ∀ steps id before node after, context.nodeWithin steps id before = (.ok node, after) →
    Passes context after state → Remembered (context.definition.payloadType id) node state

/-- The nodes of a package tell declarations apart, whenever and however often they are derived. -/
theorem one_node_per_declaration {definition : Definition} {options : Options} {package : Package}
    (derived : derivePackage definition options = .ok package) :
    (Context.of definition options).TellsApart (finalState definition options)
      package.catalogue := by
  obtain ⟨clients, run, rfl⟩ := derivePackage_ok derived
  obtain ⟨advances, consistent, _⟩ := run_consistent run
  -- Usage is spread over the nodes without changing what they stand for.
  have cores : SameCores (finalState definition options).catalogue
      ((finalState definition options).package (Context.of definition options) clients).catalogue :=
    sameCores_spread
  exact
    { single := fun _ _ _ => eq_of_origin consistent.orderly cores
      own := fun _ _ => own_or_builtin consistent.orderly cores
      shared := fun _ _ _ _ => eq_of_builtin consistent.orderly cores
      passes := advances.passes
      calls := fun steps id _ _ _ call passes =>
        passes.remembered ((nodeWithin_finds steps id).ok trivial call) }

/-- In the reef, fish and sharks have nodes of their own, and all are told apart. -/
theorem one_node_per_declaration_reef :
    ∃ package, derivePackage reef {} = .ok package ∧
      Remembered ⟨0⟩ ⟨2⟩ (finalState reef {}) ∧ Remembered ⟨1⟩ ⟨0⟩ (finalState reef {}) ∧
      (Context.of reef {}).TellsApart (finalState reef {}) package.catalogue := by
  -- What nodes the two have is evaluated; the theorem tells the rest.
  have isOk : (derivePackage reef {}).isOk = true := by decide +kernel
  have isFish : (finalState reef {}).declared.get? ⟨0⟩ = some ⟨2⟩ := by decide +kernel
  have isShark : (finalState reef {}).declared.get? ⟨1⟩ = some ⟨0⟩ := by decide +kernel
  cases derived : derivePackage reef {} with
  | error failure => simp [derived, Except.isOk, Except.toBool] at isOk
  | ok package => exact ⟨package, rfl, isFish, isShark, one_node_per_declaration derived⟩

end ClientModel.Derivation
