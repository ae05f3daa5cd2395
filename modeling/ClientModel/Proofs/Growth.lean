import Mathlib.Data.List.Forall2
import ClientModel.Proofs.Catalogue
import ClientModel.Proofs.OrderedMap
import ClientModel.Proofs.References
import ClientModel.Proofs.Runs

/-!
What deriving the node of a declaration leaves alone.

A derivation adds nodes and declarations. Of the nodes that were there before, it only marks those
that turn out to be subtypes, so that whatever else is known of them stays true.
-/

namespace ClientModel

/-! ## Marks -/

/-- A property without the mark that it tells subtypes apart. -/
def Property.unmarked (property : Property) : Property :=
  { property with role := .member false }

/-- A model without what it is known by as a subtype. -/
def ModelNode.plain (model : ModelNode) : ModelNode :=
  { model with
    discriminatorValue := none
    properties := model.properties.map Property.unmarked }

/-- A kind of node without the marks of a subtype, and without the values of an enum. -/
def NodeKind.plain : NodeKind → NodeKind
  | .model composite => .model composite.plain
  | .enumeration declared => .enumeration { declared with values := [] }
  | kind => kind

/-- A node without its documentation and without what is added to it at the end. -/
def Node.plain (node : Node) : Node :=
  { origin := node.origin, nullable := node.nullable, kind := node.kind.plain }

/-- A change of marks alone leaves a node the same but for marks. -/
theorem Node.plain_mapModel {node : Node} {change : ModelNode → ModelNode}
    (same : ∀ model, (change model).plain = model.plain) :
    (node.mapModel change).plain = node.plain := by
  -- Only models are changed.
  cases kind : node.kind with
  | model model => simp [Node.mapModel, Node.plain, NodeKind.plain, kind, same]
  | _ => simp [Node.mapModel, kind]

/-- What values an enumeration lists is no part of it but for marks. -/
theorem Node.plain_mapEnumeration (node : Node) (values : List NodeId) :
    (node.mapEnumeration ({ · with values })).plain = node.plain := by
  cases kind : node.kind <;> simp [Node.mapEnumeration, Node.plain, NodeKind.plain, kind]

/-- The model of a node without marks is that of the node, without marks. -/
theorem Node.model?_plain (node : Node) : node.plain.model? = node.model?.map ModelNode.plain := by
  cases kind : node.kind <;> simp [Node.plain, NodeKind.plain, Node.model?, kind]

/-- A node without marks is of the same kind. -/
theorem Node.label_plain (node : Node) : node.plain.kind.label = node.kind.label := by
  cases kind : node.kind <;> simp [Node.plain, NodeKind.plain, NodeKind.label, kind]

namespace Derivation

/-- To mark a discriminator is to change nothing but a mark. -/
theorem markDiscriminator?_unmarked {properties marked : List Property} {serializedName : String}
    (found : markDiscriminator? properties serializedName = some marked) :
    marked.map Property.unmarked = properties.map Property.unmarked := by
  -- Along the properties, up to the one that gets the mark.
  induction properties generalizing marked with
  | nil => simp [markDiscriminator?] at found
  | cons property rest ih =>
    rw [markDiscriminator?] at found
    split at found
    · cases found
      rfl
    · obtain ⟨later, foundLater, rfl⟩ := Option.map_eq_some_iff.mp found
      simp only [List.map_cons, ih foundLater]

/-- A subtype that is marked stays the same but for its marks. -/
theorem plain_marked (model : ModelNode) (value discriminator : String) :
    { model with
      discriminatorValue := some value
      properties :=
        (markDiscriminator? model.properties discriminator).getD model.properties }.plain =
      model.plain := by
  -- The mark is a property or a value, and neither is left when the marks are taken off.
  simp only [ModelNode.plain, ModelNode.mk.injEq, true_and, and_true]
  cases found : markDiscriminator? model.properties discriminator with
  | none => rfl
  | some marked => exact markDiscriminator?_unmarked found

open Service (Enumeration Intrinsic Literal Model Scalar Shape Union Variant)

variable {α : Type} {kept : State → Prop} {allowed : Failure → Prop} {floor : Nat}

/-- Making up names leaves alone whatever does not depend on them. -/
theorem nameOrGenerated_keeps {context : Context} {held : State → Prop}
    {failed : Failure → State → Prop}
    (names : ∀ state names, held state → held { state with names }) (id : TypeId)
    (declared : Option String) :
    Ensures held (context.nameOrGenerated id declared)
      (fun name state => held state ∧ name.2 = declared.isNone) failed := by
  -- A declared name is taken as it is, and any other is made up and kept with the others.
  cases declared with
  | some name => exact Ensures.pure fun _ start => ⟨start, rfl⟩
  | none =>
    refine Ensures.via (fun _ => held) ?_ fun name => Ensures.pure fun _ start => ⟨start, rfl⟩
    unfold Context.generatedName
    refine Ensures.look fun current => ?_
    split
    · exact Ensures.pure fun _ start => start
    · refine Ensures.look fun current => ?_
      exact Ensures.via (fun _ => held) (Ensures.modify fun state => names state _) fun _ =>
        Ensures.pure fun _ start => start

/-! ## Parts of shapes -/

namespace Keeps

variable {context : Context} {derive : TypeId → Derive NodeId}

/-- The base of a scalar is derived only if the scalar is declared in a namespace. -/
theorem scalarBase? (scalar : Scalar)
    (other : ∀ base ∈ scalar.base, scalar.namespaceId.isSome → Keeps kept allowed (derive base)) :
    Keeps kept allowed (Context.scalarBase? derive scalar) := by
  -- Only in a namespace is the base looked at.
  unfold Context.scalarBase?
  split
  · rename_i inNamespace isBase
    exact (other _ isBase (by simp [inNamespace])).map
  · exact .pure _

/-- A member keeps what its type does. -/
theorem memberProperty (owner : NodeId) (ownerId : String) (id : PropertyId)
    (type : Keeps kept allowed (derive (context.propertyType id))) :
    Keeps kept allowed (context.memberProperty derive owner ownerId id) :=
  Keeps.bind type fun _ => .pure _

/-- What a model inherits keeps what its base does, or the values in its place. -/
theorem inheritance (model : Model)
    (others : ∀ type ∈ (context.baseType? model).toList ++ (context.inheritedType? model).toList,
      Keeps kept allowed (derive type)) :
    Keeps kept allowed (context.inheritance derive model) := by
  unfold Context.inheritance
  -- The base may be missing, may be a record, or is a type of its own.
  split
  · exact .pure _
  · rename_i isBase
    split
    · rename_i shape
      refine (others _ ?_).bind fun _ => .pure _
      simp [Context.inheritedType?, isBase, shape]
    · refine (others _ ?_).bind fun _ => .pure _
      simp [Context.baseType?, isBase]

/-- Additional properties keep what their type does. -/
theorem additionalNode? (model : Model) (inherited : Option NodeId)
    (other : ∀ value ∈ model.additionalProperties, Keeps kept allowed (derive value)) :
    Keeps kept allowed (Context.additionalNode? derive model inherited) := by
  -- Where a model declares none, those that it inherits are there already.
  unfold Context.additionalNode?
  split
  · rename_i isValue
    exact (other _ isValue).map
  · exact .pure _

end Keeps

/-! ## Frames -/

/-- The fault stands for a derivation or a search that would go on without end. -/
def Violation.isEndless : Violation → Bool
  | .unguardedCycle _ | .endlessBases _ | .endlessVariants _ => true
  | _ => false

/-- If the failure is a fault of the derivation, it is one as told. -/
def Failure.Blames (told : Violation → Prop) (failure : Failure) : Prop :=
  ∀ cause, failure = .violation cause → told cause

/-- A walk to an encoding that never ends is a failure that is allowed. -/
def Context.AllowsBases (context : Context) (allowed : Failure → Prop) : Prop :=
  ∀ id type, context.definition.encoding? id = .error type →
    allowed (.violation (.endlessBases type))

/--
A property of states that no shape breaks if the derivations of what it refers to do not.

Nodes from a floor on may change as far as they stay of their sort, and those below it may be
marked.
-/
structure ShapeFrame (floor : Nat) (kept : State → Prop) (allowed : Failure → Prop) : Prop where
  fault : ∀ cause : Violation, cause.isEndless = false → allowed (.violation cause)
  inside : ∀ state, kept state → floor ≤ state.catalogue.size
  added : ∀ state node, kept state → kept { state with catalogue := state.catalogue.push node }
  changed : ∀ state id change, kept state → floor ≤ id.index →
    (∀ node : Node, (change node).kind.label = node.kind.label) →
    kept { state with catalogue := state.catalogue.modify id change }
  marked : ∀ state id change, kept state → (∀ node : Node, (change node).plain = node.plain) →
    kept { state with catalogue := state.catalogue.modify id change }
  declared : ∀ state type node, kept state →
    (∀ first, state.declared.get? type = some first → first = node) →
    kept { state with declared := state.declared.insert type node }
  builtins : ∀ state kind builtin, kept state → state.builtins.get? kind = none →
    kept { state with
      catalogue := state.catalogue.push { kind := .builtin builtin }
      builtins := state.builtins.insert kind ⟨state.catalogue.size⟩ }
  names : ∀ state names, kept state → kept { state with names }
  diagnostics : ∀ state report, report.code ≠ some Code.conflictingMultipartUsage → kept state →
    kept { state with diagnostics := state.diagnostics.add report }

/-- Whatever is there, and whichever faults shapes may fail for. -/
theorem ShapeFrame.anything
    (fault : ∀ cause : Violation, cause.isEndless = false → allowed (.violation cause)) :
    ShapeFrame 0 (fun _ => True) allowed where
  -- Nothing is kept, so no step has to keep it.
  fault := fault
  inside _ _ := Nat.zero_le _
  added _ _ _ := trivial
  changed _ _ _ _ _ _ := trivial
  marked _ _ _ _ _ := trivial
  declared _ _ _ _ _ := trivial
  builtins _ _ _ _ _ := trivial
  names _ _ _ := trivial
  diagnostics _ _ _ _ := trivial

/-- A property of states that no derivation of a node breaks. -/
structure Frame (floor : Nat) (kept : State → Prop) (allowed : Failure → Prop) : Prop
    extends ShapeFrame floor kept allowed where
  violation : ∀ cause, allowed (.violation cause)
  fault := fun cause _ => violation cause

namespace Frame

/-- Of whatever is there, a derivation of a node only fails for a fault of its own. -/
theorem anything : Frame 0 (fun _ => True) fun failure => failure.endsRun = true where
  toShapeFrame := .anything fun _ _ => rfl
  violation _ := rfl

section

variable (frame : Frame floor kept allowed)
include frame

/-- What a derivation of a node does not touch stays as it is. -/
theorem beside {untouched : State → Prop}
    (still : ∀ state catalogue declared builtins names diagnostics, untouched state →
      untouched { state with catalogue, declared, builtins, names, diagnostics }) :
    Frame floor (fun state => kept state ∧ untouched state) allowed where
  -- Each clause holds as it did, and the untouched part reads none of what has changed.
  violation := frame.violation
  inside state held := frame.inside state held.1
  added state node held := ⟨frame.added state node held.1, still _ _ _ _ _ _ held.2⟩
  changed state id change held fresh sort :=
    ⟨frame.changed state id change held.1 fresh sort, still _ _ _ _ _ _ held.2⟩
  marked state id change held same :=
    ⟨frame.marked state id change held.1 same, still _ _ _ _ _ _ held.2⟩
  declared state type node held same :=
    ⟨frame.declared state type node held.1 same, still _ _ _ _ _ _ held.2⟩
  builtins state kind builtin held fresh :=
    ⟨frame.builtins state kind builtin held.1 fresh, still _ _ _ _ _ _ held.2⟩
  names state names held := ⟨frame.names state names held.1, still _ _ _ _ _ _ held.2⟩
  diagnostics state report early held :=
    ⟨frame.diagnostics state report early held.1, still _ _ _ _ _ _ held.2⟩

end

end Frame

namespace ShapeFrame

variable {context : Context} {derive : TypeId → Derive NodeId}

section

variable (frame : ShapeFrame floor kept allowed)
include frame

/-! ## Small steps -/

/-- A node that is added lies above the floor. -/
theorem addNode {node : Node} {failed : Failure → State → Prop} :
    Ensures kept (addNode node) (fun id state => kept state ∧ floor ≤ id.index) failed :=
  Ensures.addNode fun state start => ⟨frame.added state node start, frame.inside state start⟩

/-- What was told of nodes that are added holds of them, and besides they are new. -/
theorem addNode_bind {node : Node} {next : NodeId → Derive α}
    (rest : ∀ id : NodeId, floor ≤ id.index → Keeps kept allowed (next id)) :
    Keeps kept allowed (Derivation.addNode node >>= next) := by
  refine Ensures.bind frame.addNode fun id => ?_
  -- The place of the node is told before the rest runs, and is not kept beyond it.
  refine Ensures.intro (fun state value next start run => ?_) fun state failure next start run => ?_
  · exact (rest id start.2).ok start.1 run
  · exact (rest id start.2).error start.1 run

/-- A node above the floor may be changed as long as it stays of its kind. -/
theorem modifyNode {id : NodeId} {change : Node → Node} (fresh : floor ≤ id.index)
    (sort : ∀ node : Node, (change node).kind.label = node.kind.label) :
    Keeps kept allowed (modifyNode id change) :=
  .modify fun state start => frame.changed state id change start fresh sort

/-- Any node may be marked. -/
theorem markNode {id : NodeId} {change : Node → Node}
    (same : ∀ node : Node, (change node).plain = node.plain) :
    Keeps kept allowed (Derivation.modifyNode id change) :=
  .modify fun state start => frame.marked state id change start same

/-- A node may be remembered for a type, or this ends the run. -/
theorem remember (type : TypeId) (node : NodeId) : Keeps kept allowed (remember type node) :=
  Ensures.remember (fun state start same => frame.declared state type node start same)
    -- Noting fails only for a type that is noted already, which is a fault and ends the run.
    fun _ _ _ _ _ _ => ⟨frame.fault _ rfl, fun isOwn => by cases isOwn⟩

/-- A builtin type is found or made. -/
theorem builtinNode (kind : BuiltinKind) (name : String) :
    Keeps kept allowed (builtinNode kind name) :=
  -- A builtin type that is found leaves the state alone, and one that is made was not there before.
  Ensures.builtinNode (fun _ _ start _ => start) fun state start fresh =>
    frame.builtins state kind _ start fresh

/-- The node for texts is found or made. -/
theorem stringNode : Keeps kept allowed stringNode :=
  frame.builtinNode .string "string"

/-- Errors may be reported, but for those that come at the end. -/
theorem reportError (target : Declaration) {code : String}
    (early : code ≠ Code.conflictingMultipartUsage) (message : String) :
    Keeps kept allowed (reportError target code message) :=
  .modify fun state => frame.diagnostics state _ (by simpa using early)

/-- Names may be made up. -/
theorem nameOrGenerated (id : TypeId) (declared : Option String) :
    Keeps kept allowed (context.nameOrGenerated id declared) :=
  Ensures.ending (nameOrGenerated_keeps frame.names id declared) (fun _ _ ends => ends.1)

/-! ## Shapes -/

/-- The node of an intrinsic type is derived within the frame. -/
theorem intrinsicNode (id : TypeId) (intrinsic : Intrinsic) :
    Keeps kept allowed (Context.intrinsicNode id intrinsic) := by
  unfold Context.intrinsicNode
  dsimp only
  -- Some have builtin types of their own, and the others nodes without one.
  split
  · exact (frame.builtinNode _ _).bind fun node => (frame.remember id node).bind fun _ => .pure _
  · exact frame.addNode_bind fun node _ => (frame.remember id node).bind fun _ => .pure _

/-- So is that of a literal. -/
theorem literalNode (id : TypeId) (value : Literal) :
    Keeps kept allowed (Context.literalNode id value) := by
  -- The node is new, so it may be changed at will.
  refine frame.addNode_bind fun node fresh => ?_
  refine (frame.modifyNode fresh ?_).bind fun _ => (frame.remember id node).bind fun _ => .pure _
  exact fun _ => rfl

/-- So is that of an enumeration, with its members. -/
theorem enumerationNode (id : TypeId) (enumeration : Enumeration) :
    Keeps kept allowed (context.enumerationNode id enumeration) := by
  unfold Context.enumerationNode
  dsimp only
  refine frame.addNode_bind fun node fresh => (frame.remember id node).bind fun _ => ?_
  -- Every member has a node of its own, which is remembered as well.
  refine (Keeps.mapM _ fun member => ?_).bind fun values => ?_
  · exact frame.addNode_bind fun value _ => (frame.remember _ value).bind fun _ => .pure _
  · exact (frame.modifyNode fresh (Node.label_mapEnumeration · _)).bind fun _ => .pure _

/-- So is that of a union of texts. -/
theorem flattenedNode (id : TypeId) (union : Union) (nullable : Bool)
    (literals : List (String × String)) (isFixed : Bool) :
    Keeps kept allowed (context.flattenedNode id union nullable literals isFixed) := by
  unfold Context.flattenedNode
  dsimp only
  refine (frame.nameOrGenerated id union.name).bind fun name => ?_
  refine frame.addNode_bind fun node fresh => (frame.remember id node).bind fun _ => ?_
  -- The values have nodes, but no declarations.
  refine (Keeps.mapM _ fun literal => ?_).bind fun values => ?_
  · exact frame.addNode.ending fun _ _ => And.left
  · exact (frame.modifyNode fresh (Node.label_mapEnumeration · _)).bind fun _ => .pure _

section

variable (others : ∀ type, Keeps kept allowed (derive type))
include others

/-- So is that of a scalar, where its base is. -/
theorem scalarNode (bases : context.AllowsBases allowed) (id : TypeId) (scalar : Scalar) :
    Keeps kept allowed (context.scalarNode derive id scalar) := by
  unfold Context.scalarNode
  dsimp only
  -- First the base, then the search for an encoding, which may be without end.
  refine (Keeps.scalarBase? scalar fun base _ _ => others base).bind fun base => ?_
  refine (Keeps.answerOf _ (bases id)).bind fun encode => ?_
  refine frame.addNode_bind fun node _ => ?_
  exact (frame.remember id node).bind fun _ => .pure _

/-- So is that of a union, where its variants are. -/
theorem variantsNode (id : TypeId) (union : Union) (nullable : Bool) (variants : List Variant) :
    Keeps kept allowed (context.variantsNode derive id union nullable variants) := by
  have name : Keeps kept allowed (context.unionName? id union nullable variants) := by
    unfold Context.unionName?
    split
    · exact .pure _
    · exact (frame.nameOrGenerated id union.name).bind fun _ => .pure _
  unfold Context.variantsNode
  dsimp only
  -- The node is remembered before its variants are derived, and changed after that.
  refine name.bind fun name => frame.addNode_bind fun node fresh => ?_
  refine (frame.remember id node).bind fun _ => ?_
  refine (Keeps.mapM _ fun variant => others _).bind fun variants => ?_
  exact (frame.modifyNode fresh (Node.label_mapUnion · _)).bind fun _ => .pure _

/-- So is that of any union, whatever is left of it without null. -/
theorem unionNode (id : TypeId) (union : Union) :
    Keeps kept allowed (context.unionNode derive id union) := by
  unfold Context.unionNode
  dsimp only
  -- The cases are those of the derivation: nothing, null alone, texts, variants.
  split
  · exact (frame.builtinNode _ _).bind fun node => (frame.remember id node).bind fun _ => .pure _
  · exact (others _).bind fun node => (frame.remember id node).bind fun _ => .pure _
  · split
    · exact frame.flattenedNode _ _ _ _ _
    · exact frame.variantsNode others _ _ _ _

/-- So are subtypes, each with a mark that it is told apart. -/
theorem addSubtype (discriminator : String) (subtypes : OrderedMap String NodeId)
    (derived : TypeId) :
    Keeps kept allowed (Context.addSubtype derive discriminator subtypes derived) := by
  unfold Context.addSubtype
  refine (others derived).bind fun child => .get_bind fun current => ?_
  split
  · -- A subtype may be older than the frame; it is only marked.
    refine (frame.markNode fun node => ?_).bind fun _ => .pure _
    exact Node.plain_mapModel fun model => plain_marked model _ _
  · exact (frame.reportError _ (by decide) _).bind fun _ => .pure _

/-- So is the discriminator of a new model. -/
theorem addDiscriminator? {node : NodeId} (fresh : floor ≤ node.index) (model : Model) :
    Keeps kept allowed (Context.addDiscriminator? derive node model) := by
  unfold Context.addDiscriminator?
  -- The discriminator is put on the new node; of older ones the subtypes are only marked.
  split
  · unfold Context.addDiscriminator
    refine (Keeps.foldlM _ _ fun found derived => frame.addSubtype others _ found derived).bind
      fun subtypes => frame.stringNode.bind fun string =>
        frame.modifyNode fresh (Node.label_mapModel · _)
  · exact .pure _

/-- So is the node of a model, where its parts are. -/
theorem modelNode (id : TypeId) (model : Model) :
    Keeps kept allowed (context.modelNode derive id model) := by
  unfold Context.modelNode
  dsimp only
  refine (frame.nameOrGenerated id model.name).bind fun name => ?_
  -- The node is remembered at once; whatever comes later only fills it in.
  refine frame.addNode_bind fun node fresh => (frame.remember id node).bind fun _ => ?_
  refine (Keeps.mapM _ fun property => Keeps.memberProperty _ _ property (others _)).bind
    fun properties => (frame.modifyNode fresh (Node.label_mapModel · _)).bind fun _ => ?_
  refine (Keeps.inheritance model fun type _ => others type).bind fun inherited => ?_
  refine (Keeps.additionalNode? model _ fun type _ => others type).bind fun additional => ?_
  refine (frame.modifyNode fresh (Node.label_mapModel · _)).bind fun _ => ?_
  exact (frame.addDiscriminator? others fresh model).bind fun _ => .pure _

/-- So is the node of any shape. -/
theorem shapeNode (bases : context.AllowsBases allowed) (id : TypeId) (shape : Shape) :
    Keeps kept allowed (context.shapeNode derive id shape) := by
  -- One case for each shape; those with parts of their own have a lemma above.
  cases shape with
  | scalar scalar => exact frame.scalarNode others bases id scalar
  | intrinsic intrinsic => exact frame.intrinsicNode id intrinsic
  | literal value => exact frame.literalNode id value
  | enumeration enumeration => exact frame.enumerationNode id enumeration
  | member member =>
    refine (others member.parent).bind fun _ => .get_bind fun current => ?_
    split
    · exact .pure _
    · exact Ensures.throw fun _ _ => ⟨frame.fault _ rfl, fun isOwn => by cases isOwn⟩
  | union union => exact frame.unionNode others id union
  | array element =>
    refine (others element).bind fun value => frame.addNode_bind fun node _ => ?_
    exact (frame.remember id node).bind fun _ => .pure _
  | record element =>
    refine frame.stringNode.bind fun key => (others element).bind fun value => ?_
    exact frame.addNode_bind fun node _ => (frame.remember id node).bind fun _ => .pure _
  | model model => exact frame.modelNode others id model

end

/-! ## Declarations -/

/-- So is the node of a type, whether it was met before or not. -/
theorem nodeStep (others : ∀ type, Keeps kept allowed (derive type))
    (bases : context.AllowsBases allowed) (id : TypeId) :
    Keeps kept allowed (context.nodeStep derive id) := by
  unfold Context.nodeStep
  -- What was met before is remembered; what is new is derived by its shape.
  refine .get_bind fun current => ?_
  split
  · exact .pure _
  · -- The last step adds documentation, which is a mark.
    refine (frame.shapeNode others bases _ _).bind fun node => ?_
    refine (frame.markNode fun derived => ?_).bind fun _ => .pure _
    split
    · rfl
    · rfl

/-- By induction on the references that are left: each shape keeps what its parts keep. -/
theorem nodeWithin (bases : context.AllowsBases allowed)
    (cycles : ∀ type, allowed (.violation (.unguardedCycle type))) (steps : Nat) (id : TypeId) :
    Keeps kept allowed (context.nodeWithin steps id) := by
  -- Out of steps the derivation fails with a fault, which the frame allows.
  induction steps generalizing id with
  | zero => exact Ensures.throw fun _ _ => ⟨cycles _, fun isOwn => by cases isOwn⟩
  | succ steps ih => exact frame.nodeStep ih bases id

end

end ShapeFrame

namespace Frame

variable {context : Context}

section

variable (frame : Frame floor kept allowed)
include frame

/-- So is a node within any number of steps, as a run out of steps is a violation. -/
theorem nodeWithin (steps : Nat) (id : TypeId) :
    Keeps kept allowed (context.nodeWithin steps id) :=
  -- Both ways to run out are faults, and a frame allows faults.
  frame.toShapeFrame.nodeWithin (fun _ _ _ => frame.violation _) (fun _ => frame.violation _)
    steps id

/-- So is the node of any type. -/
theorem node (id : TypeId) : Keeps kept allowed (context.node id) :=
  frame.nodeWithin _ id

/-- What a derivation of a node does not break is not broken by steps without a declaration. -/
theorem steady : Steady kept allowed :=
  .nameless frame.builtinNode (fun state node _ => frame.added state node) frame.names
    frame.diagnostics

end

end Frame

/-- Of whatever is there, a step of a run only fails for a fault of its own, methods apart. -/
theorem Robust.anything (context : Context) :
    Robust context (fun _ => True) fun failure => failure.endsRun = true where
  toSteady := Frame.anything.steady
  node := Frame.anything.node
  search _ := Keeps.answerOf _ fun _ _ => rfl
  clientParameter _ _ _ _ := trivial
  endpoints _ _ _ := trivial
  credentials _ _ _ := trivial
  seeds _ _ _ := trivial
  bodyFormats _ _ _ := trivial

/-! ## Growth -/

/-- What a state knew is still known later on: nodes but for marks, and all that was noted. -/
structure Grown (before after : State) : Prop where
  size : before.catalogue.size ≤ after.catalogue.size
  nodes : ∀ id : NodeId, id.index < before.catalogue.size →
    (after.catalogue.nodeAt id).plain = (before.catalogue.nodeAt id).plain
  declared : ∀ type node, before.declared.get? type = some node →
    after.declared.get? type = some node
  parameters : ∀ client, ∀ parameter ∈ (before.clientParameters.get? client).getD [],
    parameter ∈ (after.clientParameters.get? client).getD []
  builtins : ∀ kind node, before.builtins.get? kind = some node →
    after.builtins.get? kind = some node
  reports : ∀ report ∈ before.diagnostics.reports, report ∈ after.diagnostics.reports

namespace Grown

variable {first second third state : State}

/-- A state has grown into itself. -/
theorem refl (state : State) : Grown state state :=
  ⟨Nat.le_refl _, fun _ _ => rfl, fun _ _ known => known, fun _ _ taken => taken,
    fun _ _ known => known, fun _ noted => noted⟩

/-- To grow twice is to grow. -/
theorem trans (left : Grown first second) (right : Grown second third) : Grown first third where
  size := Nat.le_trans left.size right.size
  nodes id inside :=
    (right.nodes id (Nat.lt_of_lt_of_le inside left.size)).trans (left.nodes id inside)
  declared type node known := right.declared type node (left.declared type node known)
  parameters client parameter taken :=
    right.parameters client parameter (left.parameters client parameter taken)
  builtins kind node known := right.builtins kind node (left.builtins kind node known)
  reports report noted := right.reports report (left.reports report noted)

/-- A node that is added has a place of its own. -/
theorem push (grown : Grown first state) (node : Node) :
    Grown first { state with catalogue := state.catalogue.push node } where
  size := by
    have larger := grown.size
    simp only [Catalogue.size_push]
    omega
  -- Places that were there are before the new one.
  nodes id inside := by
    rw [Catalogue.nodeAt_push_lt _ (Nat.lt_of_lt_of_le inside grown.size)]
    exact grown.nodes id inside
  declared := grown.declared
  parameters := grown.parameters
  builtins := grown.builtins
  reports := grown.reports

/-- Nodes that were not there before change at will, and others are marked. -/
theorem modify (grown : Grown first state) {id : NodeId} {change : Node → Node}
    (harmless : first.catalogue.size ≤ id.index ∨
      ∀ node : Node, (change node).plain = node.plain) :
    Grown first { state with catalogue := state.catalogue.modify id change } where
  size := by
    rw [Catalogue.size_modify]
    exact grown.size
  nodes other inside := by
    rw [← grown.nodes other inside]
    -- Only the node that changes may tell something else, and only if it was not there before.
    by_cases same : other = id
    · subst same
      rcases harmless with fresh | marks
      · omega
      · rw [Catalogue.nodeAt_modify_self _ (Nat.lt_of_lt_of_le inside grown.size), marks]
    · rw [Catalogue.nodeAt_modify_ne _ same]
  declared := grown.declared
  parameters := grown.parameters
  builtins := grown.builtins
  reports := grown.reports

/-- A type may be declared if it had no other node. -/
theorem insert (grown : Grown first state) {type : TypeId} {node : NodeId}
    (same : ∀ other, state.declared.get? type = some other → other = node) :
    Grown first { state with declared := state.declared.insert type node } where
  size := grown.size
  nodes := grown.nodes
  -- A type that is declared again keeps its node.
  declared other found known :=
    OrderedMap.get?_insert_of_get? same (grown.declared other found known)
  parameters := grown.parameters
  builtins := grown.builtins
  reports := grown.reports

/-- A client may take one more parameter. -/
theorem takes (grown : Grown first state) (client : ContainerId) (parameter : Property) :
    Grown first { state with
      clientParameters :=
        state.clientParameters.alter client fun before => before.getD [] ++ [parameter] } where
  size := grown.size
  nodes := grown.nodes
  declared := grown.declared
  parameters other taken member := by
    -- What it had is still in front of the new one, and other clients are left alone.
    rw [OrderedMap.alter, OrderedMap.get?_insert]
    have still := grown.parameters other taken member
    split
    · rename_i isClient
      rw [beq_iff_eq.mp isClient] at still
      exact List.mem_append_left _ still
    · exact still
  builtins := grown.builtins
  reports := grown.reports

/-- Names may be claimed. -/
theorem rename (grown : Grown first state) (names : NameRegistry) :
    Grown first { state with names } :=
  ⟨grown.size, grown.nodes, grown.declared, grown.parameters, grown.builtins, grown.reports⟩

/-- Notes on usage and on services are no part of what is known. -/
theorem noted (grown : Grown first state) (endpoints : OrderedMap ContainerId Property)
    (credentials : OrderedMap ContainerId (Option Property)) (seeds : List Seed)
    (bodyFormats : List (NodeId × Bool)) :
    Grown first { state with endpoints, credentials, seeds, bodyFormats } :=
  ⟨grown.size, grown.nodes, grown.declared, grown.parameters, grown.builtins, grown.reports⟩

/-- Reports may be added. -/
theorem report (grown : Grown first state) (report : Diagnostic) :
    Grown first { state with diagnostics := state.diagnostics.add report } where
  size := grown.size
  nodes := grown.nodes
  declared := grown.declared
  parameters := grown.parameters
  builtins := grown.builtins
  reports other noted := List.mem_append_left _ (grown.reports other noted)

/-- A builtin type may be made that was not there. -/
theorem makes (grown : Grown first state) {kind : BuiltinKind} (node : NodeId)
    (fresh : state.builtins.get? kind = none) :
    Grown first { state with builtins := state.builtins.insert kind node } where
  size := grown.size
  nodes := grown.nodes
  declared := grown.declared
  parameters := grown.parameters
  builtins other found known :=
    -- There was no builtin type of the kind, so what was known is not written over.
    OrderedMap.get?_insert_of_get? (fun first had => by rw [fresh] at had; cases had)
      (grown.builtins other found known)
  reports := grown.reports

/-- A model stays a model with the same properties but for marks. -/
theorem model? (grown : Grown first second) {id : NodeId} {model : ModelNode}
    (known : first.catalogue.model? id = some model) :
    ∃ later, second.catalogue.model? id = some later ∧ later.plain = model.plain := by
  -- In range nodes stay the same but for marks; out of range there are no models.
  by_cases inside : id.index < first.catalogue.size
  · have plain := congrArg Node.model? (grown.nodes id inside)
    rw [Node.model?_plain, Node.model?_plain] at plain
    unfold Catalogue.model? at known
    rw [known] at plain
    exact Option.map_eq_some_iff.mp plain
  · rw [Catalogue.model?, Catalogue.nodeAt_of_ge _ (Nat.le_of_not_lt inside)] at known
    cases known

/-- All that is known before the node of a declaration is derived is known afterwards. -/
theorem frame (start : State) (violation : ∀ cause, allowed (.violation cause)) :
    Frame start.catalogue.size (Grown start) allowed where
  violation := violation
  inside _ grown := grown.size
  -- Nodes that were there first are only marked; all else that happens adds to what is known.
  added _ node grown := grown.push node
  changed _ _ _ grown fresh _ := grown.modify (Or.inl fresh)
  marked _ _ _ grown same := grown.modify (Or.inr same)
  declared _ _ _ grown same := grown.insert same
  builtins _ _ builtin grown fresh := (grown.push { kind := .builtin builtin }).makes _ fresh
  names _ names grown := grown.rename names
  diagnostics _ report _ grown := grown.report report

/-- Whatever a step of a run does, all that is known at its start is known at its end. -/
theorem robust (context : Context) (start : State) :
    Robust context (Grown start) fun _ => True where
  toSteady := (frame start fun _ => trivial).steady
  node type := (frame start fun _ => trivial).node type
  search _ := Keeps.answerOf _ fun _ _ => trivial
  clientParameter _ client parameter grown := grown.takes client parameter
  endpoints _ _ grown := grown.noted _ _ _ _
  credentials _ _ grown := grown.noted _ _ _ _
  seeds _ _ grown := grown.noted _ _ _ _
  bodyFormats _ _ grown := grown.noted _ _ _ _

end Grown

/-! ## What lasts -/

/-- Once it holds, it holds in every state that such a state leads to. -/
def LastsAlong (leads : State → State → Prop) (holds : State → Prop) : Prop :=
  ∀ before after, holds before → leads before after → holds after

/-- What lasts of each entry of a list and its value lasts of all of them. -/
theorem LastsAlong.forall₂ {leads : State → State → Prop} {β : Type} {told : β → α → State → Prop}
    (lasting : ∀ entry value, LastsAlong leads (told entry value)) (list : List β)
    (values : List α) : LastsAlong leads fun state =>
      List.Forall₂ (fun entry value => told entry value state) list values :=
  -- Each entry lasts by itself, so they may be taken one by one.
  fun before after each led =>
    each.imp fun entry value holds => lasting entry value before after holds led

/-- Once it holds, it holds in every state that still knows all that was known. -/
abbrev Lasting (holds : State → Prop) : Prop :=
  LastsAlong Grown holds

namespace Lasting

variable {ι : Sort*} {left right : State → Prop} {each : ι → State → Prop}

/-- What does not depend on the state lasts. -/
theorem const (always : Prop) : Lasting fun _ => always :=
  fun _ _ held _ => held

/-- Two facts that last do so together. -/
theorem and (first : Lasting left) (second : Lasting right) :
    Lasting fun state => left state ∧ right state :=
  fun before after held grown => ⟨first before after held.1 grown, second before after held.2 grown⟩

/-- If each of several facts lasts, so does it that one of them holds. -/
theorem any (lasting : ∀ index, Lasting (each index)) :
    Lasting fun state => ∃ index, each index state :=
  fun before after held grown => held.imp fun index found => lasting index before after found grown

end Lasting

instance : Std.Refl Grown := ⟨Grown.refl⟩

section

variable {leads : State → State → Prop} [Std.Refl leads]

/-- What lasts is kept by every step whose end each state leads to. -/
theorem LastsAlong.keeps {holds : State → Prop} {step : Derive α} (lasting : LastsAlong leads holds)
    (grows : ∀ start, Keeps (leads start) allowed step) : Keeps holds allowed step := by
  -- A run leads from its start to its end, whatever it was started with.
  refine Ensures.intro ?_ ?_
  · intro state value next start run
    exact lasting state next start ((grows state).ok (refl state) run)
  · intro state failure next start run
    obtain ⟨isAllowed, leads⟩ := (grows state).error (refl state) run
    exact ⟨isAllowed, fun isOwn => lasting state next start (leads isOwn)⟩

/-- What lasts is not broken by steps without a declaration, if these lead on. -/
theorem LastsAlong.steady {holds : State → Prop} (lasting : LastsAlong leads holds)
    (grows : ∀ start, Steady (leads start) allowed) : Steady holds allowed where
  -- Each step leads on from the state before, and what lasts is carried along with it.
  builtinNode kind name := lasting.keeps fun start => (grows start).builtinNode kind name
  loose state node bare nameless start :=
    lasting _ _ start ((grows state).loose state node bare nameless (refl state))
  claimed state candidate start :=
    lasting _ _ start ((grows state).claimed state candidate (refl state))
  union state candidate «namespace» variants dotless start :=
    lasting _ _ start
      ((grows state).union state candidate «namespace» variants dotless (refl state))
  diagnostics state report early start :=
    lasting _ _ start ((grows state).diagnostics state report early (refl state))

/-- What lasts is not broken by steps towards a method, if these lead on. -/
theorem LastsAlong.elevating {holds : State → Prop} {context : Context} {client : ContainerId}
    (lasting : LastsAlong leads holds)
    (grows : ∀ start, Elevating context client (leads start) allowed) :
    Elevating context client holds allowed where
  toSteady := lasting.steady fun start => (grows start).toSteady
  node type := lasting.keeps fun start => (grows start).node type
  search types := lasting.keeps fun start => (grows start).search types
  seed state seed start := lasting _ _ start ((grows state).seed state seed (refl state))
  clientParameter state parameter start :=
    lasting _ _ start ((grows state).clientParameter state parameter (refl state))

/-- What lasts is not broken by anything that clients are made with, if all of that leads on. -/
theorem LastsAlong.providing {holds : State → Prop} {context : Context}
    {among : ContainerId → Prop} (lasting : LastsAlong leads holds)
    (grows : ∀ start, Providing context among (leads start) fun _ => True) :
    Providing context among holds fun _ => True where
  toSteady := lasting.steady fun start => (grows start).toSteady
  node type := lasting.keeps fun start => (grows start).node type
  clientParameter state client parameter inside start :=
    lasting _ _ start ((grows state).clientParameter state client parameter inside (refl state))
  endpointParameter root := lasting.keeps fun start => (grows start).endpointParameter root
  credentialParameter? root := lasting.keeps fun start => (grows start).credentialParameter? root

/-- What lasts is kept beside whatever else is told of a step. -/
theorem Ensures.beside {held before : State → Prop} {step : Derive α} {after : α → State → Prop}
    (told : Ensures before step after fun _ _ => True) (lasting : LastsAlong leads held)
    (grows : ∀ start, Keeps (leads start) (fun _ => True) step) :
    Ensures (fun state => held state ∧ before state) step
      (fun value state => held state ∧ after value state) fun _ _ => True :=
  -- The step is looked at twice: for what is told of it, and for leading on.
  ((lasting.keeps grows).both told).weaken (fun _ start => start) (fun _ _ ends => ends)
    fun _ _ _ => trivial

/-- What is told of each entry of a list lasts until all entries are done. -/
theorem Ensures.mapM_lasting {β : Type} {kept : State → Prop} {step : β → Derive α}
    {told : β → α → State → Prop} (lasting : ∀ entry value, LastsAlong leads (told entry value))
    (grows : ∀ entry start, Keeps (leads start) (fun _ => True) (step entry))
    (each : ∀ entry, Ensures kept (step entry)
      (fun value state => kept state ∧ told entry value state) fun _ _ => True)
    (list : List β) :
    Ensures kept (list.mapM step)
      (fun values state => kept state ∧
        List.Forall₂ (fun entry value => told entry value state) list values)
      fun _ _ => True := by
  induction list with
  | nil =>
    rw [List.mapM_nil]
    exact Ensures.pure fun _ start => ⟨start, .nil⟩
  | cons entry rest ih =>
    rw [List.mapM_cons]
    refine Ensures.bind (each entry) fun value => ?_
    -- What was told of the first entry is kept while the others are done.
    have others := ih.beside (lasting entry value) fun start => Keeps.mapM rest fun other =>
      grows other start
    refine Ensures.bind (others.starting fun _ start => start.symm) fun values => Ensures.pure ?_
    rintro state ⟨first, start, later⟩
    exact ⟨start, .cons first later⟩

end

/-- What lasts is not broken by anything that a run does. -/
theorem Lasting.robust {holds : State → Prop} (lasting : Lasting holds) (context : Context) :
    Robust context holds fun _ => True :=
  have grows (start : State) := Grown.robust context start
  -- Each change that a run makes is one that the state grows by.
  { toSteady := lasting.steady fun start => (grows start).toSteady
    node := fun type => lasting.keeps fun start => (grows start).node type
    search := fun _ => Keeps.answerOf _ fun _ _ => trivial
    clientParameter := fun state client parameter start =>
      lasting _ _ start ((grows state).clientParameter _ client parameter (.refl _))
    endpoints := fun state endpoints start =>
      lasting _ _ start ((grows state).endpoints _ endpoints (.refl _))
    credentials := fun state credentials start =>
      lasting _ _ start ((grows state).credentials _ credentials (.refl _))
    seeds := fun state seeds start => lasting _ _ start ((grows state).seeds _ seeds (.refl _))
    bodyFormats := fun state formats start =>
      lasting _ _ start ((grows state).bodyFormats _ formats (.refl _)) }

/-! ## Results -/

/-- Whatever a step hands over is as told, in the state that the step ends in. -/
def Yields (step : Derive α) (told : α → State → Prop) : Prop :=
  Ensures (fun _ => True) step told fun _ _ => True

namespace Yields

variable {β : Type} {told : α → State → Prop} {leads : State → State → Prop} [Std.Refl leads]

/-- What is told of a value in any state is told of it when it is returned. -/
theorem pure {value : α} (holds : ∀ state, told value state) : Yields (pure value) told :=
  Ensures.pure fun state _ => holds state

/-- What comes first does not matter. -/
theorem after {step : Derive β} {next : β → Derive α} (rest : ∀ value, Yields (next value) told) :
    Yields (step >>= next) told :=
  -- Nothing is asked of the first step, not even that it succeeds.
  Ensures.via (fun _ _ => True)
    (Ensures.intro (fun _ _ _ _ _ => trivial) fun _ _ _ _ _ => trivial) rest

/-- An attempt tells of its value what the step does, if it has one. -/
theorem attempt {step : Derive α} (yields : Yields step told) :
    Yields (attempt step) fun outcome state => ∀ value, outcome = .ok value → told value state :=
  -- A failure has no value of which anything could be told.
  Ensures.attempt <| Ensures.weaken yields (fun _ start => start)
    (fun _ _ ends _ isOk => by cases isOk; exact ends) fun _ _ _ _ isOk => by cases isOk

/-- Two things that are told of a result are told of it together. -/
theorem both {told' : α → State → Prop} {step : Derive α} (first : Yields step told)
    (second : Yields step told') : Yields step fun value state => told value state ∧
      told' value state :=
  -- A run has one result, so both are told of the same one.
  (Ensures.both first second).weaken (fun _ start => ⟨start, start⟩) (fun _ _ ends => ends)
    fun _ _ _ => trivial

/-- What is told of a result lasts until the next one is there. -/
theorem beside {held : State → Prop} {step : Derive α} (yields : Yields step told)
    (lasting : LastsAlong leads held)
    (grows : ∀ start, Keeps (leads start) (fun _ => True) step) :
    Ensures held step (fun value state => held state ∧ told value state) fun _ _ => True :=
  (Ensures.beside yields lasting grows).starting fun _ start => ⟨start, trivial⟩

/-- A step for each entry of a list tells something of every value. -/
theorem mapM {step : β → Derive α} (lasting : ∀ value, LastsAlong leads (told value))
    (grows : ∀ entry start, Keeps (leads start) (fun _ => True) (step entry))
    (each : ∀ entry, Yields (step entry) told) (list : List β) :
    Yields (list.mapM step) fun values state => ∀ value ∈ values, told value state := by
  refine (Ensures.mapM (fun values state => ∀ value ∈ values, told value state) list ?_ []).weaken
    (fun _ _ => by simp) (fun _ _ ends => by simpa using ends) fun _ _ fails => fails
  -- What was told of earlier values lasts while the next one is computed.
  intro entry _ done
  have lasts : LastsAlong leads fun state => ∀ value ∈ done, told value state :=
    fun before after held led value member => lasting value before after (held value member) led
  refine ((each entry).beside lasts (grows entry)).weaken (fun _ start => start) ?_
    fun _ _ _ => trivial
  rintro value state ⟨earlier, found⟩ other member
  rcases List.mem_append.mp member with old | new
  · exact earlier other old
  · rw [List.mem_singleton.mp new]
    exact found

/-- What is told of the value of each entry is told of all entries and their values. -/
theorem mapM_forall₂ {step : β → Derive α} {told : β → α → State → Prop}
    (lasting : ∀ entry value, LastsAlong leads (told entry value))
    (grows : ∀ entry start, Keeps (leads start) (fun _ => True) (step entry))
    (each : ∀ entry, Yields (step entry) (told entry)) (list : List β) :
    Yields (list.mapM step) fun values state =>
      List.Forall₂ (fun entry value => told entry value state) list values :=
  (Ensures.mapM_lasting lasting grows (fun entry => (each entry).ending fun _ _ ends =>
    ⟨trivial, ends⟩) list).ending fun _ _ ends => ends.2

/-- So it is where an entry may come to nothing. -/
theorem filterMapM {step : β → Derive (Option α)} (lasting : ∀ value, LastsAlong leads (told value))
    (grows : ∀ entry start, Keeps (leads start) (fun _ => True) (step entry))
    (each : ∀ entry, Yields (step entry) fun found state => ∀ value ∈ found, told value state)
    (list : List β) :
    Yields (list.filterMapM step) fun values state => ∀ value ∈ values, told value state := by
  refine (Ensures.filterMapM (fun values state => ∀ value ∈ values, told value state) list ?_ []
    ).weaken (fun _ _ => by simp) (fun _ _ ends => by simpa using ends) fun _ _ fails => fails
  -- As with a list without gaps, what was told lasts.
  intro entry _ done
  have lasts : LastsAlong leads fun state => ∀ value ∈ done, told value state :=
    fun before after held led value member => lasting value before after (held value member) led
  refine ((each entry).beside lasts (grows entry)).weaken (fun _ start => start) ?_
    fun _ _ _ => trivial
  rintro found state ⟨earlier, new⟩ value member
  rcases List.mem_append.mp member with old | last
  · exact earlier value old
  · exact new value (Option.mem_toList.mp last)

end Yields

end Derivation

end ClientModel
