import ClientModel.Proofs.Growth
import ClientModel.Proofs.Moves

/-!
What models, enums and unions are known by, from the start of a run to its end.

A name was either declared with the type, or it was made up: for one declaration that keeps it, or
for one union without a declaration. No name is made up twice.
-/

namespace ClientModel

namespace Node

/-- A change of a model that leaves its name alone leaves the label alone. -/
theorem nameplate?_mapModel {node : Node} {change : ModelNode → ModelNode}
    (same : ∀ model, (change model).name = model.name ∧
      (change model).isGeneratedName = model.isGeneratedName ∧
      (change model).namespace = model.namespace ∧ (change model).crossId = model.crossId) :
    (node.mapModel change).nameplate? = node.nameplate? := by
  -- Only models are changed.
  cases kind : node.kind with
  | model model =>
    obtain ⟨name, isGeneratedName, inside, crossId⟩ := same model
    simp only [mapModel, nameplate?, kind, name, isGeneratedName, inside, crossId]
  | _ => simp only [mapModel, kind]

/-- A change of a model leaves its origin alone. -/
@[simp] theorem origin_mapModel (node : Node) (change : ModelNode → ModelNode) :
    (node.mapModel change).origin = node.origin := by
  cases kind : node.kind <;> simp only [mapModel, kind]

/-- A change of an enumeration leaves its origin alone. -/
@[simp] theorem origin_mapEnumeration (node : Node) (change : EnumNode → EnumNode) :
    (node.mapEnumeration change).origin = node.origin := by
  cases kind : node.kind <;> simp only [mapEnumeration, kind]

/-- A change of a union leaves its origin alone. -/
@[simp] theorem origin_mapUnion (node : Node) (change : UnionNode → UnionNode) :
    (node.mapUnion change).origin = node.origin := by
  cases kind : node.kind <;> simp only [mapUnion, kind]

/-- What values an enumeration lists is no part of its label. -/
@[simp] theorem nameplate?_mapEnumeration (node : Node) (values : List NodeId) :
    (node.mapEnumeration ({ · with values })).nameplate? = node.nameplate? := by
  cases kind : node.kind <;> simp only [mapEnumeration, nameplate?, kind]

/-- What variants a union lists is no part of its label. -/
@[simp] theorem nameplate?_mapUnion (node : Node) (variants : List NodeId) :
    (node.mapUnion ({ · with variants })).nameplate? = node.nameplate? := by
  cases kind : node.kind <;> simp only [mapUnion, nameplate?, kind]

end Node

namespace Derivation

open Service (Enumeration Intrinsic Literal Model Scalar Shape Union Variant)
open Text (Dotless)

variable {context : Context} {before after state : State}

/-! ## Registries -/

namespace NameRegistry

variable {names : NameRegistry}

/-- Names that are kept were handed out, each for one declaration. -/
structure Sound (names : NameRegistry) : Prop where
  taken : ∀ id name, names.kept.get? id = some name → name ∈ names.taken
  dotless : ∀ id name, names.kept.get? id = some name → Dotless name
  single : ∀ id other name, names.kept.get? id = some name → names.kept.get? other = some name →
    id = other

/-- The name was made up for a declaration, or else for something that has none. -/
structure MadeUp (names : NameRegistry) (origin : Option TypeId) (name : String) : Prop where
  taken : name ∈ names.taken
  dotless : Dotless name
  kept : ∀ id, names.kept.get? id = some name ↔ origin = some id

/-- Before anything is made up, the registry is sound. -/
theorem Sound.start : Sound {} := by
  refine ⟨?_, ?_, ?_⟩ <;> simp [OrderedMap.get?]

/-- A name that a declaration keeps was made up for it. -/
theorem Sound.madeUp (sound : names.Sound) {id : TypeId} {name : String}
    (kept : names.kept.get? id = some name) : names.MadeUp (some id) name where
  taken := sound.taken id name kept
  dotless := sound.dotless id name kept
  -- A name is kept by one declaration only.
  kept other := by
    constructor
    · intro keptBy
      rw [sound.single id other name kept keptBy]
    · intro same
      rw [← Option.some.inj same]
      exact kept

/-- Declarations that share a made-up name are the same, or none. -/
theorem MadeUp.origin_eq {origin other : Option TypeId} {name : String}
    (madeUp : names.MadeUp origin name) (madeUpToo : names.MadeUp other name) : origin = other := by
  -- A name is kept for one declaration at most, and what is kept for none was claimed.
  cases origin with
  | some id => exact ((madeUpToo.kept id).mp ((madeUp.kept id).mpr rfl)).symm
  | none =>
    cases other with
    | some id => exact (madeUp.kept id).mp ((madeUpToo.kept id).mpr rfl)
    | none => rfl

section

variable (candidate : String)

/-- A name that is claimed was not taken. -/
theorem claim_notMem : (names.claim candidate).1 ∉ names.taken :=
  freeName_notMem names.taken candidate

/-- The registry stays sound when a name is claimed. -/
theorem Sound.claim (sound : names.Sound) : (names.claim candidate).2.Sound where
  taken id name kept := List.mem_cons_of_mem _ (sound.taken id name kept)
  dotless := sound.dotless
  single := sound.single

/-- What was made up stays so when a name is claimed. -/
theorem MadeUp.claim {origin : Option TypeId} {name : String} (madeUp : names.MadeUp origin name) :
    (names.claim candidate).2.MadeUp origin name where
  taken := List.mem_cons_of_mem _ madeUp.taken
  dotless := madeUp.dotless
  kept := madeUp.kept

variable {candidate} (dotless : Dotless candidate)
include dotless

/-- A name that is claimed is made up for no declaration. -/
theorem Sound.madeUp_claim (sound : names.Sound) :
    (names.claim candidate).2.MadeUp none (names.claim candidate).1 where
  taken := List.mem_cons_self
  dotless := freeName_dotless dotless names.taken
  kept id := by
    have free : names.kept.get? id ≠ some (names.claim candidate).1 := fun kept =>
      claim_notMem candidate (sound.taken id _ kept)
    exact iff_of_false free nofun

/-- The registry stays sound when a declaration is given a name. -/
theorem Sound.assign (sound : names.Sound) (id : TypeId) :
    (names.assign id candidate).2.Sound := by
  have fresh : (names.claim candidate).1 ∉ names.taken := claim_notMem candidate
  unfold NameRegistry.assign
  split
  · exact sound
  · -- The new name is no other declaration's, since it was not taken.
    refine ⟨fun other name kept => ?_, fun other name kept => ?_,
      fun left right name kept other => ?_⟩
    · -- What is kept is either the new name or an older one.
      rcases OrderedMap.get?_insert_cases kept with ⟨_, rfl⟩ | earlier
      · exact List.mem_cons_self
      · exact List.mem_cons_of_mem _ (sound.taken other name earlier)
    · rcases OrderedMap.get?_insert_cases kept with ⟨_, rfl⟩ | earlier
      · exact freeName_dotless dotless names.taken
      · exact sound.dotless other name earlier
    · rcases OrderedMap.get?_insert_cases kept with ⟨rfl, rfl⟩ | first
      · rcases OrderedMap.get?_insert_cases other with ⟨rfl, _⟩ | second
        · rfl
        · exact absurd (sound.taken right _ second) fresh
      · rcases OrderedMap.get?_insert_cases other with ⟨rfl, rfl⟩ | second
        · exact absurd (sound.taken left _ first) fresh
        · exact sound.single left right name first second

omit dotless in
/-- What was made up before a declaration is given a name stays what it was. -/
theorem MadeUp.assign {origin : Option TypeId} {name : String} (madeUp : names.MadeUp origin name)
    (id : TypeId) : (names.assign id candidate).2.MadeUp origin name := by
  have fresh : (names.claim candidate).1 ∉ names.taken := claim_notMem candidate
  unfold NameRegistry.assign
  split
  · exact madeUp
  · rename_i unknown
    -- The name is taken still, and kept by no other declaration, as what is new was not taken.
    refine ⟨List.mem_cons_of_mem _ madeUp.taken, madeUp.dotless, fun other => ?_⟩
    rw [← madeUp.kept other]
    constructor
    · intro kept
      rcases OrderedMap.get?_insert_cases kept with ⟨_, rfl⟩ | earlier
      · exact absurd madeUp.taken fresh
      · exact earlier
    · refine OrderedMap.get?_insert_of_get? fun first kept => ?_
      rw [unknown] at kept
      cases kept

omit dotless in
/-- The declaration that is given a name keeps it. -/
theorem assign_kept (id : TypeId) :
    (names.assign id candidate).2.kept.get? id = some (names.assign id candidate).1 := by
  -- It is answered with the name that it had, or with the one that is set for it.
  unfold NameRegistry.assign
  split
  · assumption
  · exact OrderedMap.get?_insert_self _ _ _

end

end NameRegistry

/-! ## Labels -/

/-- The name in clients of a model, an enum or a union that was declared with one. -/
def Context.givenName? (context : Context) (id : TypeId) : Option String :=
  match context.definition.shapeAt id with
  | .model model => model.name.map (context.nameOf (.type id))
  | .enumeration enumeration => some (context.nameOf (.type id) enumeration.name)
  | .union union => union.name.map (context.nameOf (.type id))
  | _ => none

/-- What a node is known by is what its declaration was given, or else what was made up for it. -/
structure Context.Labels (context : Context) (names : NameRegistry) (origin : Option TypeId)
    (plate : Nameplate) : Prop where
  crossId : plate.crossId = qualified plate.namespace plate.name
  given : plate.isGeneratedName = false → ∃ id ∈ origin,
    context.givenName? id = some plate.name ∧ plate.namespace = context.namespaceName id
  madeUp : plate.isGeneratedName = true → names.MadeUp origin plate.name

/-- All nodes are labelled with names of their own. -/
structure Labelled (context : Context) (state : State) : Prop where
  registry : state.names.Sound
  fits : ∀ id plate, (state.catalogue.nodeAt id).nameplate? = some plate →
    context.Labels state.names (state.catalogue.nodeAt id).origin plate
  apart : ∀ id other plate otherPlate, (state.catalogue.nodeAt id).origin = none →
    (state.catalogue.nodeAt other).origin = none →
    (state.catalogue.nodeAt id).nameplate? = some plate →
    (state.catalogue.nodeAt other).nameplate? = some otherPlate →
    plate.name = otherPlate.name → id = other

namespace Labelled

/-- At the start no node has a label. -/
theorem start : Labelled context {} := by
  -- The catalogue is empty, so there is no node to have one.
  have none (id : NodeId) : (({} : State).catalogue.nodeAt id).nameplate? = none := by
    rw [Catalogue.nodeAt_of_ge _ (Nat.zero_le _)]
    rfl
  exact ⟨.start, by simp [none], by simp [none]⟩

/-- Labels stay sound where no name is made up and no node gets a label. -/
theorem of_plates (labelled : Labelled context before) (names : after.names = before.names)
    (plates : ∀ id plate, (after.catalogue.nodeAt id).nameplate? = some plate →
      (before.catalogue.nodeAt id).nameplate? = some plate ∧
        (after.catalogue.nodeAt id).origin = (before.catalogue.nodeAt id).origin) :
    Labelled context after where
  -- Each of the three is read off the earlier state, node by node.
  registry := names ▸ labelled.registry
  fits id plate isPlate := by
    obtain ⟨earlier, origin⟩ := plates id plate isPlate
    rw [names, origin]
    exact labelled.fits id plate earlier
  apart id other plate otherPlate bare otherBare isPlate isOther same := by
    obtain ⟨earlier, origin⟩ := plates id plate isPlate
    obtain ⟨otherEarlier, otherOrigin⟩ := plates other otherPlate isOther
    exact labelled.apart id other plate otherPlate (origin ▸ bare) (otherOrigin ▸ otherBare)
      earlier otherEarlier same

/-- Labels stay sound where the registry does, and keeps what was made up. -/
theorem rename (labelled : Labelled context state) {names : NameRegistry} (sound : names.Sound)
    (keeps : ∀ origin name, state.names.MadeUp origin name → names.MadeUp origin name) :
    Labelled context { state with names } where
  registry := sound
  fits id plate isPlate :=
    have fits := labelled.fits id plate isPlate
    ⟨fits.crossId, fits.given, fun isMade => keeps _ _ (fits.madeUp isMade)⟩
  apart := labelled.apart

/-- A label of a new node is sound if no other node without a declaration has its name. -/
theorem push (labelled : Labelled context state) {node : Node}
    (fits : ∀ plate ∈ node.nameplate?, context.Labels state.names node.origin plate)
    (fresh : node.origin = none → ∀ plate ∈ node.nameplate?, ∀ id other,
      (state.catalogue.nodeAt id).origin = none →
      (state.catalogue.nodeAt id).nameplate? = some other → other.name ≠ plate.name) :
    Labelled context { state with catalogue := state.catalogue.push node } where
  -- A label of the new node fits by assumption; older ones fit as they did.
  registry := labelled.registry
  fits id plate isPlate := by
    rw [Catalogue.nodeAt_push] at isPlate ⊢
    split
    · rename_i last
      rw [if_pos last] at isPlate
      exact fits plate isPlate
    · rename_i earlier
      rw [if_neg earlier] at isPlate
      exact labelled.fits id plate isPlate
  apart id other plate otherPlate bare otherBare isPlate isOther same := by
    rw [Catalogue.nodeAt_push] at bare otherBare isPlate isOther
    -- Either node may be the new one.
    split at isPlate
    · rename_i last
      split at isOther
      · rename_i otherLast
        rw [last, otherLast]
      · rename_i otherEarlier
        rw [if_pos last] at bare
        rw [if_neg otherEarlier] at otherBare
        exact absurd same.symm (fresh bare plate isPlate other otherPlate otherBare isOther)
    · rename_i earlier
      split at isOther
      · rename_i otherLast
        rw [if_neg earlier] at bare
        rw [if_pos otherLast] at otherBare
        exact absurd same (fresh otherBare otherPlate isOther id plate bare isPlate)
      · rename_i otherEarlier
        rw [if_neg earlier] at bare
        rw [if_neg otherEarlier] at otherBare
        exact labelled.apart id other plate otherPlate bare otherBare isPlate isOther same

/-- A node without a label may be added. -/
theorem pushNameless (labelled : Labelled context state) {node : Node}
    (nameless : node.nameplate? = none) :
    Labelled context { state with catalogue := state.catalogue.push node } :=
  labelled.push (by simp [nameless]) (by simp [nameless])

/-- A node may be changed as long as its label and its origin are not. -/
theorem modify (labelled : Labelled context state) (id : NodeId) {change : Node → Node}
    (same : ∀ node : Node, (change node).nameplate? = node.nameplate? ∧
      (change node).origin = node.origin) :
    Labelled context { state with catalogue := state.catalogue.modify id change } := by
  refine labelled.of_plates rfl fun other plate isPlate => ?_
  by_cases isChanged : other = id
  · subst isChanged
    by_cases inside : other.index < state.catalogue.size
    · rw [Catalogue.nodeAt_modify_self _ inside] at isPlate ⊢
      exact ⟨(same _).1 ▸ isPlate, (same _).2⟩
    -- Out of range there is no label.
    · rw [Catalogue.nodeAt_of_ge _ (by simpa using inside)] at isPlate
      cases isPlate
  · rw [Catalogue.nodeAt_modify_ne _ isChanged] at isPlate ⊢
    exact ⟨isPlate, rfl⟩

/-- A name may be claimed. -/
theorem claim (labelled : Labelled context state) (candidate : String) :
    Labelled context { state with names := (state.names.claim candidate).2 } :=
  labelled.rename (labelled.registry.claim candidate) fun _ _ madeUp => madeUp.claim candidate

/-- What has no declaration has a name that was made up. -/
theorem madeUp_of_bare (labelled : Labelled context state) {id : NodeId} {plate : Nameplate}
    (bare : (state.catalogue.nodeAt id).origin = none)
    (isPlate : (state.catalogue.nodeAt id).nameplate? = some plate) :
    state.names.MadeUp none plate.name := by
  -- Its label would else come from a declaration, and there is none.
  have labels := labelled.fits id plate isPlate
  rw [bare] at labels
  cases generated : plate.isGeneratedName with
  | false =>
    obtain ⟨_, declared, _⟩ := labels.given generated
    cases declared
  | true => exact labels.madeUp generated

/-- A union without a declaration takes a new name. -/
theorem addUnion (labelled : Labelled context state) {candidate : String}
    (dotless : Dotless candidate) («namespace» : String) (variants : List NodeId) :
    Labelled context { state with
      names := (state.names.claim candidate).2
      catalogue := state.catalogue.push
        (.madeUp «namespace» (state.names.claim candidate).1 variants) } := by
  refine (labelled.claim candidate).push (fun plate isPlate => ?_) fun _ plate isPlate id other
    bare isOther same => ?_
  · cases isPlate
    exact ⟨rfl, fun isGiven => (by cases isGiven),
      fun _ => labelled.registry.madeUp_claim dotless⟩
  · cases isPlate
    -- The name of a union that was there before was taken, and the new one was not.
    have taken := (labelled.madeUp_of_bare bare isOther).taken
    rw [same] at taken
    exact NameRegistry.claim_notMem candidate taken

end Labelled

/-! ## Small steps -/

/-- A step keeps all nodes labelled with names of their own. -/
abbrev KeepsLabels {α : Type} (context : Context) (step : Derive α) : Prop :=
  Keeps (Labelled context) (fun _ => True) step

namespace KeepsLabels

variable {α : Type}

/-- To add a node without a label keeps labels sound. -/
theorem addNameless {node : Node} (nameless : node.nameplate? = none) :
    KeepsLabels context (addNode node) :=
  Ensures.addNode fun _ labelled => labelled.pushNameless nameless

/-- To change a node but for its label keeps labels sound. -/
theorem modifyNode (id : NodeId) {change : Node → Node}
    (same : ∀ node : Node, (change node).nameplate? = node.nameplate? ∧
      (change node).origin = node.origin) : KeepsLabels context (modifyNode id change) :=
  .modify fun _ labelled => labelled.modify id same

/-- To remember a node keeps labels sound. -/
theorem remember (type : TypeId) (node : NodeId) : KeepsLabels context (remember type node) :=
  -- Labels are on nodes, and no node is changed by remembering it for a type.
  Ensures.remember
    (fun _ labelled _ => labelled.of_plates rfl fun _ _ isPlate => ⟨isPlate, rfl⟩)
    fun _ _ _ _ _ _ => ⟨trivial, fun isOwn => by cases isOwn⟩

/-- To find or make a builtin type keeps labels sound. -/
theorem builtinNode (kind : BuiltinKind) (name : String) :
    KeepsLabels context (builtinNode kind name) :=
  -- A builtin type has no label.
  Ensures.builtinNode (fun _ _ labelled _ => labelled) fun _ labelled _ =>
    (labelled.pushNameless rfl).of_plates rfl fun _ _ isPlate => ⟨isPlate, rfl⟩

/-- To report an error keeps labels sound. -/
theorem reportError (target : Declaration) (code message : String) :
    KeepsLabels context (reportError target code message) :=
  .modify fun _ labelled => labelled.of_plates rfl fun _ _ isPlate => ⟨isPlate, rfl⟩

end KeepsLabels

/-! ## Names -/

/-- A name that is made up of a path has no dots. -/
theorem dotless_candidateName (path : List Segment) : Dotless (context.candidateName path) := by
  -- It is joined of words in Pascal case, and these have none but letters and digits.
  refine Dotless.join fun name isPart => ?_
  obtain ⟨segment, _, rfl⟩ := List.mem_map.mp isPart
  exact Text.dotless_pascalCase _

/-- A declaration that is given a name keeps it from then on. -/
theorem assign_madeUp (labelled : Labelled context state) (id : TypeId) {candidate : String}
    (dotless : Dotless candidate) {failed : Failure → State → Prop} :
    Ensures (· = state)
      (do
        let (name, names) := state.names.assign id candidate
        modify fun current => { current with names }
        return name : Derive String)
      (fun name next => Labelled context next ∧ next.names.MadeUp (some id) name) failed := by
  -- The registry is sound after that, and all labels are as they were.
  have sound := labelled.registry.assign dotless id
  refine Ensures.via (fun _ next => next = { state with
    names := (state.names.assign id candidate).2 }) (Ensures.modify ?_) fun _ => Ensures.pure ?_
  · rintro next rfl
    rfl
  · rintro next rfl
    exact ⟨labelled.rename sound fun _ _ madeUp => madeUp.assign id,
      sound.madeUp (NameRegistry.assign_kept id)⟩

/-- A declaration without a name is given one that it keeps. -/
theorem generatedName_madeUp (id : TypeId) {failed : Failure → State → Prop} :
    Ensures (Labelled context) (context.generatedName id)
      (fun name state => Labelled context state ∧ state.names.MadeUp (some id) name) failed := by
  unfold Context.generatedName
  refine Ensures.get_bind fun start labelled => ?_
  split
  · rename_i name kept
    refine Ensures.pure ?_
    rintro state rfl
    exact ⟨labelled, labelled.registry.madeUp kept⟩
  · refine Ensures.get_bind fun current same => ?_
    subst same
    -- Whatever the path is, there are no dots in the candidate.
    refine assign_madeUp labelled id ?_
    split
    · decide
    · cases contextPath _ id _ _ with
      | none => exact (by decide : Dotless "")
      | some path => exact dotless_candidateName path

/-- The label of a declaration under a name that it was given, or that was made up for it. -/
def Context.plateOf (context : Context) (id : TypeId) (name : String × Bool) : Nameplate :=
  ⟨name.1, name.2, context.namespaceName id, qualified (context.namespaceName id) name.1⟩

/-- The name was given to a declaration, or made up for it. -/
def Context.Named (context : Context) (id : TypeId) (name : String × Bool) (state : State) : Prop :=
  context.Labels state.names (some id) (context.plateOf id name)

/-- A name that is given to a declaration is no made-up one. -/
theorem Context.named_of_given {id : TypeId} {name : String}
    (given : context.givenName? id = some name) : context.Named id (name, false) state :=
  ⟨rfl, fun _ => ⟨id, rfl, given, rfl⟩, fun isMade => by cases isMade⟩

/-- A declaration goes by the name that is given to it, or by one that is made up. -/
theorem nameOrGenerated_named {id : TypeId} {declared : Option String}
    (given : context.givenName? id = declared.map (context.nameOf (.type id)))
    {failed : Failure → State → Prop} :
    Ensures (Labelled context) (context.nameOrGenerated id declared)
      (fun name state => Labelled context state ∧ context.Named id name state) failed := by
  -- A declared name is taken as it is, and another is made up where there is none.
  unfold Context.nameOrGenerated
  split
  · exact Ensures.pure fun _ labelled => ⟨labelled, Context.named_of_given given⟩
  · refine (generatedName_madeUp id).bind fun name => Ensures.pure fun state told => ?_
    exact ⟨told.1, rfl, fun isGiven => (by cases isGiven), fun _ => told.2⟩

/-- A node of a declaration, with a label that fits the declaration. -/
theorem addNamed {node : Node} (owned : node.origin ≠ none) {failed : Failure → State → Prop} :
    Ensures (fun state => Labelled context state ∧
        ∀ plate ∈ node.nameplate?, context.Labels state.names node.origin plate) (addNode node)
      (fun _ => Labelled context) failed :=
  Ensures.addNode fun _ start => start.1.push start.2 fun bare => absurd bare owned

/-! ## Shapes -/

namespace KeepsLabels

variable {derive : TypeId → Derive NodeId}

/-- The node of an intrinsic type has no label. -/
theorem intrinsicNode (id : TypeId) (intrinsic : Intrinsic) :
    KeepsLabels context (Context.intrinsicNode id intrinsic) := by
  unfold Context.intrinsicNode
  dsimp only
  -- Some have builtin types, and the others have nodes that no name is given to.
  split
  · exact (builtinNode _ _).bind fun node => (remember id node).bind fun _ => .pure _
  · exact (addNameless rfl).bind fun node => (remember id node).bind fun _ => .pure _

/-- Nor has the node of a literal. -/
theorem literalNode (id : TypeId) (value : Literal) :
    KeepsLabels context (Context.literalNode id value) := by
  -- The constant is given to its declaration only after it is added, and has no label before.
  unfold Context.literalNode
  refine Ensures.via (fun node state => ∃ first constant, Labelled context first ∧
    node = ⟨first.catalogue.size⟩ ∧ state = { first with
      catalogue := first.catalogue.push { kind := .constant constant } })
    (Ensures.addNode fun state labelled => ⟨state, _, labelled, rfl, rfl⟩) fun node => ?_
  refine Ensures.via (fun _ => Labelled context) (Ensures.modify ?_) fun _ =>
    (remember id node).bind fun _ => .pure _
  rintro state ⟨first, constant, labelled, rfl, rfl⟩
  dsimp only
  rw [Catalogue.modify_push_self]
  exact labelled.pushNameless rfl

/-- The node of an enumeration is labelled by its name. -/
theorem enumerationNode (id : TypeId) (enumeration : Enumeration)
    (shape : context.definition.shapeAt id = .enumeration enumeration) :
    KeepsLabels context (context.enumerationNode id enumeration) := by
  unfold Context.enumerationNode
  dsimp only
  have given : context.givenName? id = some (context.nameOf (.type id) enumeration.name) := by
    simp only [Context.givenName?, shape]
  -- The label is checked where the node is added; its members have none.
  refine Ensures.bind ((addNamed (by simp)).starting fun state labelled =>
    ⟨labelled, fun plate isPlate => ?label⟩) fun node => ?_
  case label =>
    cases isPlate
    exact Context.named_of_given given
  refine (remember id node).bind fun _ => (Keeps.mapM _ fun member => ?_).bind fun values => ?_
  · exact (addNameless rfl).bind fun value => (remember _ value).bind fun _ => .pure _
  · exact (modifyNode node (by simp)).bind fun _ => .pure _

/-- The node of a union of texts is labelled by its name. -/
theorem flattenedNode (id : TypeId) (union : Union) (nullable : Bool)
    (literals : List (String × String)) (isFixed : Bool)
    (shape : context.definition.shapeAt id = .union union) :
    KeepsLabels context (context.flattenedNode id union nullable literals isFixed) := by
  unfold Context.flattenedNode
  dsimp only
  have given : context.givenName? id = union.name.map (context.nameOf (.type id)) := by
    simp only [Context.givenName?, shape]
  -- The name comes first, and the label is made with it.
  refine Ensures.bind (nameOrGenerated_named given) fun name => ?_
  refine Ensures.bind ((addNamed (by simp)).starting fun state start =>
    ⟨start.1, fun plate isPlate => ?label⟩) fun node => ?_
  case label =>
    cases isPlate
    exact start.2
  refine (remember id node).bind fun _ => (Keeps.mapM _ fun literal => ?_).bind fun values => ?_
  · exact addNameless rfl
  · exact (modifyNode node (by simp)).bind fun _ => .pure _

section

variable (others : ∀ type, KeepsLabels context (derive type))
include others

/-- The node of a scalar has no label. -/
theorem scalarNode (id : TypeId) (scalar : Scalar) :
    KeepsLabels context (context.scalarNode derive id scalar) := by
  unfold Context.scalarNode
  dsimp only
  -- Base and encoding come before the node.
  refine (Keeps.scalarBase? scalar fun base _ _ => others base).bind fun base => ?_
  refine (Keeps.answerOf _ fun _ _ => trivial).bind fun encode => ?_
  exact (addNameless rfl).bind fun node => (remember id node).bind fun _ => .pure _

/-- The node of a union is labelled by its name, if it has one. -/
theorem variantsNode (id : TypeId) (union : Union) (nullable : Bool) (variants : List Variant)
    (shape : context.definition.shapeAt id = .union union) :
    KeepsLabels context (context.variantsNode derive id union nullable variants) := by
  have given : context.givenName? id = union.name.map (context.nameOf (.type id)) := by
    simp only [Context.givenName?, shape]
  -- Whether a name is looked for depends on what is left of the union.
  have named : Ensures (Labelled context) (context.unionName? id union nullable variants)
      (fun name state => Labelled context state ∧
        ∀ known ∈ name.1, context.Named id (known, name.2) state)
      fun failure state => True ∧ (failure.endsRun = false → Labelled context state) := by
    unfold Context.unionName?
    split
    · exact Ensures.pure fun _ labelled => ⟨labelled, by simp⟩
    · refine Ensures.bind (nameOrGenerated_named given) fun name =>
        Ensures.pure fun state told => ?_
      exact ⟨told.1, fun known isName => by cases isName; exact told.2⟩
  unfold Context.variantsNode
  dsimp only
  refine Ensures.bind named fun name => ?_
  refine Ensures.bind ((addNamed (by simp)).starting fun state start =>
    ⟨start.1, fun plate isPlate => ?label⟩) fun node => ?_
  case label =>
    -- A union without a name has no label.
    obtain ⟨known, isGenerated⟩ := name
    cases known with
    | none => cases isPlate
    | some known =>
      cases isPlate
      exact start.2 known rfl
  refine (remember id node).bind fun _ => (Keeps.mapM _ fun variant => others _).bind fun _ => ?_
  exact (modifyNode node (by simp)).bind fun _ => .pure _

/-- So it is with every union. -/
theorem unionNode (id : TypeId) (union : Union)
    (shape : context.definition.shapeAt id = .union union) :
    KeepsLabels context (context.unionNode derive id union) := by
  unfold Context.unionNode
  dsimp only
  -- The cases are those of the derivation.
  split
  · exact (builtinNode _ _).bind fun node => (remember id node).bind fun _ => .pure _
  · exact (others _).bind fun node => (remember id node).bind fun _ => .pure _
  · split
    · exact flattenedNode _ _ _ _ _ shape
    · exact variantsNode others _ _ _ _ shape

/-- A subtype that is told apart keeps its label. -/
theorem addSubtype (discriminator : String) (subtypes : OrderedMap String NodeId)
    (derived : TypeId) :
    KeepsLabels context (Context.addSubtype derive discriminator subtypes derived) := by
  unfold Context.addSubtype
  -- The subtype is marked or reported, neither of which concerns a label.
  refine (others derived).bind fun child => .get_bind fun current => ?_
  split
  · refine (modifyNode child fun node => ⟨?_, Node.origin_mapModel _ _⟩).bind fun _ => .pure _
    exact Node.nameplate?_mapModel fun model => ⟨rfl, rfl, rfl, rfl⟩
  · exact (reportError _ _ _).bind fun _ => .pure _

/-- A model that is told its discriminator keeps its label. -/
theorem addDiscriminator? (node : NodeId) (model : Model) :
    KeepsLabels context (Context.addDiscriminator? derive node model) := by
  unfold Context.addDiscriminator?
  -- Without a discriminator nothing happens; with one, the subtypes come first.
  split
  · unfold Context.addDiscriminator
    refine (Keeps.foldlM _ _ fun found derived => addSubtype others _ found derived).bind
      fun subtypes => (builtinNode _ _).bind fun string => modifyNode node fun parent => ?_
    exact ⟨Node.nameplate?_mapModel fun model => ⟨rfl, rfl, rfl, rfl⟩, Node.origin_mapModel _ _⟩
  · exact .pure _

/-- The node of a model is labelled by its name. -/
theorem modelNode (id : TypeId) (model : Model)
    (shape : context.definition.shapeAt id = .model model) :
    KeepsLabels context (context.modelNode derive id model) := by
  have given : context.givenName? id = model.name.map (context.nameOf (.type id)) := by
    simp only [Context.givenName?, shape]
  -- Filling a model in leaves alone what it is known by.
  have filled (node : NodeId) (change : ModelNode → ModelNode)
      (same : ∀ model, (change model).name = model.name ∧
        (change model).isGeneratedName = model.isGeneratedName ∧
        (change model).namespace = model.namespace ∧ (change model).crossId = model.crossId) :
      KeepsLabels context (Derivation.modifyNode node (Node.mapModel · change)) :=
    modifyNode node fun parent => ⟨Node.nameplate?_mapModel same, Node.origin_mapModel _ _⟩
  unfold Context.modelNode
  dsimp only
  refine Ensures.bind (nameOrGenerated_named given) fun name => ?_
  refine Ensures.bind ((addNamed (by simp)).starting fun state start =>
    ⟨start.1, fun plate isPlate => ?label⟩) fun node => ?_
  case label =>
    cases isPlate
    exact start.2
  refine (remember id node).bind fun _ => ?_
  -- Members, kin and discriminator are filled in one after the other.
  refine (Keeps.mapM _ fun property => Keeps.memberProperty _ _ property (others _)).bind
    fun properties => (filled node _ (by simp)).bind fun _ => ?_
  refine (Keeps.inheritance model fun type _ => others type).bind fun inherited => ?_
  refine (Keeps.additionalNode? model _ fun type _ => others type).bind fun additional => ?_
  refine (filled node _ (by simp)).bind fun _ => ?_
  exact (addDiscriminator? others node model).bind fun _ => .pure _

/-- So it is with every shape. -/
theorem shapeNode (id : TypeId) {shape : Shape} (isShape : context.definition.shapeAt id = shape) :
    KeepsLabels context (context.shapeNode derive id shape) := by
  -- Models, unions and enumerations have labels; of the others it is shown that they have none.
  cases shape with
  | scalar scalar => exact scalarNode others id scalar
  | intrinsic intrinsic => exact intrinsicNode id intrinsic
  | literal value => exact literalNode id value
  | enumeration enumeration => exact enumerationNode id enumeration isShape
  | member member =>
    refine (others member.parent).bind fun _ => .get_bind fun current => ?_
    split
    · exact .pure _
    · exact Ensures.throw fun _ _ => ⟨trivial, fun isOwn => by cases isOwn⟩
  | union union => exact unionNode others id union isShape
  | array element =>
    refine (others element).bind fun value => (addNameless rfl).bind fun node => ?_
    exact (remember id node).bind fun _ => .pure _
  | record element =>
    refine (builtinNode _ _).bind fun key => (others element).bind fun value => ?_
    exact (addNameless rfl).bind fun node => (remember id node).bind fun _ => .pure _
  | model model => exact modelNode others id model isShape

end

/-! ## Declarations -/

/-- By induction on the references that are left. -/
theorem nodeWithin (steps : Nat) (id : TypeId) :
    KeepsLabels context (context.nodeWithin steps id) := by
  induction steps generalizing id with
  | zero => exact Ensures.throw fun _ _ => ⟨trivial, fun isOwn => by cases isOwn⟩
  | succ steps ih =>
    unfold Context.nodeWithin
    refine .get_bind fun current => ?_
    split
    · exact .pure _
    · refine (shapeNode ih _ rfl).bind fun node => (modifyNode node fun derived => ?_).bind
        fun _ => .pure _
      -- Documentation is no part of a label.
      split
      · exact ⟨rfl, rfl⟩
      · exact ⟨rfl, rfl⟩

end KeepsLabels

/-- No step of a run labels two nodes with one made-up name. -/
theorem Labelled.robust (context : Context) : Robust context (Labelled context) fun _ => True where
  builtinNode := KeepsLabels.builtinNode
  loose _ _ _ nameless labelled := labelled.pushNameless nameless
  claimed _ candidate labelled := labelled.claim candidate
  union _ _ inside variants dotless labelled := labelled.addUnion dotless inside variants
  node id := KeepsLabels.nodeWithin _ id
  search _ := Keeps.answerOf _ fun _ _ => trivial
  -- Notes and reports are no part of what labels tell.
  diagnostics _ _ _ labelled := labelled.of_plates rfl fun _ _ isPlate => ⟨isPlate, rfl⟩
  clientParameter _ _ _ labelled := labelled.of_plates rfl fun _ _ isPlate => ⟨isPlate, rfl⟩
  endpoints _ _ labelled := labelled.of_plates rfl fun _ _ isPlate => ⟨isPlate, rfl⟩
  credentials _ _ labelled := labelled.of_plates rfl fun _ _ isPlate => ⟨isPlate, rfl⟩
  seeds _ _ labelled := labelled.of_plates rfl fun _ _ isPlate => ⟨isPlate, rfl⟩
  bodyFormats _ _ labelled := labelled.of_plates rfl fun _ _ isPlate => ⟨isPlate, rfl⟩

end Derivation

end ClientModel
