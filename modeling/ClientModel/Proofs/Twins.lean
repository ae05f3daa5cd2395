import ClientModel.Proofs.Identity
import ClientModel.Proofs.Siblings

/-!
What two runs that are given almost the same have found.

Their nodes are the same but for names, and all else is the same but for notes on usage, of which
the second run may have fewer.
-/

namespace ClientModel

/-! ## Names of nodes -/

/-- A property without its identifier, which tells the name of the model that it belongs to. -/
def Property.unnamed (property : Property) : Property :=
  { property with crossId := "" }

/-- A model without its name, and without the identifiers made of it. -/
def ModelNode.unnamed (model : ModelNode) : ModelNode :=
  { model with name := "", properties := model.properties.map Property.unnamed, crossId := "" }

/-- The name of a model, if it was not made up. -/
def ModelNode.givenName? (model : ModelNode) : Option String :=
  if model.isGeneratedName then none else some model.name

/-- What a node stands for without its names, and without the identifiers made of them. -/
def NodeKind.unnamed : NodeKind → NodeKind
  | .builtin node => .builtin { node with name := "" }
  | .enumeration node => .enumeration { node with name := "", crossId := "" }
  | .enumValue node => .enumValue { node with name := "" }
  | .union node => .union { node with name := node.name.map fun _ => "", crossId := "" }
  | .constant node => .constant { node with name := node.name.map fun _ => "" }
  | .model node => .model node.unnamed
  | other => other

namespace Node

/-- A node without its names, and without the identifiers made of them. -/
def unnamed (node : Node) : Node :=
  { node with kind := node.kind.unnamed }

/-- The name of a model that was not made up. -/
def givenName? (node : Node) : Option String :=
  node.model?.bind ModelNode.givenName?

/-- A node without names is a model just if the node is, and the same without names. -/
theorem model?_unnamed (node : Node) :
    node.unnamed.model? = node.model?.map ModelNode.unnamed := by
  cases kind : node.kind <;> simp [unnamed, NodeKind.unnamed, model?, kind]

/-- Usage and access change without regard to names. -/
theorem unnamed_mapUse (node : Node) (change : Usage → Option Access → Usage × Option Access) :
    (node.mapUse change).unnamed = node.unnamed.mapUse change := by
  obtain ⟨origin, nullable, deprecation, doc, kind⟩ := node
  cases kind <;> rfl

/-- To leave out names twice is to leave them out once. -/
@[simp] theorem unnamed_unnamed (node : Node) : node.unnamed.unnamed = node.unnamed := by
  obtain ⟨origin, nullable, deprecation, doc, kind⟩ := node
  cases kind <;>
    simp [unnamed, NodeKind.unnamed, ModelNode.unnamed, Property.unnamed, Function.comp_def]

end Node

namespace Derivation

variable {slack : Slack}

/-- Two nodes are the same but for the slack between two runs. -/
structure NodeTwin (slack : Slack) (left right : Node) : Prop where
  unnamed : right.unnamed = left.unnamed
  same : slack.Same left right

/-- A node is a twin of itself. -/
theorem NodeTwin.rfl {node : Node} : NodeTwin slack node node :=
  ⟨Eq.refl _, Slack.Same.rfl⟩

/-- Two changes do the same to nodes but for the slack, and give no model another name. -/
structure ChangeTwin (slack : Slack) (change other : Node → Node) : Prop where
  unnamed : ∀ left right, right.unnamed = left.unnamed →
    (other right).unnamed = (change left).unnamed
  same : slack.Same change other
  given : ∀ node, (change node).givenName? = node.givenName?
  given' : ∀ node, (other node).givenName? = node.givenName?

/-- A change that does not look at names does the same to both. -/
theorem ChangeTwin.of_unnamed {change : Node → Node}
    (unnamed : ∀ node, (change node).unnamed = (change node.unnamed).unnamed)
    (given : ∀ node, (change node).givenName? = node.givenName?) :
    ChangeTwin slack change change where
  unnamed left right same := by rw [unnamed right, same, ← unnamed left]
  same := Slack.Same.rfl
  given := given
  given' := given

/-- Twin changes make twins of twins. -/
theorem NodeTwin.change {left right : Node} {change other : Node → Node}
    (twin : NodeTwin slack left right) (changes : ChangeTwin slack change other) :
    NodeTwin slack (change left) (other right) where
  -- Either names are free to differ, or both nodes and both changes are the same.
  unnamed := changes.unnamed left right twin.unnamed
  same := by
    rcases twin.same with free | same
    · exact Or.inl free
    · rcases changes.same with free | rfl
      · exact Or.inl free
      · exact Or.inr (congrArg _ same)

/-! ## States -/

/-- Both runs know a node, by the same name if it is a model with a name of its own. -/
def Concur (left right : State) (node : NodeId) : Prop :=
  node.index < left.catalogue.size ∧
    (right.catalogue.nodeAt node).givenName? = (left.catalogue.nodeAt node).givenName?

/-- What two runs that are given almost the same have found. -/
structure Twin (slack : Slack) (left right : State) : Prop where
  size : right.catalogue.size = left.catalogue.size
  nodes : ∀ id, NodeTwin slack (left.catalogue.nodeAt id) (right.catalogue.nodeAt id)
  declared : right.declared = left.declared
  builtins : right.builtins = left.builtins
  known : ∀ id node, left.declared.get? id = some node → ¬ slack.renamed id →
    Concur left right node
  shared : ∀ kind node, left.builtins.get? kind = some node → Concur left right node
  names : slack.Same left.names right.names
  clientParameters : right.clientParameters = left.clientParameters
  endpoints : right.endpoints = left.endpoints
  credentials : right.credentials = left.credentials
  diagnostics : right.diagnostics = left.diagnostics
  seeds : right.seeds.Sublist left.seeds
  bodyFormats : right.bodyFormats.Sublist left.bodyFormats
  -- Notes are only lacking where the second run does not want some method on typed values.
  full : (∀ operation, slack.quiet operation = false) →
    right.seeds = left.seeds ∧ right.bodyFormats = left.bodyFormats

variable {left right : State}

/-- Nodes that concur do so when each catalogue gets one more. -/
theorem Concur.push {node : NodeId} (concur : Concur left right node)
    (size : right.catalogue.size = left.catalogue.size) (first second : Node) :
    Concur { left with catalogue := left.catalogue.push first }
      { right with catalogue := right.catalogue.push second } node := by
  -- The node was in range before, so the new one is not it.
  refine ⟨?_, ?_⟩
  · simpa using Nat.lt_succ_of_lt concur.1
  · dsimp only
    rw [Catalogue.nodeAt_push_lt _ concur.1, Catalogue.nodeAt_push_lt _ (size ▸ concur.1), concur.2]

/-- What is given is left alone by changes. -/
theorem givenName?_modify {change : Node → Node}
    (given : ∀ node, (change node).givenName? = node.givenName?) (catalogue : Catalogue)
    (id other : NodeId) : ((catalogue.modify id change).nodeAt other).givenName? =
      (catalogue.nodeAt other).givenName? := by
  -- A node may be the one that changes, out of range, or another one.
  by_cases same : other = id
  · subst same
    by_cases inside : other.index < catalogue.size
    · rw [catalogue.nodeAt_modify_self inside, given]
    · rw [Catalogue.nodeAt_of_ge _ (by simpa using inside),
        Catalogue.nodeAt_of_ge _ (by simpa using inside)]
  · rw [catalogue.nodeAt_modify_ne same]

/-- Nodes that concur do so when each catalogue changes alike. -/
theorem Concur.modify {node : NodeId} (concur : Concur left right node) (id : NodeId)
    {change other : Node → Node} (changes : ChangeTwin slack change other) :
    Concur { left with catalogue := left.catalogue.modify id change }
      { right with catalogue := right.catalogue.modify id other } node := by
  -- The change gives no name, so both nodes are called as before.
  refine ⟨by simpa using concur.1, ?_⟩
  dsimp only
  rw [givenName?_modify changes.given', givenName?_modify changes.given, concur.2]

namespace Twin

/-- Both runs start from the same state. -/
theorem start : Twin slack {} {} where
  -- At the start nothing is known, claimed or noted.
  size := rfl
  nodes _ := NodeTwin.rfl
  declared := rfl
  builtins := rfl
  known _ _ none := by simp [OrderedMap.get?] at none
  shared _ _ none := by simp [OrderedMap.get?] at none
  names := Slack.Same.rfl
  clientParameters := rfl
  endpoints := rfl
  credentials := rfl
  diagnostics := rfl
  seeds := List.Sublist.refl _
  bodyFormats := List.Sublist.refl _
  full _ := ⟨rfl, rfl⟩

section

variable (twin : Twin slack left right)
include twin

/-- Twin nodes may be added to twin runs. -/
theorem push {first second : Node} (nodes : NodeTwin slack first second) :
    Twin slack { left with catalogue := left.catalogue.push first }
      { right with catalogue := right.catalogue.push second } :=
  -- Only the catalogues grow, in both runs by a node at the same place.
  { twin with
    size := by simp [twin.size]
    nodes := fun id => by
      dsimp only
      rw [Catalogue.nodeAt_push, Catalogue.nodeAt_push, twin.size]
      split
      · exact nodes
      · exact twin.nodes id
    known := fun id node known kept => (twin.known id node known kept).push twin.size first second
    shared := fun kind node known => (twin.shared kind node known).push twin.size first second }

/-- Twin changes may be made in twin runs. -/
theorem modify (id : NodeId) {change other : Node → Node}
    (changes : ChangeTwin slack change other) :
    Twin slack { left with catalogue := left.catalogue.modify id change }
      { right with catalogue := right.catalogue.modify id other } :=
  { twin with
    size := by simp [twin.size]
    nodes := fun place => by
      -- Only the node in this place changes, and it does so in both runs.
      dsimp only
      by_cases same : place = id
      · subst same
        by_cases inside : place.index < left.catalogue.size
        · rw [Catalogue.nodeAt_modify_self _ inside,
            Catalogue.nodeAt_modify_self _ (twin.size.symm ▸ inside)]
          exact (twin.nodes place).change changes
        -- What is out of range is not changed in either run.
        · have outside : left.catalogue.size ≤ place.index := Nat.le_of_not_lt inside
          rw [Catalogue.nodeAt_of_ge _ (by simpa using outside),
            Catalogue.nodeAt_of_ge _ (by simpa [twin.size] using outside)]
          exact NodeTwin.rfl
      · rw [Catalogue.nodeAt_modify_ne _ same, Catalogue.nodeAt_modify_ne _ same]
        exact twin.nodes place
    known := fun place node known kept => (twin.known place node known kept).modify id changes
    shared := fun kind node known => (twin.shared kind node known).modify id changes }

/-- Twin runs may note the same node for a declaration. -/
theorem insert {id : TypeId} {node : NodeId}
    (concur : ¬ slack.renamed id → Concur left right node) :
    Twin slack { left with declared := left.declared.insert id node }
      { right with declared := right.declared.insert id node } :=
  -- The declaration is the new one, or the nodes for it were known before.
  { twin with
    declared := by rw [twin.declared]
    known := fun other found known kept => by
      rcases OrderedMap.get?_insert_cases known with ⟨rfl, rfl⟩ | earlier
      · exact concur kept
      · exact twin.known other found earlier kept }

/-- Twin runs may note the same node for a primitive kind. -/
theorem makes {kind : BuiltinKind} {node : NodeId} (concur : Concur left right node) :
    Twin slack { left with builtins := left.builtins.insert kind node }
      { right with builtins := right.builtins.insert kind node } :=
  -- The kind is the new one, or the nodes for it were known before.
  { twin with
    builtins := by rw [twin.builtins]
    shared := fun other found known => by
      rcases OrderedMap.get?_insert_cases known with ⟨rfl, rfl⟩ | earlier
      · exact concur
      · exact twin.shared other found earlier }

end

end Twin

end Derivation

end ClientModel
