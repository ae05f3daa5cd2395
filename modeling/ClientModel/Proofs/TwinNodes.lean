import ClientModel.Proofs.Pairs
import ClientModel.Proofs.Twins

/-!
The nodes of declarations in two runs that are given almost the same.

By the shape of what is declared: both runs add the same nodes but for names, in the same order, and
look at nothing in which the two may differ.
-/

namespace ClientModel

/-! ## Parts of nodes without names -/

/-- A property keeps the name that clients use. -/
theorem Property.name_unnamed (property : Property) : property.unnamed.name = property.name :=
  rfl

/-- A property keeps the name that is sent. -/
theorem Property.serializedName_unnamed (property : Property) :
    property.unnamed.serializedName = property.serializedName :=
  rfl

/-- To leave out the names of properties twice is to leave them out once. -/
theorem Property.map_unnamed (properties : List Property) :
    (properties.map Property.unnamed).map Property.unnamed = properties.map Property.unnamed := by
  rw [List.map_map]
  rfl

namespace Node

/-- The text of a constant is told without names. -/
theorem constantText?_unnamed (node : Node) :
    Derivation.Node.constantText? node.unnamed = Derivation.Node.constantText? node := by
  obtain ⟨origin, nullable, deprecation, doc, kind⟩ := node
  cases kind <;> rfl

/-- To change the model of a node that is one is to change what it is. -/
theorem mapModel_of_some {node : Node} {model : ModelNode} (isModel : node.model? = some model)
    (change : ModelNode → ModelNode) :
    node.mapModel change = { node with kind := .model (change model) } := by
  obtain ⟨origin, nullable, deprecation, doc, kind⟩ := node
  cases kind <;> cases isModel
  rfl

/-- To change the model of a node that is none changes nothing. -/
theorem mapModel_of_none {node : Node} (noModel : node.model? = none)
    (change : ModelNode → ModelNode) : node.mapModel change = node := by
  obtain ⟨origin, nullable, deprecation, doc, kind⟩ := node
  cases kind <;> first | rfl | cases noModel

end Node

namespace Derivation

open Service (Enumeration Intrinsic Literal Model Scalar Shape Union Variant)

/-- A discriminator is marked without regard to names. -/
theorem markDiscriminator?_unnamed (properties : List Property) (serializedName : String) :
    markDiscriminator? (properties.map Property.unnamed) serializedName =
      (markDiscriminator? properties serializedName).map (List.map Property.unnamed) := by
  -- By induction on the properties, the first of which that has the name is marked.
  induction properties with
  | nil => rfl
  | cons property rest ih =>
    rw [List.map_cons, markDiscriminator?, markDiscriminator?, property.serializedName_unnamed, ih]
    split
    · rfl
    · rw [Option.map_map, Option.map_map]
      rfl

/-- It makes no difference to the rest of properties whether names are left out before a mark. -/
theorem unnamed_marked (properties : List Property) (serializedName : String)
    {missing missing' : List Property}
    (same : missing'.map Property.unnamed = missing.map Property.unnamed) :
    ((markDiscriminator? (properties.map Property.unnamed) serializedName).getD missing').map
        Property.unnamed =
      ((markDiscriminator? properties serializedName).getD missing).map Property.unnamed := by
  -- Either both find the property to be marked, or both keep what they have without it.
  rw [markDiscriminator?_unnamed]
  cases markDiscriminator? properties serializedName with
  | none => exact same
  | some marked => exact Property.map_unnamed marked

variable {α β : Type} {slack : Slack} {context other : Context} {left right : State}
  {matched : α → β → Prop}

/-- What a subtype is known by does not depend on names. -/
theorem Twin.discriminatorValue? (twin : Twin slack left right) (child : NodeId)
    (serializedName : String) :
    Derivation.discriminatorValue? right.catalogue child serializedName =
      Derivation.discriminatorValue? left.catalogue child serializedName := by
  -- What is looked at are the slots, which are found by the names that are sent.
  have bare (catalogue : Catalogue) :
      Derivation.discriminatorValue? catalogue child serializedName = (do
        let model ← (catalogue.nodeAt child).unnamed.model?
        let property ← model.properties.find? (·.serializedName == serializedName)
        Node.constantText? (catalogue.nodeAt property.type).unnamed) := by
    simp only [Derivation.discriminatorValue?, Catalogue.model?, Node.model?_unnamed,
      Node.constantText?_unnamed]
    cases (catalogue.nodeAt child).model? with
    | none => rfl
    | some model =>
      simp only [Option.map_some, Option.bind_eq_bind, Option.bind_some, ModelNode.unnamed,
        List.find?_map, Function.comp_def, Property.serializedName_unnamed]
      cases model.properties.find? (·.serializedName == serializedName) <;> rfl
  simp only [bare, (twin.nodes _).unnamed]

/-! ## Changes -/

namespace ChangeTwin

/-- Twin changes to the models make twin changes to the nodes. -/
theorem mapModel {change change' : ModelNode → ModelNode}
    (unnamed : ∀ left right : ModelNode, right.unnamed = left.unnamed →
      (change' right).unnamed = (change left).unnamed)
    (same : slack.Same change change')
    (given : ∀ model, (change model).givenName? = model.givenName?)
    (given' : ∀ model, (change' model).givenName? = model.givenName?) :
    ChangeTwin slack (·.mapModel change) (·.mapModel change') where
  unnamed left right alike := by
    have models : right.model?.map ModelNode.unnamed = left.model?.map ModelNode.unnamed := by
      rw [← Node.model?_unnamed, alike, Node.model?_unnamed]
    -- The nodes are both models or neither is.
    cases one : left.model? with
    | none =>
      rw [one, Option.map_none, Option.map_eq_none_iff] at models
      rw [Node.mapModel_of_none one, Node.mapModel_of_none models, alike]
    | some model =>
      rw [one, Option.map_some, Option.map_eq_some_iff] at models
      obtain ⟨model', two, models⟩ := models
      rw [Node.mapModel_of_some one, Node.mapModel_of_some two]
      show ({ right.unnamed with kind := .model (change' model').unnamed } : Node) =
        { left.unnamed with kind := .model (change model).unnamed }
      rw [alike, unnamed model model' models]
  same := same.map fun (change : ModelNode → ModelNode) (node : Node) => node.mapModel change
  given := mapModel_given given
  given' := mapModel_given given'
where
  mapModel_given {change : ModelNode → ModelNode}
      (given : ∀ model, (change model).givenName? = model.givenName?) (node : Node) :
      (node.mapModel change).givenName? = node.givenName? := by
    cases isModel : node.model? with
    | none => rw [Node.mapModel_of_none isModel]
    | some model =>
      rw [Node.mapModel_of_some isModel, Node.givenName?, Node.givenName?, isModel]
      exact given model

/-- A change of models that does not look at names does the same to both. -/
theorem mapModel_same {change : ModelNode → ModelNode}
    (unnamed : ∀ model, (change model).unnamed = (change model.unnamed).unnamed)
    (given : ∀ model, (change model).givenName? = model.givenName?) :
    ChangeTwin slack (·.mapModel change) (·.mapModel change) :=
  mapModel (fun left right alike => by rw [unnamed right, alike, ← unnamed left]) Slack.Same.rfl
    given given

/-- The values of an enum may be noted in both runs. -/
theorem values (values : List NodeId) :
    ChangeTwin slack (·.mapEnumeration ({ · with values }))
      (·.mapEnumeration ({ · with values })) := by
  -- The values are nodes, which are told without names.
  apply of_unnamed
  · rintro ⟨origin, nullable, deprecation, doc, kind⟩
    cases kind <;> simp [Node.mapEnumeration, Node.unnamed, NodeKind.unnamed, ModelNode.unnamed,
      Property.unnamed, Function.comp_def]
  · rintro ⟨origin, nullable, deprecation, doc, kind⟩
    cases kind <;> rfl

/-- The variants of a union may be noted in both runs. -/
theorem variants (variants : List NodeId) :
    ChangeTwin slack (·.mapUnion ({ · with variants })) (·.mapUnion ({ · with variants })) := by
  -- The variants are nodes, which are told without names.
  apply of_unnamed
  · rintro ⟨origin, nullable, deprecation, doc, kind⟩
    cases kind <;> simp [Node.mapUnion, Node.unnamed, NodeKind.unnamed, ModelNode.unnamed,
      Property.unnamed, Function.comp_def]
  · rintro ⟨origin, nullable, deprecation, doc, kind⟩
    cases kind <;> rfl

/-- The documentation of a declaration goes to the same nodes. -/
theorem documented (id : TypeId) (deprecation doc : Option String) :
    ChangeTwin slack
      (fun node => if node.origin == some id then { node with deprecation, doc } else node)
      (fun node => if node.origin == some id then { node with deprecation, doc } else node) := by
  -- It goes by the origin of the node, which is no name.
  apply of_unnamed
  · intro node
    have origin : node.unnamed.origin = node.origin := rfl
    rw [origin]
    split
    · exact congrArg (fun bare : Node => { bare with deprecation, doc }) node.unnamed_unnamed.symm
    · exact node.unnamed_unnamed.symm
  · intro node
    split
    · rfl
    · rfl

end ChangeTwin

/-! ## Notes of nodes -/

/-- A node that is added is the last one. -/
theorem addNode_run (node : Node) (state : State) :
    addNode node state = (.ok ⟨state.catalogue.size⟩,
      { state with catalogue := state.catalogue.push node }) :=
  rfl

/-- A declaration is noted in any case, but fails the run if it had another node. -/
theorem remember_run (type : TypeId) (node : NodeId) (state : State) :
    remember type node state =
      (match state.declared.get? type with
        | some first =>
          if first != node then .error (.violation (.projectedTwice type first node)) else .ok ()
        | none => .ok (),
        { state with declared := state.declared.insert type node }) := by
  have looked : (get : Derive State) state = (.ok state, state) := rfl
  unfold remember
  rw [bind_ok looked]
  -- By whether the declaration had a node, and whether it was this one.
  cases earlier : state.declared.get? type with
  | none => rfl
  | some first =>
    by_cases different : (first != node) = true
    · simp only [if_pos different]
      rfl
    · simp only [if_neg different]
      rfl

/-- Twin runs remember the same node, or fail for the same one. -/
theorem Twin.remember (twin : Twin slack left right) {id : TypeId} {node : NodeId}
    (concur : ¬ slack.renamed id → Concur left right node) :
    Meets (Twin slack) Eq (remember id node left) (Derivation.remember id node right) := by
  rw [remember_run, remember_run, twin.declared]
  have inserted := twin.insert concur
  rw [twin.declared] at inserted
  -- Both have the same node on record, if any.
  split
  · split
    · exact .error fun _ => inserted
    · exact .ok rfl inserted
  · exact .ok rfl inserted

/-- Both runs know a node that they add together. -/
theorem Twin.concur_push (twin : Twin slack left right) {first second : Node}
    (given : second.givenName? = first.givenName?) :
    Concur { left with catalogue := left.catalogue.push first }
      { right with catalogue := right.catalogue.push second } ⟨left.catalogue.size⟩ := by
  -- The catalogues are of one size, so both nodes go to the same place.
  refine ⟨by simp, ?_⟩
  show ((right.catalogue.push second).nodeAt ⟨left.catalogue.size⟩).givenName? =
    ((left.catalogue.push first).nodeAt ⟨left.catalogue.size⟩).givenName?
  rw [Catalogue.nodeAt_push_self, ← twin.size, Catalogue.nodeAt_push_self, given]

/-- A node is added and remembered for its declaration. -/
theorem Pair.register (id : TypeId) {first second : Node} (nodes : NodeTwin slack first second)
    (given : ¬ slack.renamed id → second.givenName? = first.givenName?)
    {next : NodeId → Derive α} {next' : NodeId → Derive β}
    (rest : ∀ node, Pair (Twin slack) matched (next node) (next' node)) :
    Pair (Twin slack) matched
      (do let node ← addNode first; remember id node; next node)
      (do let node ← addNode second; remember id node; next' node) := by
  intro left right twin
  -- Both runs add the node in the same place.
  rw [bind_ok (addNode_run first left), bind_ok (addNode_run second right), twin.size]
  have remembered := (twin.push nodes).remember fun kept => twin.concur_push (given kept)
  exact remembered.bind fun _ _ _ _ _ _ states => rest _ _ _ states

/-- A node that is changed as soon as it is added is added as it is then. -/
theorem addNode_modifyNode (node : Node) (change : Node → Node) (next : NodeId → Derive α) :
    (do let id ← addNode node; modifyNode id change; next id) =
      (do let id ← addNode (change node); next id) := by
  -- Nothing comes between the two steps, so the change meets the node that was just put there.
  funext state
  rw [bind_ok (addNode_run node state), bind_ok (addNode_run (change node) state),
    ← Catalogue.modify_push_self]
  rfl

namespace Pair

/-- Twin nodes may be added. -/
theorem addNode {first second : Node} (nodes : NodeTwin slack first second) :
    Pair (Twin slack) Eq (addNode first) (Derivation.addNode second) := by
  -- The catalogues are of one size, so the nodes get the same identifier.
  intro left right twin
  rw [addNode_run, addNode_run, twin.size]
  exact .ok rfl (twin.push nodes)

/-- A node without names is added alike. -/
theorem addNode_same (node : Node) :
    Pair (Twin slack) Eq (Derivation.addNode node) (Derivation.addNode node) :=
  addNode NodeTwin.rfl

/-- Twin changes may be made. -/
theorem modifyNode (id : NodeId) {change change' : Node → Node}
    (changes : ChangeTwin slack change change') :
    Pair (Twin slack) Eq (modifyNode id change) (Derivation.modifyNode id change') :=
  Pair.modify fun _ _ twin => twin.modify id changes

/-- Twin runs report the same error. -/
theorem reportError (target : Declaration) (code message : String) :
    Pair (Twin slack) Eq (reportError target code message)
      (Derivation.reportError target code message) :=
  Pair.modify fun _ _ twin =>
    { twin with
      diagnostics := congrArg (Diagnostics.error · (some target) code message) twin.diagnostics }

/-- Twin runs find the same primitive node, or add it at the same place. -/
theorem builtinNode (kind : BuiltinKind) (name : String) :
    Pair (Twin slack) Eq (builtinNode kind name) (Derivation.builtinNode kind name) := by
  unfold Derivation.builtinNode
  refine Pair.look fun left right twin => ?_
  rw [twin.builtins]
  -- Both have the node or neither has.
  split
  · exact Pair.pure rfl
  · intro left right twin
    rw [bind_ok (addNode_run _ left), bind_ok (addNode_run _ right), twin.size]
    exact .ok rfl ((twin.push NodeTwin.rfl).makes (twin.concur_push rfl))

/-- Twin runs find the same string node. -/
theorem stringNode : Pair (Twin slack) Eq stringNode Derivation.stringNode :=
  builtinNode .string "string"

/-- A declaration that shares the node of a primitive kind. -/
theorem shareNode (id : TypeId) (kind : BuiltinKind) (name : String) :
    Pair (Twin slack) Eq
      (do let node ← Derivation.builtinNode kind name; remember id node; return node)
      (do let node ← Derivation.builtinNode kind name; remember id node; return node) := by
  -- Both runs know what the kind has.
  have known : Yields (Derivation.builtinNode kind name) fun node state =>
      state.builtins.get? kind = some node :=
    Ensures.builtinNode (fun _ _ _ known => known) fun _ _ _ => OrderedMap.get?_insert_self _ _ _
  refine (builtinNode kind name).bind_told known fun node left right twin isNode => ?_
  have remembered : Meets (Twin slack) Eq (remember id node left) (remember id node right) :=
    twin.remember fun _ => twin.shared kind node isNode
  exact remembered.bind fun _ _ _ _ _ _ states => Pair.pure rfl _ _ states

/-! ## Names -/

/-- Making up a name adds to the names alone. -/
theorem generatedName_run (context : Context) (id : TypeId) (state : State) :
    ∃ name names, context.generatedName id state = (.ok name, { state with names }) := by
  have looked : (get : Derive State) state = (.ok state, state) := rfl
  unfold Context.generatedName
  rw [bind_ok looked]
  -- A name that was kept is taken again; another one is claimed.
  cases kept : state.names.kept.get? id with
  | some name => exact ⟨name, state.names, rfl⟩
  | none => exact ⟨_, _, rfl⟩

/-- Names that are made up are the same, unless they are free to differ. -/
theorem generatedName (sibling : Sibling slack context other) (id : TypeId) :
    Pair (Twin slack) slack.Same (context.generatedName id) (other.generatedName id) := by
  -- Where no names differ, both runs make up the same name in the same way.
  by_cases free : slack.free
  · intro left right twin
    obtain ⟨name, names, run⟩ := generatedName_run context id left
    obtain ⟨name', names', run'⟩ := generatedName_run other id right
    rw [run, run']
    exact .ok (Or.inl free) { twin with names := Or.inl free }
  · have same : other.generatedName id = context.generatedName id := by
      unfold Context.generatedName
      simp only [sibling.candidateName free, sibling.alike.contextPath, sibling.alike.operationIds,
        sibling.alike.orphanTypes]
    rw [same]
    unfold Context.generatedName
    refine Pair.look fun left right twin => ?_
    rw [twin.names.resolve_left free]
    split
    · exact Pair.pure Slack.Same.rfl
    · refine Pair.look fun left right twin => ?_
      rw [twin.names.resolve_left free]
      dsimp only
      refine (Pair.modify fun left right twin => ?_).bind_same fun _ => Pair.pure Slack.Same.rfl
      exact { twin with names := Slack.Same.rfl }

end Pair

/-- Two names that were found for a declaration are both made up, or else both given. -/
structure NameTwin (slack : Slack) (kept : Prop) (left right : String × Bool) : Prop where
  generated : right.2 = left.2
  same : slack.Same left.1 right.1
  given : kept → left.2 = false → right.1 = left.1

section

variable (sibling : Sibling slack context other)
include sibling

/-- The name of a declaration is made up in both runs or in neither. -/
theorem Pair.nameOrGenerated (id : TypeId) (declared : Option String) :
    Pair (Twin slack)
      (NameTwin slack ((∃ model, context.definition.model? id = some model ∧
        model.name = declared) ∧ ¬ slack.renamed id))
      (context.nameOrGenerated id declared) (other.nameOrGenerated id declared) := by
  -- A declared name may be customized, and otherwise a name is made up.
  cases declared with
  | some name =>
    apply Pair.pure
    exact
      { generated := rfl
        same := sibling.nameOf_type id name
        given := fun ⟨⟨model, isModel, named⟩, kept⟩ _ =>
          sibling.modelName id model name isModel named kept }
  | none =>
    refine (Pair.generatedName sibling id).bind fun name name' same => Pair.pure ?_
    exact { generated := rfl, same, given := fun _ made => nomatch made }

/-- The name of a union is missing in both runs or in neither. -/
theorem Pair.unionName? (id : TypeId) (union : Union) (nullable : Bool) (variants : List Variant) :
    Pair (Twin slack)
      (fun one two => two.1.map (fun _ => "") = one.1.map (fun _ => "") ∧ two.2 = one.2 ∧
        slack.Same one.1 two.1)
      (context.unionName? id union nullable variants)
      (other.unionName? id union nullable variants) := by
  -- Whether a union needs a name is asked of the declaration alone.
  unfold Context.unionName?
  refine Pair.ite (fun _ => Pair.pure ⟨rfl, rfl, Slack.Same.rfl⟩) fun _ => ?_
  refine (Pair.nameOrGenerated sibling id union.name).bind fun one two names => Pair.pure ?_
  exact ⟨rfl, names.generated, names.same.map some⟩

end

/-! ## Shapes -/

section

variable {derive derive' : TypeId → Derive NodeId}

/-- Intrinsic types have the same nodes. -/
theorem Pair.intrinsicNode (id : TypeId) (intrinsic : Intrinsic) :
    Pair (Twin slack) Eq (Context.intrinsicNode id intrinsic)
      (Context.intrinsicNode id intrinsic) := by
  -- The type any is shared, and other intrinsic types are remembered by themselves.
  unfold Context.intrinsicNode
  split
  · exact Pair.shareNode id .any intrinsic.name
  · exact Pair.register id NodeTwin.rfl (fun _ => rfl) fun node => Pair.pure rfl

/-- Literals have the same nodes. -/
theorem Pair.literalNode (id : TypeId) (value : Literal) :
    Pair (Twin slack) Eq (Context.literalNode id value) (Context.literalNode id value) := by
  -- A constant is known by its value, which is the same.
  unfold Context.literalNode addConstant
  rw [addNode_modifyNode]
  exact Pair.register id NodeTwin.rfl (fun _ => rfl) fun node => Pair.pure rfl

section

variable (sibling : Sibling slack context other)
include sibling

/-- Enums have the same nodes, and so have their members. -/
theorem Pair.enumerationNode (id : TypeId) (enumeration : Enumeration) :
    Pair (Twin slack) Eq (context.enumerationNode id enumeration)
      (other.enumerationNode id enumeration) := by
  unfold Context.enumerationNode
  rw [sibling.alike.shapeAt, sibling.namespaceName]
  dsimp only
  apply Pair.register id
  · exact ⟨rfl, (sibling.nameOf_type id enumeration.name).imp fun equal => by rw [equal]⟩
  · exact fun _ => rfl
  intro node
  -- The members come after their enum, one by one.
  refine Pair.bind_same (Pair.mapM_same _ fun member _ => ?_) fun values => ?_
  · obtain ⟨memberId, member⟩ := member
    apply Pair.register memberId
    · exact ⟨rfl, (sibling.nameOf_type memberId member.name).imp fun equal => by rw [equal]⟩
    · exact fun _ => rfl
    · exact fun value => Pair.pure rfl
  · refine (Pair.modifyNode node (ChangeTwin.values values)).bind_same fun _ => ?_
    exact Pair.pure rfl

/-- Unions that are flattened have the same nodes. -/
theorem Pair.flattenedNode (id : TypeId) (union : Union) (nullable : Bool)
    (literals : List (String × String)) (isFixed : Bool) :
    Pair (Twin slack) Eq (context.flattenedNode id union nullable literals isFixed)
      (other.flattenedNode id union nullable literals isFixed) := by
  unfold Context.flattenedNode
  rw [sibling.namespaceName]
  refine (Pair.nameOrGenerated sibling id union.name).bind ?_
  rintro ⟨name, isGenerated⟩ ⟨name', isGenerated'⟩ ⟨generated, same, _⟩
  dsimp only at generated same ⊢
  -- The two enums differ in their names at most.
  subst generated
  apply Pair.register id
  · exact ⟨rfl, same.imp fun equal => by rw [equal]⟩
  · exact fun _ => rfl
  intro node
  refine Pair.bind_same (Pair.mapM_same _ fun literal _ => Pair.addNode_same _) fun values => ?_
  refine (Pair.modifyNode node (ChangeTwin.values values)).bind_same fun _ => ?_
  exact Pair.pure rfl

end

section

variable (others : ∀ type, Pair (Twin slack) Eq (derive type) (derive' type))
include others

/-- The bases of scalars have the same nodes. -/
theorem Pair.scalarBase? (scalar : Scalar) :
    Pair (Twin slack) Eq (Context.scalarBase? derive scalar)
      (Context.scalarBase? derive' scalar) := by
  -- Only the base of a scalar in a namespace is derived, and that is asked alike.
  unfold Context.scalarBase?
  split
  · exact (others _).map fun _ _ same => congrArg some same
  · exact Pair.pure rfl

variable (sibling : Sibling slack context other)
include sibling

/-- Scalars have the same nodes. -/
theorem Pair.scalarNode (id : TypeId) (scalar : Scalar) :
    Pair (Twin slack) Eq (context.scalarNode derive id scalar)
      (other.scalarNode derive' id scalar) := by
  unfold Context.scalarNode
  dsimp only
  rw [sibling.alike.standardScalar?, sibling.alike.encoding?]
  -- The base and the encoding come out the same, and only the name may differ.
  refine (Pair.scalarBase? others scalar).bind_same fun base => ?_
  refine (Pair.answerOf _).bind_same fun encode => ?_
  apply Pair.register id
  · exact ⟨rfl, (sibling.nameOf_type id scalar.name).imp fun equal => by rw [equal]⟩
  · exact fun _ => rfl
  · exact fun node => Pair.pure rfl

/-- Unions of variants have the same nodes. -/
theorem Pair.variantsNode (id : TypeId) (union : Union) (nullable : Bool)
    (variants : List Variant) :
    Pair (Twin slack) Eq (context.variantsNode derive id union nullable variants)
      (other.variantsNode derive' id union nullable variants) := by
  unfold Context.variantsNode
  rw [sibling.namespaceName]
  refine (Pair.unionName? sibling id union nullable variants).bind ?_
  rintro ⟨name, isGenerated⟩ ⟨name', isGenerated'⟩ ⟨bare, generated, same⟩
  dsimp only at bare generated same ⊢
  -- The union is noted before its variants are derived.
  subst generated
  apply Pair.register id
  · exact ⟨by simp only [Node.unnamed, NodeKind.unnamed, bare], same.imp fun equal => by rw [equal]⟩
  · exact fun _ => rfl
  · intro node
    refine Pair.bind_same (Pair.mapM_same _ fun variant _ => others variant.type) fun values => ?_
    refine (Pair.modifyNode node (ChangeTwin.variants values)).bind_same fun _ => ?_
    exact Pair.pure rfl

/-- Null on its own lends its node, which no model has. -/
theorem Pair.nullNode (finds : ∀ type, Finds (context.definition.payloadType type) (derive type))
    (id null : TypeId) (isNull : context.definition.isNull null = true) :
    Pair (Twin slack) Eq (do let node ← derive null; remember id node; return node)
      (do let node ← derive' null; remember id node; return node) := by
  -- Null is no model.
  have noModel : context.definition.model? null = none := by
    unfold Service.Definition.isNull at isNull
    unfold Service.Definition.model?
    cases shape : context.definition.shapeAt null with
    | model model => simp [shape] at isNull
    | _ => rfl
  refine (others null).bind_told (finds null) fun node left right twin known => ?_
  rw [Context.payloadType_eq noModel] at known
  -- So it is not among what is renamed, and its node concurs.
  have kept : ¬ slack.renamed null := by
    intro renamed
    have isModel := sibling.renamed_isModel null renamed
    rw [noModel] at isModel
    cases isModel
  have remembered : Meets (Twin slack) Eq (remember id node left) (remember id node right) :=
    twin.remember fun _ => twin.known null node known kept
  exact remembered.bind fun _ _ _ _ _ _ states => Pair.pure rfl _ _ states

/-- Unions have the same nodes. -/
theorem Pair.unionNode (finds : ∀ type, Finds (context.definition.payloadType type) (derive type))
    (id : TypeId) (union : Union) :
    Pair (Twin slack) Eq (context.unionNode derive id union)
      (other.unionNode derive' id union) := by
  unfold Context.unionNode
  rw [sibling.alike.isNull, sibling.flattened?, sibling.options]
  dsimp only
  -- By cases on what is left of the union without null.
  split
  · exact Pair.shareNode id .any "unknown"
  · rename_i null rest onlyNull variants
    have isNull : context.definition.isNull null.type = true := by
      rw [variants] at onlyNull
      simpa using List.filter_eq_nil_iff.mp onlyNull null List.mem_cons_self
    exact Pair.nullNode others sibling finds id null.type isNull
  · split
    · exact Pair.flattenedNode sibling id union _ _ _
    · exact Pair.variantsNode others sibling id union _ _

/-! ## Models -/

/-- Two properties are the same but for the slack between two runs. -/
structure PropertyTwin (slack : Slack) (left right : Property) : Prop where
  unnamed : right.unnamed = left.unnamed
  same : slack.Same left right

omit others sibling in
/-- Lists of twin properties are the same but for names. -/
theorem PropertyTwin.all {left right : List Property}
    (twins : List.Forall₂ (PropertyTwin slack) left right) :
    right.map Property.unnamed = left.map Property.unnamed ∧ slack.Same left right := by
  -- By induction on the properties.
  induction twins with
  | nil => exact ⟨rfl, Slack.Same.rfl⟩
  | cons first rest ih =>
    refine ⟨by rw [List.map_cons, List.map_cons, first.unnamed, ih.1], ?_⟩
    rcases first.same with free | same
    · exact Or.inl free
    · exact ih.2.imp fun equal => by rw [same, equal]

/-- Members are twin properties. -/
theorem Pair.memberProperty (owner : NodeId) {ownerId ownerId' : String}
    (ids : slack.Same ownerId ownerId') (id : PropertyId) :
    Pair (Twin slack) (PropertyTwin slack) (context.memberProperty derive owner ownerId id)
      (other.memberProperty derive' owner ownerId' id) := by
  -- The type has the same node; only the identifier of the owner may differ.
  unfold Context.memberProperty
  rw [sibling.alike.propertyAt, sibling.propertyName]
  refine (others _).bind_same fun type => Pair.pure ?_
  exact { unnamed := rfl, same := ids.imp fun equal => by rw [equal] }

omit sibling in
/-- A subtype is listed under the same text, or reported in both runs. -/
theorem Pair.addSubtype (discriminator : String) (subtypes : OrderedMap String NodeId)
    (derived : TypeId) :
    Pair (Twin slack) Eq (Context.addSubtype derive discriminator subtypes derived)
      (Context.addSubtype derive' discriminator subtypes derived) := by
  unfold Context.addSubtype
  refine (others derived).bind_same fun child => ?_
  refine Pair.look fun left right twin => ?_
  -- The text that the subtype is known by is the same in both catalogues.
  rw [twin.discriminatorValue?]
  split
  · refine (Pair.modifyNode child ?_).bind_same fun _ => Pair.pure rfl
    apply ChangeTwin.mapModel_same
    · intro model
      have marked := unnamed_marked model.properties discriminator
        (Property.map_unnamed model.properties)
      simp only [ModelNode.unnamed, marked]
    · exact fun _ => rfl
  · exact (Pair.reportError _ _ _).bind_same fun _ => Pair.pure rfl

omit sibling in
/-- Discriminators are noted alike, along with the subtypes. -/
theorem Pair.addDiscriminator (node : NodeId) (model : Model) (discriminator : String) :
    Pair (Twin slack) Eq (Context.addDiscriminator derive node model discriminator)
      (Context.addDiscriminator derive' node model discriminator) := by
  unfold Context.addDiscriminator
  refine Pair.bind_same (Pair.foldlM _ (fun subtypes derived _ =>
    Pair.addSubtype others discriminator subtypes derived) {}) fun subtypes => ?_
  refine Pair.stringNode.bind_same fun string => Pair.modifyNode node ?_
  apply ChangeTwin.mapModel_same
  · intro model
    -- The identifier of a property that is made up is made of the name of the model.
    have marked (made made' : Property) (same : made'.unnamed = made.unnamed) :=
      unnamed_marked model.properties discriminator
        (show (made' :: model.properties.map Property.unnamed).map Property.unnamed =
          (made :: model.properties).map Property.unnamed by
            rw [List.map_cons, List.map_cons, same, Property.map_unnamed])
    simp only [ModelNode.unnamed]
    congr 1
    apply (marked _ _ ?_).symm
    rfl
  · exact fun _ => rfl

/-- Models inherit the same nodes. -/
theorem Pair.inheritance (model : Model) :
    Pair (Twin slack) Eq (context.inheritance derive model) (other.inheritance derive' model) := by
  unfold Context.inheritance
  rw [sibling.alike.shapeAt]
  -- There is no base, or a record, of which the values are derived, or another type.
  split
  · exact Pair.pure rfl
  · split
    · exact (others _).bind_same fun value => Pair.pure rfl
    · exact (others _).bind_same fun base => Pair.pure rfl

omit sibling in
/-- Models have the same node for what they add. -/
theorem Pair.additionalNode? (model : Model) (inherited : Option NodeId) :
    Pair (Twin slack) Eq (Context.additionalNode? derive model inherited)
      (Context.additionalNode? derive' model inherited) := by
  -- What is declared has the same node, and what is inherited was the same before.
  unfold Context.additionalNode?
  split
  · exact (others _).map fun _ _ same => congrArg some same
  · exact Pair.pure rfl

omit sibling in
/-- A model that has a discriminator has it in both runs. -/
theorem Pair.addDiscriminator? (node : NodeId) (model : Model) :
    Pair (Twin slack) Eq (Context.addDiscriminator? derive node model)
      (Context.addDiscriminator? derive' node model) := by
  -- The discriminator is declared, so both have it or neither.
  unfold Context.addDiscriminator?
  split
  · exact Pair.addDiscriminator others node model _
  · exact Pair.pure rfl

omit others sibling in
/-- Twin properties may be noted on twin models. -/
theorem ChangeTwin.properties {properties properties' : List Property}
    (twins : List.Forall₂ (PropertyTwin slack) properties properties') :
    ChangeTwin slack (·.mapModel ({ · with properties }))
      (·.mapModel ({ · with properties := properties' })) := by
  obtain ⟨bare, equal⟩ := PropertyTwin.all twins
  apply ChangeTwin.mapModel
  · -- The change replaces the properties, which are the same but for names.
    intro left right alike
    exact congrArg₂ (fun (model : ModelNode) properties => { model with properties }) alike bare
  · exact equal.imp fun equal => by rw [equal]
  · exact fun _ => rfl
  · exact fun _ => rfl

omit others sibling in
/-- What a model inherits is told by nodes, which are the same in both runs. -/
theorem ChangeTwin.inherited (base additionalProperties : Option NodeId) :
    ChangeTwin slack (·.mapModel ({ · with base, additionalProperties }))
      (·.mapModel ({ · with base, additionalProperties })) := by
  apply ChangeTwin.mapModel_same
  · -- Nodes are no names, so that they are left as they are.
    intro model
    exact congrArg (fun properties => { model.unnamed with
      properties, base, additionalProperties })
      (Property.map_unnamed model.properties).symm
  · exact fun _ => rfl

/-- The node of a model is made in the same steps, whatever the model is called. -/
theorem Pair.modelNode (id : TypeId) (model : Model)
    (isModel : context.definition.model? id = some model) :
    Pair (Twin slack) Eq (context.modelNode derive id model)
      (other.modelNode derive' id model) := by
  unfold Context.modelNode
  rw [sibling.namespaceName, sibling.memberIds]
  refine (Pair.nameOrGenerated sibling id model.name).bind ?_
  rintro ⟨name, isGenerated⟩ ⟨name', isGenerated'⟩ ⟨generated, same, given⟩
  dsimp only at generated same given ⊢
  subst generated
  apply Pair.register id
  · exact ⟨rfl, same.imp fun equal => by rw [equal]⟩
  · -- A name that was given stays, unless the declaration itself is renamed.
    intro kept
    have names := given ⟨⟨model, isModel, rfl⟩, kept⟩
    cases isGenerated' with
    | true => rfl
    | false => rw [names rfl]
  intro node
  -- From here on the two models differ in identifiers at most, which are made of their names.
  have ids := same.map (qualified (context.namespaceName id))
  refine Pair.bind (Pair.mapM _ fun property _ =>
    Pair.memberProperty others sibling node ids property) fun properties properties' twins => ?_
  refine (Pair.modifyNode node (ChangeTwin.properties twins)).bind_same fun _ => ?_
  refine (Pair.inheritance others sibling model).bind_same fun ⟨base, inherited⟩ => ?_
  refine (Pair.additionalNode? others model inherited).bind_same fun additional => ?_
  refine (Pair.modifyNode node (ChangeTwin.inherited base additional)).bind_same fun _ => ?_
  exact (Pair.addDiscriminator? others node model).bind_same fun _ => Pair.pure rfl

/-- Types of every shape have the same nodes. -/
theorem Pair.shapeNode (finds : ∀ type, Finds (context.definition.payloadType type) (derive type))
    (id : TypeId) (shape : Shape) (isShape : context.definition.shapeAt id = shape) :
    Pair (Twin slack) Eq (context.shapeNode derive id shape)
      (other.shapeNode derive' id shape) := by
  -- By cases on the shape; the order of the steps is that of the derivation.
  cases shape with
  | scalar scalar => exact Pair.scalarNode others sibling id scalar
  | intrinsic intrinsic => exact Pair.intrinsicNode id intrinsic
  | literal value => exact Pair.literalNode id value
  | enumeration enumeration => exact Pair.enumerationNode sibling id enumeration
  | member member =>
    refine (others member.parent).bind_same fun _ => Pair.look fun left right twin => ?_
    rw [twin.declared]
    split
    · exact Pair.pure rfl
    · exact Pair.throw
  | union union => exact Pair.unionNode others sibling finds id union
  | array element =>
    refine (others element).bind_same fun value => ?_
    exact Pair.register id NodeTwin.rfl (fun _ => rfl) fun node => Pair.pure rfl
  | record element =>
    refine Pair.stringNode.bind_same fun key => (others element).bind_same fun value => ?_
    exact Pair.register id NodeTwin.rfl (fun _ => rfl) fun node => Pair.pure rfl
  | model model =>
    have isModel : context.definition.model? id = some model := by
      simp [Service.Definition.model?, isShape]
    exact Pair.modelNode others sibling id model isModel

end

end

/-! ## Declarations -/

section

variable (sibling : Sibling slack context other)
include sibling

/-- All types have the same nodes, in however many references. -/
theorem Pair.nodeWithin (steps : Nat) (id : TypeId) :
    Pair (Twin slack) Eq (context.nodeWithin steps id) (other.nodeWithin steps id) := by
  -- By induction on the references that may still be followed.
  induction steps generalizing id with
  | zero => exact Pair.throw
  | succ steps ih =>
    unfold Context.nodeWithin
    rw [sibling.alike.payloadType, sibling.alike.typeAt]
    refine Pair.look fun left right twin => ?_
    rw [twin.declared]
    split
    · exact Pair.pure rfl
    · refine Pair.bind_same (Pair.shapeNode ih sibling (nodeWithin_finds steps) _ _ rfl)
        fun node => ?_
      refine (Pair.modifyNode node (ChangeTwin.documented _ _ _)).bind_same fun _ => ?_
      exact Pair.pure rfl

/-- Two runs that are given almost the same derive the same node for a declaration. -/
theorem Pair.node (id : TypeId) : Pair (Twin slack) Eq (context.node id) (other.node id) := by
  -- Both have the same types, and so the same bound.
  unfold Context.node
  rw [sibling.referenceBound]
  exact Pair.nodeWithin sibling _ id

end

end Derivation

end ClientModel
