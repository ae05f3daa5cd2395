import ClientModel.Proofs.Reach

/-!
What spreading usage and access over a catalogue leaves alone.

Nodes stay what they are but for their usage and access; of a model, subtypes that nobody uses are
forgotten at the end. So no node comes to refer to another that it did not refer to before.
-/

namespace ClientModel

namespace Node

/-- A node without its usage and access. -/
def bare (node : Node) : Node :=
  node.mapUse fun _ _ => (.none, none)

/-- A bare node shows nothing of a change to usage and access. -/
@[simp] theorem bare_mapUse (node : Node) (change : Usage → Option Access → Usage × Option Access) :
    (node.mapUse change).bare = node.bare := by
  cases kind : node.kind <;> simp [mapUse, bare, kind]

/-- A bare node is of the same kind. -/
theorem label_bare (node : Node) : node.bare.kind.label = node.kind.label := by
  cases kind : node.kind <;> simp [mapUse, bare, kind, NodeKind.label]

/-- A bare model has the same properties. -/
theorem properties_bare (node : Node) :
    node.bare.model?.map ModelNode.properties = node.model?.map ModelNode.properties := by
  cases kind : node.kind <;> simp [mapUse, bare, kind, model?]

/-- A bare node carries usage if the node does. -/
theorem carriesUsage_bare (node : Node) : node.bare.carriesUsage = node.carriesUsage := by
  cases kind : node.kind <;> simp [bare, mapUse, carriesUsage, usage?, kind]

/-- A bare model has the same subtypes. -/
theorem subtypes_bare (node : Node) :
    node.bare.model?.map ModelNode.subtypes = node.model?.map ModelNode.subtypes := by
  cases kind : node.kind <;> simp [mapUse, bare, kind, model?]

end Node

namespace Derivation

open Relation (ReflTransGen)
open Service (Choices)

variable {catalogue : Catalogue} {sparesBase : Bool}

/-- Where a node leads is told without its usage. -/
theorem onward_bare (node : Node) (usage : Usage) :
    onward sparesBase node.bare usage = onward sparesBase node usage := by
  cases kind : node.kind <;> simp [Node.mapUse, Node.bare, kind, onward]

/-- The catalogue that seeds lead to, before what nobody uses is forgotten. -/
def sown (catalogue : Catalogue) (choices : Choices) (sparesBase : Bool) (seeds : List Seed) :
    Catalogue :=
  ((chosenSeeds catalogue choices ++ seeds).foldl (Seed.apply sparesBase)
    (catalogue.map (·.setAccess none))).map (chooseAccess choices)

/-- To spread usage is to sow it, and to prune the catalogue then. -/
theorem spread_eq (catalogue : Catalogue) (choices : Choices) (sparesBase : Bool)
    (seeds : List Seed) : spread catalogue choices sparesBase seeds =
      prune (sown catalogue choices sparesBase seeds) := rfl

/-! ## Nodes -/

/-- Access does not matter to a bare node. -/
@[simp] theorem bare_setAccess (node : Node) (access : Option Access) :
    (node.setAccess access).bare = node.bare :=
  node.bare_mapUse _

/-- Chosen access does not matter to a bare node. -/
theorem bare_chooseAccess (choices : Choices) (node : Node) :
    (chooseAccess choices node).bare = node.bare := by
  unfold chooseAccess
  split
  · exact bare_setAccess _ _
  · rfl

/-- Each mark of the walk is on one node, and on its usage and access alone. -/
theorem bare_seeds (seeds : List Seed) (catalogue : Catalogue) (id : NodeId) :
    ((seeds.foldl (Seed.apply sparesBase) catalogue).nodeAt id).bare =
      (catalogue.nodeAt id).bare := by
  induction seeds generalizing catalogue with
  | nil => rfl
  | cons seed seeds ih =>
    rw [List.foldl_cons, ih]
    -- Further seeds start from what the marks of this one leave.
    refine marks_induction (fun marked => (marked.nodeAt id).bare = (catalogue.nodeAt id).bare) ?_ _
      rfl
    intro marked met usage still
    rw [Catalogue.nodeAt_modify _ (mark_outOfRange _ _)]
    split
    · rename_i same
      rw [mark, Node.bare_mapUse, ← same]
      exact still
    · exact still

/-- Sowing leaves every node as it is but for usage and access. -/
theorem bare_sown (choices : Choices) (seeds : List Seed) (id : NodeId) :
    ((sown catalogue choices sparesBase seeds).nodeAt id).bare = (catalogue.nodeAt id).bare := by
  -- Sowing has three steps, to forget access, to apply seeds and to choose access; none of them
  -- touches the rest of a node.
  rw [sown, Catalogue.nodeAt_map _ rfl, bare_chooseAccess, bare_seeds, Catalogue.nodeAt_map _ rfl,
    bare_setAccess]

/-- Pruning cuts down the subtypes of models, and leaves all else. -/
theorem nodeAt_prune (before : Catalogue) (id : NodeId) :
    (prune before).nodeAt id = (before.nodeAt id).mapModel fun model =>
      { model with subtypes := model.subtypes.bind (usedSubtypes before) } := by
  rw [prune, Catalogue.nodeAt_map _ rfl]

/-- A model is left with those of its subtypes that are used. -/
theorem model?_prune (before : Catalogue) (id : NodeId) :
    (prune before).model? id = (before.model? id).map fun model =>
      { model with subtypes := model.subtypes.bind (usedSubtypes before) } := by
  rw [Catalogue.model?, nodeAt_prune, Node.model?_mapModel, Catalogue.model?]

/-- Until subtypes are forgotten, a model has all that were collected. -/
theorem subtypes_sown (choices : Choices) (seeds : List Seed) (id : NodeId) :
    ((sown catalogue choices sparesBase seeds).model? id).map ModelNode.subtypes =
      (catalogue.model? id).map ModelNode.subtypes := by
  rw [Catalogue.model?, ← Node.subtypes_bare, bare_sown, Node.subtypes_bare, Catalogue.model?]

/-- Usage and access change nothing about the properties of models. -/
theorem properties_spread (catalogue : Catalogue) (choices : Choices) (sparesBase : Bool)
    (seeds : List Seed) (id : NodeId) :
    ((spread catalogue choices sparesBase seeds).model? id).map ModelNode.properties =
      (catalogue.model? id).map ModelNode.properties := by
  -- Pruning touches the subtypes of a model alone.
  rw [spread_eq, model?_prune, Option.map_map, Catalogue.model?, Catalogue.model?,
    ← Node.properties_bare (catalogue.nodeAt id), ← bare_sown choices seeds id,
    Node.properties_bare]
  rfl

/-- A node that admits null still does, and no other one. -/
theorem nullable_spread (catalogue : Catalogue) (choices : Choices) (sparesBase : Bool)
    (seeds : List Seed) (id : NodeId) :
    ((spread catalogue choices sparesBase seeds).nodeAt id).nullable =
      (catalogue.nodeAt id).nullable := by
  -- Neither usage and access nor the subtypes of a model have to do with null.
  have bare (node : Node) : node.bare.nullable = node.nullable := by
    cases kind : node.kind <;> simp [Node.bare, Node.mapUse, kind]
  have mapModel (node : Node) (change : ModelNode → ModelNode) :
      (node.mapModel change).nullable = node.nullable := by
    cases kind : node.kind <;> simp [Node.mapModel, kind]
  rw [spread_eq, nodeAt_prune, mapModel, ← bare, bare_sown, bare]

/-- A node stays of its sort. -/
theorem label_spread (choices : Choices) (seeds : List Seed) (id : NodeId) :
    ((spread catalogue choices sparesBase seeds).nodeAt id).kind.label =
      (catalogue.nodeAt id).kind.label := by
  rw [spread_eq, nodeAt_prune, Node.label_mapModel, ← Node.label_bare, bare_sown, Node.label_bare]

/-! ## Ways -/

/-- Forgetting subtypes takes away what models lead to, and adds nothing. -/
theorem onward_prune (before : Catalogue) (id : NodeId) (usage : Usage) :
    onward sparesBase ((prune before).nodeAt id) usage ⊆
      onward sparesBase (before.nodeAt id) usage := by
  rw [nodeAt_prune]
  cases kind : (before.nodeAt id).kind with
  | model model =>
    -- Of all that a model refers to only its subtypes may become fewer; they come last.
    simp only [Node.mapModel, kind, onward]
    refine List.map_subset _ (List.append_subset.mpr ⟨List.subset_append_left _ _, ?_⟩)
    refine List.Subset.trans ?_ (List.subset_append_right _ _)
    cases subtypes : model.subtypes with
    | none => simp
    | some all =>
      simp only [Option.bind_some, usedSubtypes]
      split
      · simp
      · exact List.map_subset _ fun entry listed => (List.mem_filter.mp listed).1
  | _ => simp [Node.mapModel, kind]

/-- A node leads to what is found onward of it, with whatever usage. -/
theorem leads_iff_onward {id other : NodeId} : catalogue.Leads sparesBase id other ↔
    ∃ usage, (other, usage) ∈ onward sparesBase (catalogue.nodeAt id) .none := by
  -- What is onward is either handed over to, with the usage, or referred to, without it.
  simp only [mem_onward, Catalogue.Leads]
  constructor
  · rintro (hands | refers)
    · exact ⟨_, Or.inl ⟨hands, rfl⟩⟩
    · exact ⟨_, Or.inr ⟨refers, rfl⟩⟩
  · rintro ⟨usage, told⟩
    exact told.imp And.left And.left

/-- What a node leads to does not depend on usage and access. -/
theorem leads_congr {before after : Catalogue} {id other : NodeId}
    (same : (after.nodeAt id).bare = (before.nodeAt id).bare) :
    after.Leads sparesBase id other ↔ before.Leads sparesBase id other := by
  rw [leads_iff_onward, leads_iff_onward, ← onward_bare, same, onward_bare]

/-- Only what is handed over gets a spread. -/
theorem handsOver_iff_onward (sparesBase : Bool) {id other : NodeId} :
    catalogue.HandsOver id other ↔
      (other, Usage.spread) ∈ onward sparesBase (catalogue.nodeAt id) .spread := by
  -- What is referred to would have gone on with an empty usage.
  rw [mem_onward]
  exact ⟨fun hands => Or.inl ⟨hands, rfl⟩, fun told => (told.resolve_right fun refers =>
    absurd refers.2 (by decide)).1⟩

/-- What is referred to gets nothing of a spread. -/
theorem refersTo_iff_onward {id other : NodeId} : catalogue.RefersTo sparesBase id other ↔
    (other, Usage.none) ∈ onward sparesBase (catalogue.nodeAt id) .spread := by
  -- What is handed over to would have gone on with the spread itself.
  rw [mem_onward]
  exact ⟨fun refers => Or.inr ⟨refers, by decide⟩, fun told => (told.resolve_left fun hands =>
    absurd hands.2 (by decide)).1⟩

section

variable {before after : Catalogue} (same : ∀ id, (after.nodeAt id).bare = (before.nodeAt id).bare)
include same

/-- The same nodes hand over, as that is told by bare nodes. -/
theorem handsOver_congr : after.HandsOver = before.HandsOver := by
  -- Both relations are read off what is onward, and that is read off bare nodes.
  funext id other
  rw [handsOver_iff_onward false, handsOver_iff_onward false, ← onward_bare, same, onward_bare]

/-- The same nodes are referred to, as that is told by bare nodes. -/
theorem refersTo_congr : after.RefersTo sparesBase = before.RefersTo sparesBase := by
  funext id other
  rw [refersTo_iff_onward, refersTo_iff_onward, ← onward_bare, same, onward_bare]

/-- What a seed brings does not depend on usage and access. -/
theorem brings_congr (seed : Seed) (id : NodeId) (way : Nat) :
    seed.Brings after sparesBase id way ↔ seed.Brings before sparesBase id way := by
  -- Ways are ways in both catalogues, since each node leads to the same.
  have leads : after.Leads sparesBase = before.Leads sparesBase := by
    funext id other
    exact propext (leads_congr (same id))
  rw [Seed.Brings, Catalogue.Forwards, Catalogue.Includes, handsOver_congr same,
    refersTo_congr same, leads, Seed.Brings, Catalogue.Forwards, Catalogue.Includes]

end

/-- Whatever a node leads to in the end it led to before. -/
theorem leads_of_spread {choices : Choices} {seeds : List Seed} {id other : NodeId}
    (leads : (spread catalogue choices sparesBase seeds).Leads sparesBase id other) :
    catalogue.Leads sparesBase id other := by
  -- Sowing changes nothing about ways, and pruning only takes subtypes away.
  rw [← leads_congr (bare_sown choices seeds id), leads_iff_onward]
  rw [spread_eq, leads_iff_onward] at leads
  exact leads.imp fun usage listed => onward_prune _ id _ listed

/-! ## Usage -/

/-- Access does not change usage. -/
theorem usage?_setAccess (node : Node) (access : Option Access) :
    (node.setAccess access).usage? = node.usage? := by
  cases kind : node.kind <;> simp [Node.setAccess, Node.mapUse, Node.usage?, kind]

/-- Chosen access does not change usage. -/
theorem usage?_chooseAccess (choices : Choices) (node : Node) :
    (chooseAccess choices node).usage? = node.usage? := by
  unfold chooseAccess
  split
  · exact usage?_setAccess _ _
  · rfl

/-- Pruning does not change usage. -/
theorem usage?_prune (before : Catalogue) (id : NodeId) :
    ((prune before).nodeAt id).usage? = (before.nodeAt id).usage? := by
  -- Only the subtypes of models are pruned, so only that kind is to be looked into.
  rw [nodeAt_prune]
  cases kind : (before.nodeAt id).kind <;> simp [Node.mapModel, Node.usage?, kind]

/-- What has a usage still has one, and nothing else has. -/
theorem carriesUsage_spread (choices : Choices) (seeds : List Seed) (id : NodeId) :
    ((spread catalogue choices sparesBase seeds).nodeAt id).carriesUsage =
      (catalogue.nodeAt id).carriesUsage := by
  -- Pruning leaves usage, and sowing leaves whether there is one.
  rw [spread_eq, Node.carriesUsage, usage?_prune, ← Node.carriesUsage, ← Node.carriesUsage_bare,
    bare_sown, Node.carriesUsage_bare]

/-- Access and forgotten subtypes do not bear on usage. -/
theorem usage?_spread (choices : Choices) (seeds : List Seed) (id : NodeId) :
    ((spread catalogue choices sparesBase seeds).nodeAt id).usage? =
      (((chosenSeeds catalogue choices ++ seeds).foldl (Seed.apply sparesBase)
        (catalogue.map (·.setAccess none))).nodeAt id).usage? := by
  rw [spread_eq, usage?_prune, sown, Catalogue.nodeAt_map _ rfl, usage?_chooseAccess]

/-- What a noted type leads to is used in the end, if its usage is one that is passed on. -/
theorem isUsed_spread {choices : Choices} {seeds : List Seed} {seed : Seed} (noted : seed ∈ seeds)
    (passed : seed.usage.IsPassedOn) {id : NodeId}
    (leads : ReflTransGen ((spread catalogue choices sparesBase seeds).Leads sparesBase)
      seed.type id) {usage : Usage}
    (carried : ((spread catalogue choices sparesBase seeds).nodeAt id).usage? = some usage) :
    usage.isEmpty = false := by
  rw [usage?_spread] at carried
  generalize isStart : catalogue.map (·.setAccess none) = start at carried
  -- The way is one of the catalogue that the walks start from, where no subtype is forgotten.
  have reached : ReflTransGen (start.Leads sparesBase) seed.type id := by
    refine ReflTransGen.mono (fun id other step => ?_) _ _ leads
    have same : (start.nodeAt id).bare = (catalogue.nodeAt id).bare := by
      rw [← isStart, Catalogue.nodeAt_map _ rfl, bare_setAccess]
    exact (leads_congr same).mpr (leads_of_spread step)
  cases unused : (start.nodeAt id).usage? with
  | none =>
    rw [usage?_seeds_none _ unused] at carried
    cases carried
  | some before =>
    obtain ⟨after, found, ways⟩ :=
      usage?_seeds sparesBase (chosenSeeds catalogue choices ++ seeds) unused
    obtain rfl := Option.some.inj (found.symm.trans carried)
    obtain ⟨way, has, notSpread⟩ := passed
    -- The seed brings its way of use, on whatever way it gets there.
    have brings : seed.Brings start sparesBase id way :=
      (Catalogue.forwards_or_includes reached).imp (⟨·, has⟩) (⟨·, has, notSpread⟩)
    have isUsed := (ways way).mpr (Or.inr ⟨seed, List.mem_append_right _ noted, brings⟩)
    exact Usage.isEmpty_of_has isUsed

/-- In the end, a node that was not used to begin with has what seeds bring to it. -/
theorem usage?_spread_of_unused (choices : Choices) (sparesBase : Bool) (seeds : List Seed)
    {id : NodeId} (unused : (catalogue.nodeAt id).usage? = some .none) :
    ∃ usage, ((spread catalogue choices sparesBase seeds).nodeAt id).usage? = some usage ∧
      ∀ way, usage.Has way ↔
        ∃ seed ∈ chosenSeeds catalogue choices ++ seeds,
          seed.Brings catalogue sparesBase id way := by
  have begins : ((catalogue.map (·.setAccess none)).nodeAt id).usage? = some .none := by
    rw [Catalogue.nodeAt_map _ rfl, usage?_setAccess, unused]
  obtain ⟨usage, found, ways⟩ :=
    usage?_seeds sparesBase (chosenSeeds catalogue choices ++ seeds) begins
  refine ⟨usage, by rwa [usage?_spread], fun way => ?_⟩
  -- Taking all access back leaves the bare nodes, and so the ways that seeds take.
  have same (id : NodeId) : ((catalogue.map (·.setAccess none)).nodeAt id).bare =
      (catalogue.nodeAt id).bare := by
    rw [Catalogue.nodeAt_map _ rfl, bare_setAccess]
  simp only [ways, brings_congr same, or_iff_right (Usage.not_has_none way)]

/-- What a noted type refers to is used in all ways that are passed on. -/
theorem has_spread_of_refersTo {choices : Choices} {seeds : List Seed} {seed : Seed} {id : NodeId}
    {way : Nat} (noted : seed ∈ seeds) (has : seed.usage.Has way)
    (passed : ¬ Usage.spread.Has way) (refers : catalogue.RefersTo sparesBase seed.type id)
    (unused : (catalogue.nodeAt id).usage? = some .none) :
    ∃ usage, ((spread catalogue choices sparesBase seeds).nodeAt id).usage? = some usage ∧
      usage.Has way := by
  -- The seed reaches the node in one step by a reference, and has the way to give.
  obtain ⟨usage, found, ways⟩ := usage?_spread_of_unused choices sparesBase seeds unused
  exact ⟨usage, found, (ways way).mpr ⟨seed, List.mem_append_right _ noted,
    Or.inr ⟨⟨_, _, .refl, refers, .refl⟩, has, passed⟩⟩⟩

/-- A way of use stays among nodes that lead to no others, if it is planted there alone. -/
theorem not_has_spread_of_closed (among : List NodeId) {choices : Choices} {seeds : List Seed}
    {id : NodeId} {way : Nat} (planted : ∀ seed ∈ chosenSeeds catalogue choices ++ seeds,
      seed.usage.Has way → seed.type ∈ among)
    (closed : ∀ id ∈ among, ∀ next ∈ onward sparesBase (catalogue.nodeAt id) .none,
      next.1 ∈ among)
    (outside : id ∉ among) (unused : (catalogue.nodeAt id).usage? = some .none) {usage : Usage}
    (found : ((spread catalogue choices sparesBase seeds).nodeAt id).usage? = some usage) :
    ¬ usage.Has way := by
  obtain ⟨same, foundSame, ways⟩ := usage?_spread_of_unused choices sparesBase seeds unused
  obtain rfl := Option.some.inj (foundSame.symm.trans found)
  rw [ways way]
  rintro ⟨seed, isPlanted, brings⟩
  -- By induction on the way that the seed takes, which never leaves the nodes.
  have inside (other : NodeId) (leads : ReflTransGen (catalogue.Leads sparesBase) seed.type other) :
      other ∈ among := by
    induction leads with
    | refl => exact planted seed isPlanted brings.has
    | tail _ step ih =>
      obtain ⟨passed, told⟩ := leads_iff_onward.mp step
      exact closed _ ih _ told
  exact outside (inside id brings.leads)

/-- What is not used to begin with, and no seed leads to, is not used in the end. -/
theorem usage?_spread_of_apart {choices : Choices} {seeds : List Seed} {id : NodeId}
    (unused : (catalogue.nodeAt id).usage? = some .none)
    (apart : ∀ seed ∈ chosenSeeds catalogue choices ++ seeds,
      ¬ ReflTransGen (catalogue.Leads sparesBase) seed.type id) :
    ((spread catalogue choices sparesBase seeds).nodeAt id).usage? = some .none := by
  obtain ⟨usage, found, ways⟩ := usage?_spread_of_unused choices sparesBase seeds unused
  rw [found]
  congr 1
  refine Usage.ext_has fun way => ?_
  rw [ways way, iff_false_right (Usage.not_has_none way)]
  rintro ⟨seed, planted, brings⟩
  -- A way that a seed brings comes along what its type leads to.
  exact apart seed planted brings.leads

end Derivation

end ClientModel
