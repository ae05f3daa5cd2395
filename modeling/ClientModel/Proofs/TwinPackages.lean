import Mathlib.Data.List.Induction
import ClientModel.Proofs.Access
import ClientModel.Proofs.TwinClients

/-!
Packages of two runs that are given almost the same.

Spreading usage and access asks nothing of names, and fewer seeds only ever lead to less usage. So
what two runs have found alike shows alike in their packages.
-/

namespace ClientModel

/-! ## Reports -/

namespace Diagnostics

/-- A last report is kept unless it was made before. -/
theorem distinct_append (reports : List Diagnostic) (last : Diagnostic) :
    distinct (reports ++ [last]) =
      if (distinct reports).contains last then distinct reports
      else distinct reports ++ [last] := by
  -- Reports are gone through from the left, so the last one is looked at last.
  rw [distinct, List.foldl_append]
  rfl

/-- Reports that are told apart are the same reports. -/
@[simp] theorem mem_distinct {reports : List Diagnostic} {report : Diagnostic} :
    report ∈ distinct reports ↔ report ∈ reports := by
  -- By induction from the last report, which is there before or joins at the end.
  induction reports using List.reverseRecOn with
  | nil => rfl
  | append_singleton reports last ih =>
    rw [distinct_append]
    split
    · rename_i there
      have listed : last ∈ distinct reports := by simpa using there
      constructor
      · exact fun known => List.mem_append_left _ (ih.mp known)
      · intro known
        rcases List.mem_append.mp known with earlier | isLast
        · exact ih.mpr earlier
        · exact List.mem_singleton.mp isLast ▸ listed
    · rw [List.mem_append, List.mem_append, ih]

/-- Reports of some kind are told apart among themselves. -/
theorem filter_distinct (wanted : Diagnostic → Bool) (reports : List Diagnostic) :
    (distinct reports).filter wanted = distinct (reports.filter wanted) := by
  -- By induction from the last report; those of another kind do not matter.
  induction reports using List.reverseRecOn with
  | nil => rfl
  | append_singleton reports last ih =>
    have there : (distinct (reports.filter wanted)).contains last =
        (wanted last && (distinct reports).contains last) := by
      rw [Bool.eq_iff_iff]
      simp [and_comm]
    rw [distinct_append, List.filter_append]
    cases isWanted : wanted last with
    | false =>
      have none : [last].filter wanted = [] := by simp [isWanted]
      rw [none, List.append_nil, ← ih]
      split
      · rfl
      · rw [List.filter_append, none, List.append_nil]
    | true =>
      have one : [last].filter wanted = [last] := by simp [isWanted]
      rw [isWanted, Bool.true_and] at there
      rw [one, distinct_append, there, ← ih]
      split
      · rfl
      · rw [List.filter_append, one]

end Diagnostics

/-! ## Nodes -/

namespace Node

/-- A node without its usage and access, and without the subtypes of a model. -/
def stem (node : Node) : Node :=
  { node with kind := node.kind.core }

/-- A stem shows nothing of usage and access. -/
theorem stem_bare (node : Node) : node.bare.stem = node.stem := by
  obtain ⟨origin, nullable, deprecation, doc, kind⟩ := node
  cases kind <;> rfl

/-- A stem shows nothing of subtypes. -/
theorem stem_subtypes (node : Node) (change : ModelNode → Option (OrderedMap String NodeId)) :
    (node.mapModel fun model => { model with subtypes := change model }).stem = node.stem := by
  obtain ⟨origin, nullable, deprecation, doc, kind⟩ := node
  cases kind <;> rfl

/-- A stem shows the name. -/
theorem name?_stem (node : Node) : node.stem.name? = node.name? := by
  obtain ⟨origin, nullable, deprecation, doc, kind⟩ := node
  cases kind <;> rfl

/-- Usage is told without names. -/
theorem usage?_unnamed (node : Node) : node.unnamed.usage? = node.usage? := by
  obtain ⟨origin, nullable, deprecation, doc, kind⟩ := node
  cases kind <;> rfl

end Node

namespace Derivation

open Service (Choices Definition)

variable {catalogue : Catalogue} {choices : Choices} {sparesBase : Bool}

/-- Spreading leaves the stems of all nodes as they are. -/
theorem stem_nodeAt_spread (seeds : List Seed) (id : NodeId) :
    ((spread catalogue choices sparesBase seeds).nodeAt id).stem =
      (catalogue.nodeAt id).stem := by
  rw [spread_eq, nodeAt_prune, Node.stem_subtypes, ← Node.stem_bare, bare_sown, Node.stem_bare]

/-- All but usage, access and subtypes is as it was before seeds were spread. -/
theorem stem_spread (catalogue : Catalogue) (choices : Choices) (sparesBase : Bool)
    (seeds : List Seed) :
    (spread catalogue choices sparesBase seeds).map Node.stem = catalogue.map Node.stem := by
  -- Catalogues are compared node by node.
  apply Catalogue.ext_nodeAt
  · rw [Catalogue.size_map, Catalogue.size_map, sameCores_spread.size]
  · intro id
    rw [Catalogue.nodeAt_map _ rfl, Catalogue.nodeAt_map _ rfl, stem_nodeAt_spread]

/-- Further seeds only add to usage. -/
theorem usage?_spread_mono {seeds more : List Seed} (kept : seeds ⊆ more) {id : NodeId}
    {usage : Usage}
    (carried : ((spread catalogue choices sparesBase seeds).nodeAt id).usage? = some usage) :
    ∃ whole, ((spread catalogue choices sparesBase more).nodeAt id).usage? = some whole ∧
      usage.Subset whole := by
  -- Without usage to begin with there is none to add to.
  rw [usage?_spread] at carried ⊢
  cases start : ((catalogue.map (·.setAccess none)).nodeAt id).usage? with
  | none =>
    rw [usage?_seeds_none _ start] at carried
    cases carried
  | some before =>
    obtain ⟨less, found, ways⟩ :=
      usage?_seeds sparesBase (chosenSeeds catalogue choices ++ seeds) start
    obtain ⟨whole, foundAll, allWays⟩ :=
      usage?_seeds sparesBase (chosenSeeds catalogue choices ++ more) start
    -- A way was there before, or a seed brought it, which is among the further ones.
    obtain rfl := Option.some.inj (found.symm.trans carried)
    refine ⟨whole, foundAll, fun way has => ?_⟩
    rw [ways] at has
    rw [allWays]
    rcases has with had | ⟨seed, planted, brings⟩
    · exact Or.inl had
    · refine Or.inr ⟨seed, ?_, brings⟩
      rw [List.mem_append] at planted ⊢
      exact planted.imp_right fun noted => kept noted

/-! ## Names -/

/-- A node of a catalogue without names is the node without its name. -/
theorem nodeAt_unnamed (catalogue : Catalogue) (id : NodeId) :
    (catalogue.map Node.unnamed).nodeAt id = (catalogue.nodeAt id).unnamed :=
  Catalogue.nodeAt_map _ rfl id

/-- A node is marked without regard to its name. -/
theorem unnamed_mark (node : Node) (usage : Usage) (access : Access) :
    (mark node usage access).unnamed = mark node.unnamed usage access :=
  node.unnamed_mapUse _

/-- Access is set without regard to names. -/
theorem unnamed_setAccess (node : Node) (access : Option Access) :
    (node.setAccess access).unnamed = node.unnamed.setAccess access :=
  node.unnamed_mapUse _

/-- Where a node leads is told without names. -/
theorem onward_unnamed (node : Node) (usage : Usage) :
    onward sparesBase node.unnamed usage = onward sparesBase node usage := by
  -- Only a model has names of its own in what leads on, namely those of its properties.
  obtain ⟨origin, nullable, deprecation, doc, kind⟩ := node
  cases kind with
  | model model =>
    simp only [onward, Node.unnamed, NodeKind.unnamed, ModelNode.unnamed, List.map_map]
    rfl
  | _ => rfl

/-- A seed visits the same nodes without names. -/
theorem visits_unnamed (seed : Seed) (catalogue : Catalogue) :
    seed.visits (catalogue.map Node.unnamed) sparesBase = seed.visits catalogue sparesBase := by
  -- The walk is told by what nodes lead to, and no name takes part in that.
  have ids : (catalogue.map Node.unnamed).ids = catalogue.ids := by
    simp only [Catalogue.ids, Catalogue.size_map]
  rw [Seed.visits, ids]
  apply visits_congr
  intro id usage
  rw [Catalogue.nodeAt_map _ rfl, onward_unnamed]

/-- A change that does not look at names is made to a table without names just as well. -/
theorem map_modify_unnamed (catalogue : Catalogue) (id : NodeId) {change : Node → Node}
    (same : ∀ node, (change node).unnamed = change node.unnamed) :
    (catalogue.modify id change).map Node.unnamed =
      (catalogue.map Node.unnamed).modify id change := by
  -- The catalogues are compared node by node: the one that changes, those out of range, the rest.
  apply Catalogue.ext_nodeAt
  · simp
  · intro other
    rw [Catalogue.nodeAt_map _ rfl]
    by_cases isChanged : other = id
    · subst isChanged
      by_cases inside : other.index < catalogue.size
      · rw [Catalogue.nodeAt_modify_self _ inside, same,
          Catalogue.nodeAt_modify_self _ (by simpa using inside), Catalogue.nodeAt_map _ rfl]
      · rw [Catalogue.nodeAt_of_ge _ (by simpa using inside),
          Catalogue.nodeAt_of_ge _ (by simpa using inside)]
        rfl
    · rw [Catalogue.nodeAt_modify_ne _ isChanged, Catalogue.nodeAt_modify_ne _ isChanged,
        Catalogue.nodeAt_map _ rfl]

/-- A change of all nodes may be made before or after the names are left out. -/
theorem map_map_unnamed (catalogue : Catalogue) {change : Node → Node}
    (same : ∀ node, (change node).unnamed = change node.unnamed) :
    (catalogue.map change).map Node.unnamed = (catalogue.map Node.unnamed).map change := by
  -- Both maps are over the same list of nodes.
  simp only [Catalogue.map, Array.map_map, Catalogue.mk.injEq]
  exact Array.map_congr_left fun node _ => same node

/-- A seed is applied without regard to names. -/
theorem apply_unnamed (seed : Seed) (catalogue : Catalogue) :
    (seed.apply sparesBase catalogue).map Node.unnamed =
      seed.apply sparesBase (catalogue.map Node.unnamed) := by
  -- By induction on the nodes that are met, each of which is marked.
  have marks (met : List (NodeId × Usage)) (catalogue : Catalogue) :
      (met.foldl (fun marked entry => marked.modify entry.1 fun node =>
        mark node entry.2 seed.access) catalogue).map Node.unnamed =
      met.foldl (fun marked entry => marked.modify entry.1 fun node =>
        mark node entry.2 seed.access) (catalogue.map Node.unnamed) := by
    induction met generalizing catalogue with
    | nil => rfl
    | cons entry rest ih =>
      rw [List.foldl_cons, ih, List.foldl_cons]
      rw [map_modify_unnamed catalogue entry.1 fun node => unnamed_mark node entry.2 seed.access]
  rw [Seed.apply, Seed.apply, visits_unnamed]
  exact marks _ catalogue

/-- Seeds are applied without regard to names. -/
theorem apply_all_unnamed (seeds : List Seed) (catalogue : Catalogue) :
    (seeds.foldl (Seed.apply sparesBase) catalogue).map Node.unnamed =
      seeds.foldl (Seed.apply sparesBase) (catalogue.map Node.unnamed) := by
  -- By induction on the seeds.
  induction seeds generalizing catalogue with
  | nil => rfl
  | cons seed seeds ih => rw [List.foldl_cons, ih, apply_unnamed, List.foldl_cons]

/-- The same seeds are chosen without names. -/
theorem chosenSeeds_unnamed (catalogue : Catalogue) :
    chosenSeeds (catalogue.map Node.unnamed) choices = chosenSeeds catalogue choices := by
  have ids : (catalogue.map Node.unnamed).ids = catalogue.ids := by
    simp only [Catalogue.ids, Catalogue.size_map]
  have origin (node : Node) : node.unnamed.origin = node.origin := rfl
  have carries (node : Node) : node.unnamed.carriesUsage = node.carriesUsage := by
    rw [Node.carriesUsage, Node.usage?_unnamed, Node.carriesUsage]
  -- They go by the origins of the nodes that carry usage.
  rw [chosenSeeds, ids, chosenSeeds]
  apply List.filterMap_congr
  intro id _
  dsimp only
  rw [nodeAt_unnamed, carries, origin]

/-- Access is chosen without regard to names. -/
theorem chooseAccess_unnamed (node : Node) :
    (chooseAccess choices node).unnamed = chooseAccess choices node.unnamed := by
  have origin : node.unnamed.origin = node.origin := rfl
  unfold chooseAccess
  -- It goes by the origin of the node.
  rw [origin]
  split
  · exact Node.unnamed_mapUse node _
  · rfl

/-- Catalogues are pruned without regard to names. -/
theorem prune_unnamed (catalogue : Catalogue) :
    (prune catalogue).map Node.unnamed = prune (catalogue.map Node.unnamed) := by
  -- The same subtypes are used, which are told by the usage of their nodes.
  have used : usedSubtypes (catalogue.map Node.unnamed) = usedSubtypes catalogue := by
    funext subtypes
    simp only [usedSubtypes, nodeAt_unnamed, Node.usage?_unnamed]
  rw [prune, map_map_unnamed, prune, used]
  rintro ⟨origin, nullable, deprecation, doc, kind⟩
  cases kind <;> rfl

/-- Usage and access spread alike, whatever nodes are called. -/
theorem spread_unnamed (catalogue : Catalogue) (choices : Choices) (sparesBase : Bool)
    (seeds : List Seed) :
    (spread catalogue choices sparesBase seeds).map Node.unnamed =
      spread (catalogue.map Node.unnamed) choices sparesBase seeds := by
  -- Spreading is sowing and pruning, and each of their steps can do without names.
  rw [spread_eq, prune_unnamed, sown, map_map_unnamed _ chooseAccess_unnamed, apply_all_unnamed,
    map_map_unnamed catalogue fun node => unnamed_setAccess node none, spread_eq, sown,
    chosenSeeds_unnamed]

/-! ## Reports and exports -/

/-- Reports are added one after the other. -/
theorem reports_foldl_add (reports : List Diagnostic) (diagnostics : Diagnostics) :
    (reports.foldl Diagnostics.add diagnostics).reports = diagnostics.reports ++ reports := by
  -- By induction on the reports that are added.
  induction reports generalizing diagnostics with
  | nil => rw [List.foldl_nil, List.append_nil]
  | cons report reports ih => rw [List.foldl_cons, ih, Diagnostics.add, List.append_assoc]; rfl

/-- The types of a kind that are used. -/
def usedOf (catalogue : Catalogue) (isOfKind : Node → Bool) : List NodeId :=
  catalogue.ids.filter fun id =>
    isOfKind (catalogue.nodeAt id) &&
      (catalogue.nodeAt id).usage?.any fun usage => !usage.isEmpty

section

variable (state : State) (context : Context) (clients : List Client)

/-- The reports of a package: those of the run, and after them the conflicts. -/
theorem diagnostics_package :
    (state.package context clients).diagnostics =
      Diagnostics.distinct (state.diagnostics.reports ++
        (multipartConflicts (state.package context clients).catalogue state.bodyFormats).map
          (conflictReport (state.package context clients).catalogue)) := by
  -- Conflicts are reported when the package is made, so they come last.
  rw [← reports_foldl_add]
  rfl

/-- The models of a package are those of its catalogue that are used. -/
theorem models_package : (state.package context clients).models =
    usedOf (state.package context clients).catalogue (·.model?.isSome) :=
  rfl

/-- The enums of a package are those of its catalogue that are used. -/
theorem enums_package : (state.package context clients).enums =
    usedOf (state.package context clients).catalogue (·.enumeration?.isSome) :=
  rfl

/-- The unions of a package are those of its catalogue that have a name and are used. -/
theorem unions_package : (state.package context clients).unions =
    usedOf (state.package context clients).catalogue fun node =>
      node.union?.any fun union => union.name.isSome :=
  rfl

end

/-! ## What is chosen -/

/-- Only what is chosen about usage and access counts. -/
theorem spread_congr {other : Choices} (usage? : other.usage? = choices.usage?)
    (access? : other.access? = choices.access?) (seeds : List Seed) :
    spread catalogue other sparesBase seeds = spread catalogue choices sparesBase seeds := by
  -- The choices come in by the seeds and by the access of nodes.
  have chosen : chosenSeeds catalogue other = chosenSeeds catalogue choices := by
    rw [chosenSeeds, usage?, access?, chosenSeeds]
  have access : chooseAccess other = chooseAccess choices := by
    funext node
    simp only [chooseAccess, access?]
  rw [spread_eq, sown, chosen, access, spread_eq, sown]

/-! ## Packages -/

variable {slack : Slack} {context other : Context} {left right : State}

/-- Where names may not differ, the tables of two runs are one. -/
theorem Twin.sameCatalogue (twin : Twin slack left right) (bound : ¬ slack.free) :
    right.catalogue = left.catalogue :=
  Catalogue.ext_nodeAt twin.size fun id => (twin.nodes id).same.resolve_left bound

/-- Twin runs have found the same nodes but for names. -/
theorem Twin.unnamed (twin : Twin slack left right) :
    right.catalogue.map Node.unnamed = left.catalogue.map Node.unnamed := by
  -- Catalogues are compared node by node.
  apply Catalogue.ext_nodeAt
  · simpa using twin.size
  · intro id
    rw [Catalogue.nodeAt_map _ rfl, Catalogue.nodeAt_map _ rfl, (twin.nodes id).unnamed]

/-- Where there is no slack, two runs have found the same. -/
theorem Twin.eq (twin : Twin slack left right) (bound : ¬ slack.free)
    (wanted : ∀ operation, slack.quiet operation = false) : right = left := by
  -- Part by part, nothing is left in which the two might differ.
  have catalogue := twin.sameCatalogue bound
  have names := twin.names.resolve_left bound
  obtain ⟨seeds, bodyFormats⟩ := twin.full wanted
  have declared := twin.declared
  have builtins := twin.builtins
  have clientParameters := twin.clientParameters
  have endpoints := twin.endpoints
  have credentials := twin.credentials
  have diagnostics := twin.diagnostics
  cases left
  cases right
  simp only [State.mk.injEq]
  exact ⟨catalogue, declared, builtins, names, clientParameters, endpoints, credentials, seeds,
    bodyFormats, diagnostics⟩

/-- A package comes of how the run of its clients goes. -/
theorem derivePackage_run {definition : Definition} {options : Options}
    {outcome : Except Failure (List Client)} {state : State}
    (run : (Context.of definition options).clients {} = (outcome, state)) :
    derivePackage definition options =
      outcome.map (state.package (Context.of definition options)) := by
  -- The state of the run is read only where there are clients.
  have same : (Context.of definition options).clients.run {} = (outcome, state) := run
  rw [derivePackage, same]

/-- Two runs that are given almost the same fail alike, or end with almost the same. -/
theorem derivePackage_siblings {definition other : Definition} {options others : Options}
    (sibling : Sibling slack (Context.of definition options) (Context.of other others)) :
    (∃ failure, derivePackage definition options = .error failure ∧
      derivePackage other others = .error failure) ∨
    ∃ left right clients, Twin slack left right ∧
      derivePackage definition options =
        .ok (left.package (Context.of definition options) clients) ∧
      derivePackage other others = .ok (right.package (Context.of other others)
        (clients.map (Client.mapMethods slack.adapt))) := by
  -- The runs begin from the same state, and so stay twins.
  have meets := Pair.clients sibling {} {} Twin.start
  rcases here : (Context.of definition options).clients {} with ⟨outcome, left⟩
  rcases there : (Context.of other others).clients {} with ⟨outcome', right⟩
  rw [derivePackage_run here, derivePackage_run there]
  rw [here, there] at meets
  cases meets with
  | ok same twin =>
    subst same
    exact Or.inr ⟨left, right, _, twin, rfl, rfl⟩
  | @error failure _ _ _ => exact Or.inl ⟨failure, rfl, rfl⟩

/-- A package is made alike of what was found. -/
theorem Sibling.package (sibling : Sibling slack context other) (state : State) :
    state.package other = state.package context := by
  -- What is chosen for usage and access is the same in both.
  funext clients
  simp only [State.package, spread_congr sibling.usage? sibling.access?, sibling.options]

/-- Where the same methods are wanted, the clients of two packages are the same. -/
theorem derivePackage_wanted {definition other : Definition} {options others : Options}
    (sibling : Sibling slack (Context.of definition options) (Context.of other others))
    (wanted : ∀ operation, slack.quiet operation = false) :
    (∃ failure, derivePackage definition options = .error failure ∧
      derivePackage other others = .error failure) ∨
    ∃ left right clients, Twin slack left right ∧
      derivePackage definition options =
        .ok (left.package (Context.of definition options) clients) ∧
      derivePackage other others =
        .ok (right.package (Context.of definition options) clients) := by
  refine (derivePackage_siblings sibling).imp_right ?_
  rintro ⟨left, right, clients, twin, here, there⟩
  -- No method is adapted.
  have same : Client.mapMethods slack.adapt = id := by
    funext client
    rw [Slack.adapt_eq_id wanted, Client.mapMethods_id, id]
  rw [sibling.package, same, List.map_id] at there
  exact ⟨left, right, clients, twin, here, there⟩

/-- What is given without any slack comes to the same package. -/
theorem derivePackage_congr {definition other : Definition} {options : Options}
    (sibling : Sibling {} (Context.of definition options) (Context.of other options)) :
    derivePackage other options = derivePackage definition options := by
  -- Where there is no slack, no operation is left out.
  have wanted (operation : OperationId) : ({} : Slack).quiet operation = false := rfl
  rcases derivePackage_wanted sibling wanted with
    ⟨failure, here, there⟩ | ⟨left, right, clients, twin, here, there⟩
  · rw [here, there]
  · have same : right = left := twin.eq (fun free => free) wanted
    rw [here, there, same]

end Derivation

end ClientModel
