import ClientModel.Proofs.Methods
import ClientModel.Proofs.Spread

/-!
Which of the subtypes that were collected for a model are left in the package.

Those that are used are left, in their order, if there are two of them. Models may be bases and
subtypes of each other; still what is left of one does not depend on what is left of others, so
that they may be looked at in any order.
-/

namespace ClientModel

namespace Catalogue

/-- The entries whose nodes are used. -/
def usedEntries (catalogue : Catalogue) (map : OrderedMap String NodeId) : List (String × NodeId) :=
  map.entries.filter fun (_, id) => (catalogue.nodeAt id).usage?.any fun usage => !usage.isEmpty

/-- Of what was collected are kept the entries in use, where there are two of them. -/
structure KeepsUsed (catalogue : Catalogue) (collected kept : Option (OrderedMap String NodeId)) :
    Prop where
  isSome_iff : kept.isSome ↔ ∃ map, collected = some map ∧ 2 ≤ (catalogue.usedEntries map).length
  entries_eq : ∀ map left, collected = some map → kept = some left →
    left.entries = catalogue.usedEntries map

/-- What is kept is told by what is used of what was collected. -/
theorem KeepsUsed.map_entries {catalogue : Catalogue}
    {collected kept : Option (OrderedMap String NodeId)}
    (keeps : catalogue.KeepsUsed collected kept) :
    kept.map OrderedMap.entries =
      (collected.map catalogue.usedEntries).filter fun entries => 2 ≤ entries.length := by
  -- By whether anything was collected, and then by whether two or more entries of it are used.
  cases collected with
  | none => simpa using keeps.isSome_iff
  | some map =>
    cases kept with
    | none => simpa [Option.filter] using keeps.isSome_iff
    | some left =>
      have several := keeps.isSome_iff
      simp only [Option.isSome_some, Option.some.injEq, exists_eq_left', true_iff] at several
      simp [keeps.entries_eq map left rfl rfl, Option.filter, several]

end Catalogue

namespace Derivation

open Relation (ReflTransGen)
open Service (Definition Operation PropertyDecl)

variable {catalogue : Catalogue}

/-! ## One model -/

/-- What is left of the subtypes of one model are those in use, if there are two of them. -/
theorem usedSubtypes_eq (catalogue : Catalogue) (subtypes : OrderedMap String NodeId) :
    usedSubtypes catalogue subtypes =
      if (catalogue.usedEntries subtypes).length ≤ 1 then none
      else some (subtypes.filterValues fun id =>
        (catalogue.nodeAt id).usage?.any fun usage => !usage.isEmpty) := rfl

/-- What a map of subtypes is cut down to keeps exactly what is used. -/
theorem keepsUsed_usedSubtypes (catalogue : Catalogue)
    (collected : Option (OrderedMap String NodeId)) :
    catalogue.KeepsUsed collected (collected.bind (usedSubtypes catalogue)) := by
  cases collected with
  | none => exact ⟨by simp, by simp⟩
  | some map =>
    -- The entries in use are counted first: fewer than two leave no map at all.
    rw [Option.bind_some, usedSubtypes_eq]
    split
    · rename_i few
      exact ⟨by simpa using Nat.lt_succ_of_le few, by simp⟩
    · rename_i several
      refine ⟨by simpa using Nat.succ_le_of_lt (Nat.lt_of_not_le several), ?_⟩
      rintro map left ⟨⟩ ⟨⟩
      rfl

/-- What is used is told by the usage of nodes alone. -/
theorem usedEntries_congr {before after : Catalogue}
    (same : ∀ id, (after.nodeAt id).usage? = (before.nodeAt id).usage?) :
    after.usedEntries = before.usedEntries := by
  -- Of a subtype nothing but its usage is asked.
  funext map
  simp only [Catalogue.usedEntries, same]

/-- Which subtypes are used is told by what usage the nodes have. -/
theorem usedSubtypes_congr {before after : Catalogue}
    (same : ∀ id, (after.nodeAt id).usage? = (before.nodeAt id).usage?) :
    usedSubtypes after = usedSubtypes before := by
  -- Of the model itself, too, nothing but usage is asked.
  funext subtypes
  simp only [usedSubtypes_eq, usedEntries_congr same, same]

/-- Looking a second time at what is left leaves it. -/
theorem usedSubtypes_idem (collected : Option (OrderedMap String NodeId)) :
    (collected.bind (usedSubtypes catalogue)).bind (usedSubtypes catalogue) =
      collected.bind (usedSubtypes catalogue) := by
  cases collected with
  | none => rfl
  | some map =>
    have still : catalogue.usedEntries (map.filterValues fun id =>
        (catalogue.nodeAt id).usage?.any fun usage => !usage.isEmpty) =
          catalogue.usedEntries map := by
      simp [Catalogue.usedEntries, OrderedMap.filterValues]
    rw [Option.bind_some, usedSubtypes_eq]
    split
    · rfl
    · rename_i several
      -- What is used of the entries in use are all of them, so that the same map is left.
      rw [Option.bind_some, usedSubtypes_eq, still, if_neg several]
      exact congrArg some (OrderedMap.ext still)

/-! ## One model after another -/

/-- The node with only the subtypes that are used as a catalogue has it. -/
def pruned (catalogue : Catalogue) (node : Node) : Node :=
  node.mapModel fun model => { model with subtypes := model.subtypes.bind (usedSubtypes catalogue) }

/-- The catalogue with only the used subtypes of one model, whatever is left of others. -/
def pruneAt (catalogue : Catalogue) (id : NodeId) : Catalogue :=
  catalogue.modify id (pruned catalogue)

/-- To prune twice is to prune once. -/
theorem pruned_idem (catalogue : Catalogue) (node : Node) :
    pruned catalogue (pruned catalogue node) = pruned catalogue node := by
  cases kind : node.kind <;> simp [pruned, Node.mapModel, kind, usedSubtypes_idem]

/-- Looking at one model changes its node alone. -/
theorem nodeAt_pruneAt (catalogue : Catalogue) (id other : NodeId) :
    (pruneAt catalogue id).nodeAt other =
      if other = id then pruned catalogue (catalogue.nodeAt other) else catalogue.nodeAt other := by
  -- The node that is looked at is modified in place.
  rw [pruneAt, Catalogue.nodeAt_modify _ rfl]
  split
  · rename_i same
    rw [same]
  · rfl

/-- Looking at a model leaves all usage as it is. -/
theorem usage?_pruneAt (catalogue : Catalogue) (id other : NodeId) :
    ((pruneAt catalogue id).nodeAt other).usage? = (catalogue.nodeAt other).usage? := by
  rw [nodeAt_pruneAt]
  -- It is the usage of the pruned catalogue at one place, and of the catalogue itself at the
  -- others.
  split
  · rw [pruned, ← nodeAt_prune, usage?_prune]
  · rfl

/-- The models that are looked at, in whatever order and how often ever, end as if all were. -/
theorem nodeAt_foldl_pruneAt (catalogue : Catalogue) (order : List NodeId) (id : NodeId) :
    (order.foldl pruneAt catalogue).nodeAt id =
      if id ∈ order then (prune catalogue).nodeAt id else catalogue.nodeAt id := by
  -- By induction on the order: what comes later finds the usage that the first model was judged by.
  induction order generalizing catalogue with
  | nil => simp
  | cons first order ih =>
    have judged : pruned (pruneAt catalogue first) = pruned catalogue := by
      funext node
      rw [pruned, usedSubtypes_congr (usage?_pruneAt catalogue first), pruned]
    have all (before : Catalogue) : (prune before).nodeAt id = pruned before (before.nodeAt id) :=
      nodeAt_prune before id
    rw [List.foldl_cons, ih, all, all, judged, nodeAt_pruneAt]
    by_cases isFirst : id = first
    · simp [isFirst, pruned_idem]
    · simp [isFirst]

/-- The catalogue keeps its size while models are looked at. -/
theorem size_foldl_pruneAt (catalogue : Catalogue) (order : List NodeId) :
    (order.foldl pruneAt catalogue).size = catalogue.size := by
  -- By induction on the order: to look at a model is a change in its place.
  induction order generalizing catalogue with
  | nil => rfl
  | cons first order ih => rw [List.foldl_cons, ih, pruneAt, Catalogue.size_modify]

/-- Looking at all models one by one is looking at all of them at once. -/
theorem foldl_pruneAt {order : List NodeId} (all : catalogue.ids ⊆ order) :
    order.foldl pruneAt catalogue = prune catalogue := by
  -- Every node in range is looked at by then, and beyond the range there is nothing to look at.
  have size : (prune catalogue).size = catalogue.size := by simp [prune]
  refine Catalogue.ext_nodeAt ((size_foldl_pruneAt catalogue order).trans size.symm) fun id => ?_
  rw [nodeAt_foldl_pruneAt]
  split
  · rfl
  · rename_i missing
    have outside : catalogue.size ≤ id.index :=
      Nat.le_of_not_lt fun inside => missing (all (catalogue.mem_ids.mpr inside))
    rw [catalogue.nodeAt_of_ge outside, Catalogue.nodeAt_of_ge _ (by rwa [size])]

/-! ## Packages -/

/-- What a run has found, with all usage and access, before subtypes are forgotten. -/
def sownState (definition : Definition) (options : Options) : Catalogue :=
  sown (finalState definition options).catalogue (Context.of definition options).choices
    options.sparesBase (finalState definition options).seeds

/-- The catalogue of a package is the sown one, cut down. -/
theorem catalogue_eq_prune {definition : Definition} {options : Options} {package : Package}
    (derived : derivePackage definition options = .ok package) :
    package.catalogue = prune (sownState definition options) := by
  -- A package is made of the final state by spreading usage and then pruning.
  obtain ⟨clients, _, rfl⟩ := derivePackage_ok derived
  rfl

/--
Of the subtypes that were collected for a model, a package keeps those that it uses, in their
order, where there are two of them at least; otherwise it keeps none.

What a model keeps has no effect on others. Once all usage is known, models may be pruned one after
another, each by the usage found at its turn: in any order, those that had their turn are as in the
package, and the others still have all that was collected.
-/
theorem used_subtypes_are_kept {definition : Definition} {options : Options} {package : Package}
    (derived : derivePackage definition options = .ok package) :
    (∀ id, (package.catalogue.model? id).isSome =
      ((finalState definition options).catalogue.model? id).isSome) ∧
    (∀ id model kept, (finalState definition options).catalogue.model? id = some model →
      package.catalogue.model? id = some kept →
      package.catalogue.KeepsUsed model.subtypes kept.subtypes) ∧
    (∀ id, ((sownState definition options).nodeAt id).usage? =
        (package.catalogue.nodeAt id).usage? ∧
      ((sownState definition options).model? id).map ModelNode.subtypes =
        ((finalState definition options).catalogue.model? id).map ModelNode.subtypes) ∧
    (∀ (order : List NodeId) (id : NodeId),
      (order.foldl pruneAt (sownState definition options)).nodeAt id =
        if id ∈ order then package.catalogue.nodeAt id
        else (sownState definition options).nodeAt id) ∧
    ∀ order : List NodeId, (sownState definition options).ids ⊆ order →
      order.foldl pruneAt (sownState definition options) = package.catalogue := by
  have isPruned := catalogue_eq_prune derived
  have usage (id : NodeId) : ((sownState definition options).nodeAt id).usage? =
      (package.catalogue.nodeAt id).usage? := by
    rw [isPruned, usage?_prune]
  have collected (id : NodeId) :
      ((sownState definition options).model? id).map ModelNode.subtypes =
        ((finalState definition options).catalogue.model? id).map ModelNode.subtypes :=
    subtypes_sown _ _ id
  refine ⟨fun id => ?_, fun id model kept found isKept => ?_, fun id => ⟨usage id, collected id⟩,
    fun order id => ?_, fun order all => ?_⟩
  · -- Pruning keeps models, and seeds keep what was collected for them.
    rw [isPruned, model?_prune, Option.isSome_map, ← Option.isSome_map (f := ModelNode.subtypes),
      collected, Option.isSome_map]
  · -- The model had all that was collected when it was judged, by the usage that is final.
    rw [isPruned, model?_prune, Option.map_eq_some_iff] at isKept
    obtain ⟨before, isBefore, rfl⟩ := isKept
    have same := collected id
    rw [isBefore, found, Option.map_some, Option.map_some, Option.some.injEq] at same
    have judged := usedSubtypes_congr fun id => (usage id).symm
    rw [← same, ← judged]
    exact keepsUsed_usedSubtypes package.catalogue before.subtypes
  · rw [nodeAt_foldl_pruneAt, isPruned]
  · rw [foldl_pruneAt all, isPruned]

/-- A member that fixes the kind of a model. -/
def kindOf (model type : Nat) : PropertyDecl :=
  { name := "kind", model := some ⟨model⟩, type := ⟨type⟩ }

/-- An operation that gets a value of a type. -/
def getting (name : String) (type : Nat) : Operation :=
  { name, container := ⟨0⟩, verb := .get, path := "/" ++ name
    responses := [{ status := .code 200, body := some { type := ⟨type⟩ } }] }

/-- A service for which two of three kinds of birds are used, and one of two kinds of bees. -/
def menagerie : Definition where
  types := #[
    { shape := .model
        { name := some "Bird", derived := [⟨1⟩, ⟨2⟩, ⟨3⟩], discriminator := some "kind" } },
    { shape := .model { name := some "Eagle", properties := [⟨0⟩], base := some ⟨0⟩ } },
    { shape := .model { name := some "Gull", properties := [⟨1⟩], base := some ⟨0⟩ } },
    { shape := .model { name := some "Owl", properties := [⟨2⟩], base := some ⟨0⟩ } },
    { shape := .model { name := some "Bee", derived := [⟨5⟩, ⟨6⟩], discriminator := some "kind" } },
    { shape := .model { name := some "Worker", properties := [⟨3⟩], base := some ⟨4⟩ } },
    { shape := .model { name := some "Drone", properties := [⟨4⟩], base := some ⟨4⟩ } },
    { shape := .literal (.text "eagle") }, { shape := .literal (.text "gull") },
    { shape := .literal (.text "owl") }, { shape := .literal (.text "worker") },
    { shape := .literal (.text "drone") }]
  properties := #[kindOf 1 7, kindOf 2 8, kindOf 3 9, kindOf 5 10, kindOf 6 11]
  operations := #[getting "owl" 3, getting "eagle" 1, getting "drone" 6]
  containers := #[{ name := "Menagerie", operations := [⟨0⟩, ⟨1⟩, ⟨2⟩], service := some {} }]

/-- Usage does not go up from a model to its base. -/
def sparing : Options := { sparesBase := true }

/-- The methods of the service hand back owls, eagles and drones. -/
theorem menagerie_seeds : (finalState menagerie sparing).seeds =
    [⟨⟨0⟩, .output ||| .json, .everyone⟩, ⟨⟨3⟩, .output ||| .json, .everyone⟩,
      ⟨⟨10⟩, .output ||| .json, .everyone⟩] := by
  decide +kernel

/-- Owls, eagles and drones lead to nothing but their kinds. -/
theorem menagerie_apart {id : NodeId} (apart : id.index ∉ [0, 1, 3, 4, 10, 11]) :
    ∀ seed ∈ (finalState menagerie sparing).seeds,
      ¬ ReflTransGen ((finalState menagerie sparing).catalogue.Leads true) seed.type id := by
  -- The six nodes that are reached lead to each other only.
  have closed : ∀ index ∈ [0, 1, 3, 4, 10, 11],
      ∀ next ∈ onward true ((finalState menagerie sparing).catalogue.nodeAt ⟨index⟩) .none,
        next.1.index ∈ [0, 1, 3, 4, 10, 11] := by
    decide +kernel
  rw [menagerie_seeds]
  intro seed planted way
  have inside : id.index ∈ [0, 1, 3, 4, 10, 11] := by
    clear apart
    induction way with
    | refl =>
      revert seed
      decide
    | tail _ step ih =>
      obtain ⟨usage, leads⟩ := leads_iff_onward.mp step
      exact closed _ ih _ leads
  exact apart inside

/-- The subtypes that a model lists, if there are any. -/
def listedAt (catalogue : Catalogue) (id : NodeId) : Option (List (String × NodeId)) :=
  (catalogue.model? id).bind fun model => model.subtypes.map OrderedMap.entries

section

variable {package : Package} (derived : derivePackage menagerie sparing = .ok package)
include derived

/-- The catalogue of the menagerie is spread from its seeds. -/
theorem menagerie_catalogue : package.catalogue =
    spread (finalState menagerie sparing).catalogue (Context.of menagerie sparing).choices true
      (finalState menagerie sparing).seeds := by
  -- A package is made of the final state, so its catalogue is read off that.
  obtain ⟨clients, _, rfl⟩ := derivePackage_ok derived
  rfl

/-- Owls, eagles and drones are used. -/
theorem menagerie_isUsed (id : NodeId) (handedBack : id ∈ [⟨0⟩, ⟨3⟩, ⟨10⟩]) :
    (package.catalogue.nodeAt id).usage?.any fun usage => !usage.isEmpty := by
  -- Each of the three is the type of a seed that is passed on.
  have carries : ∀ id ∈ [⟨0⟩, ⟨3⟩, ⟨10⟩],
      ((finalState menagerie sparing).catalogue.nodeAt id).carriesUsage := by
    decide +kernel
  have carried := carries id handedBack
  rw [← carriesUsage_spread, ← menagerie_catalogue derived] at carried
  obtain ⟨usage, found⟩ := Option.isSome_iff_exists.mp carried
  have noted : ∀ id ∈ [⟨0⟩, ⟨3⟩, ⟨10⟩],
      ⟨id, .output ||| .json, .everyone⟩ ∈ (finalState menagerie sparing).seeds := by
    rw [menagerie_seeds]
    decide
  have used : usage.isEmpty = false := by
    rw [menagerie_catalogue derived] at found
    exact isUsed_spread (noted id handedBack) (Usage.isPassedOn_output.union _) .refl found
  simp [found, used]

/-- Gulls and workers are not used. -/
theorem menagerie_unused (id : NodeId) (isUnused : id ∈ [⟨5⟩, ⟨13⟩]) :
    ((package.catalogue.nodeAt id).usage?.any fun usage => !usage.isEmpty) = false := by
  -- Nothing leads to them, and no usage is chosen for them either.
  have begins : ∀ id ∈ [⟨5⟩, ⟨13⟩],
      ((finalState menagerie sparing).catalogue.nodeAt id).usage? = some .none := by
    decide +kernel
  have apart : id.index ∉ [0, 1, 3, 4, 10, 11] := by
    revert id
    decide
  have nothing : chosenSeeds (finalState menagerie sparing).catalogue
      (Context.of menagerie sparing).choices = [] := by
    decide +kernel
  rw [menagerie_catalogue derived, usage?_spread_of_apart (begins id isUnused)]
  · rfl
  · rw [nothing, List.nil_append]
    exact menagerie_apart apart

end

/-- In the menagerie two used birds are kept, while a single used bee is no reason to keep any. -/
theorem used_subtypes_are_kept_menagerie :
    ∃ package, derivePackage menagerie sparing = .ok package ∧
      listedAt (finalState menagerie sparing).catalogue ⟨2⟩ =
        some [("eagle", ⟨3⟩), ("gull", ⟨5⟩), ("owl", ⟨0⟩)] ∧
      listedAt package.catalogue ⟨2⟩ = some [("eagle", ⟨3⟩), ("owl", ⟨0⟩)] ∧
      listedAt (finalState menagerie sparing).catalogue ⟨12⟩ =
        some [("worker", ⟨13⟩), ("drone", ⟨10⟩)] ∧
      listedAt package.catalogue ⟨12⟩ = none ∧
      (sownState menagerie sparing).ids.reverse.foldl pruneAt (sownState menagerie sparing) =
        package.catalogue := by
  have isOk : (derivePackage menagerie sparing).isOk = true := by decide +kernel
  -- What was collected is decided, and what is used of it is told above.
  have birds : listedAt (finalState menagerie sparing).catalogue ⟨2⟩ =
      some [("eagle", ⟨3⟩), ("gull", ⟨5⟩), ("owl", ⟨0⟩)] := by
    decide +kernel
  have bees : listedAt (finalState menagerie sparing).catalogue ⟨12⟩ =
      some [("worker", ⟨13⟩), ("drone", ⟨10⟩)] := by
    decide +kernel
  cases derived : derivePackage menagerie sparing with
  | error failure => simp [derived, Except.isOk, Except.toBool] at isOk
  | ok package =>
    obtain ⟨models, each, _, _, orders⟩ := used_subtypes_are_kept derived
    -- What is listed in the end is what was listed before, cut down to what is used.
    have kept (id : NodeId) : listedAt package.catalogue id =
        ((listedAt (finalState menagerie sparing).catalogue id).map fun entries =>
          entries.filter fun (_, id) =>
            (package.catalogue.nodeAt id).usage?.any fun usage => !usage.isEmpty).filter
              fun entries => 2 ≤ entries.length := by
      have isModel := models id
      cases found : (finalState menagerie sparing).catalogue.model? id with
      | none =>
        rw [found, Option.isSome_none, Option.isSome_eq_false_iff, Option.isNone_iff_eq_none]
          at isModel
        simp [listedAt, found, isModel]
      | some model =>
        rw [found, Option.isSome_some, Option.isSome_iff_exists] at isModel
        obtain ⟨left, isLeft⟩ := isModel
        simp only [listedAt, found, isLeft, Option.bind_some, Option.map_map,
          (each id model left found isLeft).map_entries]
        rfl
    refine ⟨package, rfl, birds, ?_, bees, ?_,
      orders _ fun id listed => List.mem_reverse.mpr listed⟩
    · -- What is used was computed once for each of the animals.
      have eagle := menagerie_isUsed derived ⟨3⟩ (by decide)
      have gull := menagerie_unused derived ⟨5⟩ (by decide)
      have owl := menagerie_isUsed derived ⟨0⟩ (by decide)
      simp [kept, birds, eagle, gull, owl]
    · have worker := menagerie_unused derived ⟨13⟩ (by decide)
      have drone := menagerie_isUsed derived ⟨10⟩ (by decide)
      simp [kept, bees, worker, drone]

end Derivation

end ClientModel
