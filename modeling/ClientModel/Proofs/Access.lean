import ClientModel.Proofs.Spread

/-!
Who may see a type in the end.

A seed shows whatever it leads to to its own circle, and of all circles the widest counts. What was
chosen for a type goes before all seeds, and does not spread.
-/

namespace ClientModel

namespace Access

/-- A circle, if there is one, takes in another. -/
def Covers (circle : Option Access) (access : Access) : Prop :=
  ∃ known, circle = some known ∧ known.widest access = known

/-- A circle of nobody takes in nobody. -/
@[simp] theorem not_covers_none (access : Access) : ¬ Covers none access := by
  simp [Covers]

/-- A circle of everyone takes in everyone. -/
@[simp] theorem covers_everyone (access : Access) : Covers (some everyone) access := by
  cases access <;> simp [Covers, widest]

/-- A circle within the package takes in the package alone. -/
@[simp] theorem covers_withinPackage {access : Access} :
    Covers (some withinPackage) access ↔ access = withinPackage := by
  cases access <;> simp [Covers, widest]

/-- Only everyone takes in everyone. -/
theorem covers_everyone_iff {circle : Option Access} :
    Covers circle everyone ↔ circle = some everyone := by
  rcases circle with _ | _ | _ <;> simp

/-- Those within the package are in every circle there is. -/
theorem covers_withinPackage_iff {circle : Option Access} :
    Covers circle withinPackage ↔ circle.isSome := by
  rcases circle with _ | _ | _ <;> simp

/-- A circle is told by the circles that it takes in. -/
theorem ext_covers {left right : Option Access}
    (same : ∀ access, Covers left access ↔ Covers right access) : left = right := by
  -- Two questions tell the three circles apart: is everyone let in, and is the package?
  have wide := same everyone
  have narrow := same withinPackage
  rw [covers_everyone_iff, covers_everyone_iff] at wide
  rw [covers_withinPackage_iff, covers_withinPackage_iff] at narrow
  rcases left with _ | _ | _ <;> rcases right with _ | _ | _ <;> simp_all

/-- The wider of two circles takes in what either of them does. -/
theorem covers_widest (circle : Option Access) (added access : Access) :
    Covers (some ((circle.map added.widest).getD added)) access ↔
      Covers circle access ∨ Covers (some added) access := by
  rcases circle with _ | _ | _ <;> cases added <;> simp [widest]

end Access

namespace Node

/-- A node is what is left without its usage and access, with these put back. -/
theorem mapUse_bare (node : Node) :
    node.bare.mapUse (fun _ _ => (node.usage?.getD .none, node.access?)) = node := by
  -- Only the kinds that carry usage have anything put back; the others are equal as they stand.
  obtain ⟨origin, nullable, deprecation, doc, kind⟩ := node
  cases kind <;> rfl

/-- A node is told by what is left without its usage and access, and by these. -/
theorem ext_bare {left right : Node} (same : left.bare = right.bare)
    (usage : left.usage? = right.usage?) (access : left.access? = right.access?) :
    left = right := by
  rw [← mapUse_bare left, same, usage, access, mapUse_bare]

/-- Without usage there is no access. -/
theorem access?_of_usage?_none {node : Node} (none : node.usage? = .none) :
    node.access? = .none := by
  cases kind : node.kind <;> simp_all [usage?, access?]

/-- Without its marks a node comes from where it comes from. -/
theorem origin_bare (node : Node) : node.bare.origin = node.origin := by
  cases kind : node.kind <;> simp [bare, mapUse, kind]

/-- Access can be set for what carries usage, and for nothing else. -/
theorem access?_setAccess (node : Node) (access : Option Access) :
    (node.setAccess access).access? = if node.carriesUsage then access else none := by
  -- What is set is read where it was set, and the kinds without usage have no place to set it.
  cases kind : node.kind <;>
    simp [setAccess, mapUse, access?, carriesUsage, usage?, kind]

end Node

namespace Derivation

open Relation (ReflTransGen)
open Service (Choices)

variable {catalogue : Catalogue} {choices : Choices} {sparesBase : Bool}

/-! ## Seeds -/

/-- The type of a seed leads to a node. -/
def Seed.Reaches (seed : Seed) (catalogue : Catalogue) (sparesBase : Bool) (id : NodeId) : Prop :=
  ReflTransGen (catalogue.Leads sparesBase) seed.type id

/-- A seed meets just the nodes in range that its type leads to. -/
theorem Seed.mem_visits_iff (seed : Seed) {id : NodeId} (inside : id.index < catalogue.size) :
    (∃ usage, (id, usage) ∈ seed.visits catalogue sparesBase) ↔
      seed.Reaches catalogue sparesBase id := by
  -- What is visited has a way to it, and what has a way to it is visited.
  constructor
  · rintro ⟨usage, member⟩
    rcases seed.visits_sound _ member with ⟨way, _⟩ | ⟨way, _⟩
    · exact way.leads
    · exact way.leads
  · intro way
    exact visits_complete seed.type id seed.usage inside way

/-- What carries usage is in range. -/
theorem index_lt_of_carriesUsage {id : NodeId} (carries : (catalogue.nodeAt id).carriesUsage) :
    id.index < catalogue.size := by
  -- Out of range the table answers a node of its own, and that one carries no usage.
  by_contra outside
  rw [catalogue.nodeAt_of_ge (Nat.le_of_not_lt outside)] at carries
  simp [Node.outOfRange, Node.carriesUsage, Node.usage?] at carries

/-- A mark shows a node that carries usage to one more circle. -/
theorem covers_mark {node : Node} (carries : node.carriesUsage) (usage : Usage)
    (added access : Access) : Access.Covers (mark node usage added).access? access ↔
      Access.Covers node.access? access ∨ Access.Covers (some added) access := by
  -- Of the kinds of nodes, only those that carry usage are left to look at.
  rw [← Access.covers_widest]
  obtain ⟨origin, nullable, deprecation, doc, kind⟩ := node
  cases kind <;> first | rfl | simp [Node.carriesUsage, Node.usage?] at carries

/-- A mark changes nothing but marks. -/
theorem bare_mark (node : Node) (usage : Usage) (access : Access) :
    (mark node usage access).bare = node.bare :=
  node.bare_mapUse _

/-- Marks show a node to their circle if it is met at all. -/
theorem covers_marks (added : Access) (met : List (NodeId × Usage)) {id : NodeId}
    (carries : (catalogue.nodeAt id).carriesUsage) (access : Access) :
    Access.Covers ((met.foldl
        (fun marked (id, usage) => marked.modify id fun node => mark node usage added)
        catalogue).nodeAt id).access? access ↔
      Access.Covers (catalogue.nodeAt id).access? access ∨
        ((∃ usage, (id, usage) ∈ met) ∧ Access.Covers (some added) access) := by
  -- By induction on what is met, the access before each mark generalised.
  induction met generalizing catalogue with
  | nil => simp
  | cons entry met ih =>
    obtain ⟨first, usage⟩ := entry
    have marked : (catalogue.modify first (mark · usage added)).nodeAt id =
        if id = first then mark (catalogue.nodeAt id) usage added else catalogue.nodeAt id := by
      rw [Catalogue.nodeAt_modify _ (mark_outOfRange _ _)]
      split
      · rename_i same
        rw [same]
      · rfl
    -- A mark before this one does not change that the node carries usage.
    have still : ((catalogue.modify first (mark · usage added)).nodeAt id).carriesUsage := by
      rw [marked]
      split
      · rw [← Node.carriesUsage_bare, bare_mark, Node.carriesUsage_bare, carries]
      · exact carries
    rw [List.foldl_cons, ih still, marked]
    -- The first that is met is the node itself or another one.
    by_cases same : id = first
    · rw [if_pos same, covers_mark carries]
      simp only [List.mem_cons, Prod.mk.injEq, same, true_and]
      constructor
      · rintro ((old | new) | ⟨_, new⟩)
        · exact Or.inl old
        · exact Or.inr ⟨⟨usage, Or.inl rfl⟩, new⟩
        · exact Or.inr ⟨⟨usage, Or.inl rfl⟩, new⟩
      · rintro (old | ⟨_, new⟩)
        · exact Or.inl (Or.inl old)
        · exact Or.inl (Or.inr new)
    · rw [if_neg same]
      simp only [List.mem_cons, Prod.mk.injEq, same, false_and, false_or]

/-- Seeds show a node to the circles of those among them that lead to it, and to no others. -/
theorem covers_seeds (sparesBase : Bool) (seeds : List Seed) {id : NodeId}
    (carries : (catalogue.nodeAt id).carriesUsage) (access : Access) :
    Access.Covers ((seeds.foldl (Seed.apply sparesBase) catalogue).nodeAt id).access? access ↔
      Access.Covers (catalogue.nodeAt id).access? access ∨
        ∃ seed ∈ seeds, seed.Reaches catalogue sparesBase id ∧
          Access.Covers (some seed.access) access := by
  induction seeds generalizing catalogue with
  | nil => simp
  | cons seed seeds ih =>
    -- A seed changes neither what carries usage nor where the seeds after it lead.
    have bare (other : NodeId) : ((seed.apply sparesBase catalogue).nodeAt other).bare =
        (catalogue.nodeAt other).bare :=
      bare_seeds [seed] catalogue other
    have still : ((seed.apply sparesBase catalogue).nodeAt id).carriesUsage := by
      rw [← Node.carriesUsage_bare, bare, Node.carriesUsage_bare, carries]
    have reaches (other : Seed) :
        other.Reaches (seed.apply sparesBase catalogue) sparesBase id ↔
          other.Reaches catalogue sparesBase id := by
      have leads : (seed.apply sparesBase catalogue).Leads sparesBase =
          catalogue.Leads sparesBase := by
        funext first second
        exact propext (leads_congr (bare first))
      rw [Seed.Reaches, Seed.Reaches, leads]
    -- Of the seeds after it, nothing is said that the first one changes.
    rw [List.foldl_cons, ih still]
    simp only [reaches]
    rw [Seed.apply, covers_marks seed.access _ carries,
      seed.mem_visits_iff (index_lt_of_carriesUsage carries)]
    simp only [List.mem_cons, exists_eq_or_imp, or_assoc]

/-- Seeds show to nobody what carries no usage. -/
theorem access?_seeds_none (seeds : List Seed) {id : NodeId}
    (none : (catalogue.nodeAt id).usage? = .none) :
    ((seeds.foldl (Seed.apply sparesBase) catalogue).nodeAt id).access? = .none :=
  Node.access?_of_usage?_none (usage?_seeds_none seeds none)

/-! ## Choices -/

/-- The access that was chosen for the declaration that a node comes from. -/
def chosenAccess? (choices : Choices) (node : Node) : Option Access :=
  node.origin.bind fun origin => choices.access? (.type origin)

/-- What was chosen goes before what a node had. -/
theorem access?_chooseAccess {node : Node} (carries : node.carriesUsage) :
    (chooseAccess choices node).access? = (chosenAccess? choices node).or node.access? := by
  unfold chooseAccess chosenAccess?
  -- Either something was chosen for the declaration of the node, or nothing was.
  split
  · rename_i access chosen
    rw [chosen, Node.access?_setAccess, if_pos carries, Option.some_or]
  · rename_i chosen
    rw [chosen, Option.none_or]

/-! ## All of it -/

/-- The catalogue that given seeds lead to, those that customizations plant among them. -/
def grown (catalogue : Catalogue) (choices : Choices) (sparesBase : Bool) (seeds : List Seed) :
    Catalogue :=
  prune ((seeds.foldl (Seed.apply sparesBase) (catalogue.map (·.setAccess none))).map
    (chooseAccess choices))

/-- What is spread is what grows from the seeds of choices and those that were noted. -/
theorem spread_eq_grown (catalogue : Catalogue) (choices : Choices) (sparesBase : Bool)
    (seeds : List Seed) : spread catalogue choices sparesBase seeds =
      grown catalogue choices sparesBase (chosenSeeds catalogue choices ++ seeds) := rfl

/-- Pruning tells nobody more or less. -/
theorem access?_prune (before : Catalogue) (id : NodeId) :
    ((prune before).nodeAt id).access? = (before.nodeAt id).access? := by
  -- Pruning changes the subtypes of models and nothing else, so only that kind has to be looked
  -- into.
  rw [nodeAt_prune]
  cases kind : (before.nodeAt id).kind <;> simp [Node.mapModel, Node.access?, kind]

/-- A node that carries usage shows what was chosen for it, or else what its seeds make of it. -/
theorem access?_grown (seeds : List Seed) {id : NodeId}
    (carries : (catalogue.nodeAt id).carriesUsage) :
    ((grown catalogue choices sparesBase seeds).nodeAt id).access? =
      (chosenAccess? choices (catalogue.nodeAt id)).or
        ((seeds.foldl (Seed.apply sparesBase) (catalogue.map (·.setAccess none))).nodeAt
          id).access? := by
  -- Seeds mark nodes and leave the rest, so that the declaration is asked as before.
  have bare : ((seeds.foldl (Seed.apply sparesBase) (catalogue.map (·.setAccess none))).nodeAt
      id).bare = (catalogue.nodeAt id).bare := by
    rw [bare_seeds, Catalogue.nodeAt_map _ rfl, bare_setAccess]
  rw [grown, access?_prune, Catalogue.nodeAt_map _ rfl, access?_chooseAccess, chosenAccess?,
    ← Node.origin_bare, bare, Node.origin_bare, chosenAccess?]
  rw [← Node.carriesUsage_bare, bare, Node.carriesUsage_bare, carries]

/-- A node starts out shown to nobody, and each seed that leads to it shows it to its circle. -/
theorem covers_sown (seeds : List Seed) {id : NodeId}
    (carries : (catalogue.nodeAt id).carriesUsage) (access : Access) :
    Access.Covers ((seeds.foldl (Seed.apply sparesBase) (catalogue.map (·.setAccess none))).nodeAt
        id).access? access ↔
      ∃ seed ∈ seeds, seed.Reaches catalogue sparesBase id ∧
        Access.Covers (some seed.access) access := by
  -- That no node shows anything at first changes neither where seeds lead nor what carries usage.
  have bare (other : NodeId) : ((catalogue.map (·.setAccess none)).nodeAt other).bare =
      (catalogue.nodeAt other).bare := by
    rw [Catalogue.nodeAt_map _ rfl, bare_setAccess]
  have still : ((catalogue.map (·.setAccess none)).nodeAt id).carriesUsage := by
    rw [← Node.carriesUsage_bare, bare, Node.carriesUsage_bare, carries]
  have leads : (catalogue.map (·.setAccess none)).Leads sparesBase =
      catalogue.Leads sparesBase := by
    funext first second
    exact propext (leads_congr (bare first))
  have nobody : ((catalogue.map (·.setAccess none)).nodeAt id).access? = none := by
    rw [Catalogue.nodeAt_map _ rfl, Node.access?_setAccess, ite_self]
  rw [covers_seeds sparesBase seeds still, nobody]
  simp only [Seed.Reaches, leads, Access.not_covers_none, false_or]

/-- Seeds in another order, or planted more than once, lead to the same catalogue. -/
theorem foldl_apply_congr {seeds others : List Seed} (same : ∀ seed, seed ∈ others ↔ seed ∈ seeds) :
    others.foldl (Seed.apply sparesBase) catalogue =
      seeds.foldl (Seed.apply sparesBase) catalogue := by
  have size (seeds : List Seed) :
      (seeds.foldl (Seed.apply sparesBase) catalogue).size = catalogue.size := by
    induction seeds generalizing catalogue with
    | nil => rfl
    | cons seed seeds ih => rw [List.foldl_cons, ih, (seed.apply_frame sparesBase catalogue).1]
  refine Catalogue.ext_nodeAt ((size others).trans (size seeds).symm) fun id => ?_
  have bare : ((others.foldl (Seed.apply sparesBase) catalogue).nodeAt id).bare =
      ((seeds.foldl (Seed.apply sparesBase) catalogue).nodeAt id).bare := by
    rw [bare_seeds, bare_seeds]
  -- A node without usage is left alone by seeds, and any other one is told by what they bring.
  cases carried : (catalogue.nodeAt id).usage? with
  | none =>
    refine Node.ext_bare bare ?_ ?_
    · rw [usage?_seeds_none _ carried, usage?_seeds_none _ carried]
    · rw [access?_seeds_none _ carried, access?_seeds_none _ carried]
  | some before =>
    have carries : (catalogue.nodeAt id).carriesUsage := by
      simp [Node.carriesUsage, carried]
    -- Both have the same seeds, which bring the same ways and show the node to the same circles.
    obtain ⟨left, leftFound, leftWays⟩ := usage?_seeds sparesBase others carried
    obtain ⟨right, rightFound, rightWays⟩ := usage?_seeds sparesBase seeds carried
    refine Node.ext_bare bare ?_ (Access.ext_covers fun access => ?_)
    · rw [leftFound, rightFound]
      congr 1
      refine Usage.ext_has fun way => ?_
      simp only [leftWays, rightWays, same]
    · simp only [covers_seeds sparesBase _ carries, same]

/-- Everyone sees a node that was not chosen for others if a seed shows it to everyone. -/
theorem access?_grown_eq_everyone_iff (seeds : List Seed) {id : NodeId}
    (carries : (catalogue.nodeAt id).carriesUsage)
    (free : chosenAccess? choices (catalogue.nodeAt id) = none) :
    ((grown catalogue choices sparesBase seeds).nodeAt id).access? = some .everyone ↔
      ∃ seed ∈ seeds, seed.Reaches catalogue sparesBase id ∧ seed.access = .everyone := by
  -- Without a choice, what seeds make of the node counts.
  rw [access?_grown seeds carries, free, Option.none_or, ← Access.covers_everyone_iff,
    covers_sown seeds carries]
  simp only [Access.covers_everyone_iff, Option.some.injEq]

/-- Nobody is let see a node that was not chosen for anyone if no seed leads to it. -/
theorem access?_grown_eq_none_iff (seeds : List Seed) {id : NodeId}
    (carries : (catalogue.nodeAt id).carriesUsage)
    (free : chosenAccess? choices (catalogue.nodeAt id) = none) :
    ((grown catalogue choices sparesBase seeds).nodeAt id).access? = none ↔
      ∀ seed ∈ seeds, ¬ seed.Reaches catalogue sparesBase id := by
  -- To be shown to anyone is to be shown to the package at least.
  rw [access?_grown seeds carries, free, Option.none_or, ← Option.not_isSome_iff_eq_none,
    ← Access.covers_withinPackage_iff, covers_sown seeds carries]
  simp only [Access.covers_withinPackage_iff, Option.isSome_some, and_true, not_exists, not_and]

/-- Only the package sees a node if seeds lead to it, and all those are within the package. -/
theorem access?_grown_eq_withinPackage_iff (seeds : List Seed) {id : NodeId}
    (carries : (catalogue.nodeAt id).carriesUsage)
    (free : chosenAccess? choices (catalogue.nodeAt id) = none) :
    ((grown catalogue choices sparesBase seeds).nodeAt id).access? = some .withinPackage ↔
      (∃ seed ∈ seeds, seed.Reaches catalogue sparesBase id) ∧
        ∀ seed ∈ seeds, seed.Reaches catalogue sparesBase id → seed.access = .withinPackage := by
  -- What is left of the three cases: somebody sees the node, and not everyone does.
  have wide := @access?_grown_eq_everyone_iff catalogue choices sparesBase seeds id carries free
  have nobody := @access?_grown_eq_none_iff catalogue choices sparesBase seeds id carries free
  have narrow (seed : Seed) : seed.access = .withinPackage ↔ ¬ seed.access = .everyone := by
    cases seed.access <;> simp
  simp only [narrow]
  -- By what the node shows in the end.
  rcases final : ((grown catalogue choices sparesBase seeds).nodeAt id).access? with _ | _ | _
  · have none := nobody.mp final
    simp only [reduceCtorEq, false_iff, not_and]
    rintro ⟨seed, planted, reaches⟩
    exact absurd reaches (none seed planted)
  · obtain ⟨seed, planted, reaches, everyone⟩ := wide.mp final
    simp only [Option.some.injEq, reduceCtorEq, false_iff, not_and]
    exact fun _ all => all seed planted reaches everyone
  · simp only [true_iff]
    refine ⟨by_contra fun none => ?_, fun seed planted reaches everyone => ?_⟩
    · rw [nobody.mpr fun seed planted reaches => none ⟨seed, planted, reaches⟩] at final
      cases final
    · rw [wide.mpr ⟨seed, planted, reaches, everyone⟩] at final
      cases final

/-- What everyone sees everyone still sees with further seeds. -/
theorem access?_grown_eq_everyone_mono {seeds more : List Seed} (kept : seeds ⊆ more) {id : NodeId}
    (carries : (catalogue.nodeAt id).carriesUsage)
    (shown : ((grown catalogue choices sparesBase seeds).nodeAt id).access? = some .everyone) :
    ((grown catalogue choices sparesBase more).nodeAt id).access? = some .everyone := by
  cases chosen : chosenAccess? choices (catalogue.nodeAt id) with
  | some access =>
    -- A choice for everyone stays one, whatever the seeds are.
    rw [access?_grown _ carries, chosen, Option.some_or] at shown ⊢
    exact shown
  | none =>
    obtain ⟨seed, planted, reaches, everyone⟩ :=
      (access?_grown_eq_everyone_iff seeds carries chosen).mp shown
    exact (access?_grown_eq_everyone_iff more carries chosen).mpr
      ⟨seed, kept planted, reaches, everyone⟩

/--
In the end a model, an enum or a union is seen by whom it was chosen for.

Where nothing was chosen, everyone sees it if a seed of everyone leads to it, only the package if
all that lead to it are seeds of the package, and nobody is named if none does. Neither the order of
the seeds nor their number of times matters, and further seeds hide nothing that everyone sees. The
seeds of a run are those of its customizations, followed by those that its methods noted.
-/
theorem access_after_seeds (catalogue : Catalogue) (choices : Choices) (sparesBase : Bool) :
    (∀ seeds id, (catalogue.nodeAt id).carriesUsage →
      (∀ access, chosenAccess? choices (catalogue.nodeAt id) = some access →
        ((grown catalogue choices sparesBase seeds).nodeAt id).access? = some access) ∧
      (chosenAccess? choices (catalogue.nodeAt id) = none →
        (((grown catalogue choices sparesBase seeds).nodeAt id).access? = some .everyone ↔
          ∃ seed ∈ seeds, seed.Reaches catalogue sparesBase id ∧ seed.access = .everyone) ∧
        (((grown catalogue choices sparesBase seeds).nodeAt id).access? = some .withinPackage ↔
          (∃ seed ∈ seeds, seed.Reaches catalogue sparesBase id) ∧
            ∀ seed ∈ seeds, seed.Reaches catalogue sparesBase id →
              seed.access = .withinPackage) ∧
        (((grown catalogue choices sparesBase seeds).nodeAt id).access? = none ↔
          ∀ seed ∈ seeds, ¬ seed.Reaches catalogue sparesBase id)) ∧
      ∀ more, seeds ⊆ more →
        ((grown catalogue choices sparesBase seeds).nodeAt id).access? = some .everyone →
        ((grown catalogue choices sparesBase more).nodeAt id).access? = some .everyone) ∧
    (∀ seeds others : List Seed, (∀ seed, seed ∈ others ↔ seed ∈ seeds) →
      grown catalogue choices sparesBase others = grown catalogue choices sparesBase seeds) ∧
    ∀ noted, spread catalogue choices sparesBase noted =
      grown catalogue choices sparesBase (chosenSeeds catalogue choices ++ noted) := by
  -- Each case is a lemma of its own; choices come before seeds in all of them.
  refine ⟨fun seeds id carries => ⟨fun access chosen => ?_, fun free => ⟨?_, ?_, ?_⟩, ?_⟩,
    fun seeds others same => ?_, fun noted => spread_eq_grown catalogue choices sparesBase noted⟩
  · rw [access?_grown seeds carries, chosen, Option.some_or]
  · exact access?_grown_eq_everyone_iff seeds carries free
  · exact access?_grown_eq_withinPackage_iff seeds carries free
  · exact access?_grown_eq_none_iff seeds carries free
  · exact fun more kept shown => access?_grown_eq_everyone_mono kept carries shown
  · rw [grown, grown, foldl_apply_congr same]

/-- The seeds of methods of the package that take a herd, and of one of everyone for its keeper. -/
def guardedSeeds : List Seed :=
  [{ type := ⟨0⟩, usage := .input, access := .withinPackage },
    { type := ⟨2⟩, usage := .output, access := .everyone }]

/-- Herds are of animals, which have keepers. -/
theorem reaches_herd {seed : Seed} (isHerd : seed.type = ⟨0⟩) : seed.Reaches herd false ⟨2⟩ := by
  -- Two steps by what the nodes refer to; each of them is decided on the catalogue.
  have animals : herd.Leads false ⟨0⟩ ⟨1⟩ := leads_iff_onward.mpr ⟨.none, by decide⟩
  have keeper : herd.Leads false ⟨1⟩ ⟨2⟩ := leads_iff_onward.mpr ⟨.none, by decide⟩
  rw [Seed.Reaches, isHerd]
  exact (ReflTransGen.single animals).tail keeper

/-- A herd that is declared, all of it for the package alone. -/
def fencedHerd : Catalogue :=
  herd.map fun node => { node with origin := some ⟨0⟩ }

/-- What was chosen for a fenced herd. -/
def fence : Choices where
  accesses := OrderedMap.empty.insert (.type ⟨0⟩) .withinPackage

/-- In the herd, one of its seeds shows an animal to the package, the other one to everyone. -/
theorem access_after_seeds_herd :
    (herd.nodeAt ⟨2⟩).carriesUsage ∧ chosenAccess? {} (herd.nodeAt ⟨2⟩) = none ∧
      chosenAccess? fence (fencedHerd.nodeAt ⟨2⟩) = some .withinPackage ∧
      ((grown herd {} false (guardedSeeds.take 1)).nodeAt ⟨2⟩).access? = some .withinPackage ∧
      ((grown herd {} false (guardedSeeds.drop 1)).nodeAt ⟨2⟩).access? = some .everyone ∧
      ((grown herd {} false guardedSeeds).nodeAt ⟨2⟩).access? = some .everyone ∧
      ((grown fencedHerd fence false guardedSeeds).nodeAt ⟨2⟩).access? = some .withinPackage ∧
      grown herd {} false guardedSeeds.reverse = grown herd {} false guardedSeeds := by
  have carries : (herd.nodeAt ⟨2⟩).carriesUsage := rfl
  have free : chosenAccess? {} (herd.nodeAt ⟨2⟩) = none := rfl
  have chosen : chosenAccess? fence (fencedHerd.nodeAt ⟨2⟩) = some .withinPackage := by
    decide +kernel
  -- The theorem is applied to the herd, and to the same herd where a choice was made.
  obtain ⟨each, orders, _⟩ := access_after_seeds herd {} false
  -- The second seed shows an animal to everyone.
  have last : ((grown herd {} false (guardedSeeds.drop 1)).nodeAt ⟨2⟩).access? = some .everyone :=
    ((each _ ⟨2⟩ carries).2.1 free).1.mpr ⟨_, List.mem_cons_self, .refl, rfl⟩
  refine ⟨carries, free, chosen, ?_, last, ?_, ?_, orders _ _ fun seed => List.mem_reverse⟩
  · refine ((each _ ⟨2⟩ carries).2.1 free).2.1.mpr ⟨⟨_, List.mem_cons_self, reaches_herd rfl⟩, ?_⟩
    rintro seed planted _
    rw [List.mem_singleton.mp planted]
  · exact (each _ ⟨2⟩ carries).2.2 guardedSeeds (List.drop_subset 1 guardedSeeds) last
  · exact ((access_after_seeds fencedHerd fence false).1 guardedSeeds ⟨2⟩ (by decide +kernel)).1 _
      chosen

end Derivation

end ClientModel
