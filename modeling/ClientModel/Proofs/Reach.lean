import Mathlib.Logic.Relation
import Mathlib.Tactic.ByContra
import ClientModel.Derivation.Reach
import ClientModel.Proofs.Catalogue
import ClientModel.Proofs.Usage

/-!
What seeds make of the usage of every node.

The walk from a seed meets each node once. It still leaves every node with all that leads to it,
because what a node is handed over without loss reaches it along one single way, and first.
-/

namespace ClientModel

open Relation (ReflTransGen)

/-! ## Ways through a catalogue -/

namespace Catalogue

/-- A node hands everything over to another: its values, or the enum that it is a value of. -/
inductive HandsOver (catalogue : Catalogue) (id : NodeId) : NodeId → Prop
  | array {value : NodeId} (kind : (catalogue.nodeAt id).kind = .array value) :
      HandsOver catalogue id value
  | dict {key value : NodeId} (kind : (catalogue.nodeAt id).kind = .dict key value) :
      HandsOver catalogue id value
  | enumValue {value : EnumValueNode} (kind : (catalogue.nodeAt id).kind = .enumValue value) :
      HandsOver catalogue id value.enumeration

/-- A model or a union refers to another node. A base only counts if it is not spared. -/
inductive RefersTo (catalogue : Catalogue) (sparesBase : Bool) (id : NodeId) : NodeId → Prop
  | property {model : ModelNode} {property : Property}
      (kind : (catalogue.nodeAt id).kind = .model model) (member : property ∈ model.properties) :
      RefersTo catalogue sparesBase id property.type
  | additional {model : ModelNode} {value : NodeId}
      (kind : (catalogue.nodeAt id).kind = .model model)
      (given : model.additionalProperties = some value) : RefersTo catalogue sparesBase id value
  | base {model : ModelNode} {base : NodeId} (kind : (catalogue.nodeAt id).kind = .model model)
      (given : model.base = some base) (counts : sparesBase = false) :
      RefersTo catalogue sparesBase id base
  | subtype {model : ModelNode} {subtypes : OrderedMap String NodeId} {subtype : NodeId}
      (kind : (catalogue.nodeAt id).kind = .model model)
      (given : model.subtypes = some subtypes) (member : subtype ∈ subtypes.values) :
      RefersTo catalogue sparesBase id subtype
  | variant {union : UnionNode} {variant : NodeId}
      (kind : (catalogue.nodeAt id).kind = .union union) (member : variant ∈ union.variants) :
      RefersTo catalogue sparesBase id variant

/-- One node leads to another in one step of either sort. -/
def Leads (catalogue : Catalogue) (sparesBase : Bool) (id other : NodeId) : Prop :=
  catalogue.HandsOver id other ∨ catalogue.RefersTo sparesBase id other

/-- The second node is the first, or all that is handed over from the first comes to it. -/
def Forwards (catalogue : Catalogue) : NodeId → NodeId → Prop :=
  ReflTransGen catalogue.HandsOver

/-- The first node leads to the second through at least one model or union. -/
def Includes (catalogue : Catalogue) (sparesBase : Bool) (id other : NodeId) : Prop :=
  ∃ composite part, ReflTransGen (catalogue.Leads sparesBase) id composite ∧
    catalogue.RefersTo sparesBase composite part ∧
    ReflTransGen (catalogue.Leads sparesBase) part other

variable {catalogue : Catalogue} {sparesBase : Bool} {start target : NodeId}

/-- What is forwarded to is led to. -/
theorem Forwards.leads (way : catalogue.Forwards start target) :
    ReflTransGen (catalogue.Leads sparesBase) start target := by
  -- By induction on the way, for to hand over is one of the two ways to lead.
  induction way with
  | refl => exact .refl
  | tail _ hands ih => exact ih.tail (Or.inl hands)

/-- What is included is led to, through the composite that refers to its part. -/
theorem Includes.leads (way : catalogue.Includes sparesBase start target) :
    ReflTransGen (catalogue.Leads sparesBase) start target := by
  -- The step from the composite to its part closes the gap between the two ways.
  obtain ⟨composite, part, before, step, after⟩ := way
  exact (before.tail (Or.inr step)).trans after

/-- What a node leads to is handed over without loss, or is included in something. -/
theorem forwards_or_includes (way : ReflTransGen (catalogue.Leads sparesBase) start target) :
    catalogue.Forwards start target ∨ catalogue.Includes sparesBase start target := by
  -- By induction on the way, at its end: once it refers somewhere it includes what comes after.
  induction way with
  | refl => exact Or.inl .refl
  | tail before step ih =>
    rcases step with hands | refers
    · rcases ih with forwards | ⟨composite, part, first, refers, rest⟩
      · exact Or.inl (forwards.tail hands)
      · exact Or.inr ⟨composite, part, first, refers, rest.tail (Or.inl hands)⟩
    · exact Or.inr ⟨_, _, before, refers, .refl⟩

end Catalogue

namespace Derivation

open Catalogue

/--
A seed brings a way of use to a node.

It brings all it has to what its type hands over, and all but a spread to what models and unions on
the way include.
-/
def Seed.Brings (seed : Seed) (catalogue : Catalogue) (sparesBase : Bool) (id : NodeId)
    (way : Nat) : Prop :=
  (catalogue.Forwards seed.type id ∧ seed.usage.Has way) ∨
    (catalogue.Includes sparesBase seed.type id ∧ seed.usage.Has way ∧ ¬ Usage.spread.Has way)

variable {catalogue : Catalogue} {sparesBase : Bool}

/-- The type of a seed leads to whatever the seed brings something to. -/
theorem Seed.Brings.leads {seed : Seed} {id : NodeId} {way : Nat}
    (brings : seed.Brings catalogue sparesBase id way) :
    ReflTransGen (catalogue.Leads sparesBase) seed.type id :=
  brings.elim (fun forwards => forwards.1.leads) fun includes => includes.1.leads

/-- A seed brings nothing but what it has. -/
theorem Seed.Brings.has {seed : Seed} {id : NodeId} {way : Nat}
    (brings : seed.Brings catalogue sparesBase id way) : seed.usage.Has way :=
  brings.elim And.right fun includes => includes.2.1

/-- What a node leads to gets the usage as it is or without a spread, as the step has it. -/
theorem mem_onward {id other : NodeId} {usage onwardUsage : Usage} :
    (other, onwardUsage) ∈ onward sparesBase (catalogue.nodeAt id) usage ↔
      (catalogue.HandsOver id other ∧ onwardUsage = usage) ∨
        (catalogue.RefersTo sparesBase id other ∧ onwardUsage = usage.propagated) := by
  constructor
  · -- The kinds that lead anywhere: the first three hand over, a union and a model refer.
    intro member
    unfold onward at member
    split at member
    · rename_i value kind
      simp only [List.mem_singleton, Prod.mk.injEq] at member
      exact Or.inl ⟨member.1 ▸ .array kind, member.2⟩
    · rename_i key value kind
      simp only [List.mem_singleton, Prod.mk.injEq] at member
      exact Or.inl ⟨member.1 ▸ .dict kind, member.2⟩
    · rename_i value kind
      simp only [List.mem_singleton, Prod.mk.injEq] at member
      exact Or.inl ⟨member.1 ▸ .enumValue kind, member.2⟩
    · rename_i union kind
      simp only [List.mem_map, Prod.mk.injEq] at member
      obtain ⟨variant, listed, rfl, rfl⟩ := member
      exact Or.inr ⟨.variant kind listed, rfl⟩
    · rename_i model kind
      simp only [List.mem_map, Prod.mk.injEq] at member
      obtain ⟨part, listed, rfl, rfl⟩ := member
      refine Or.inr ⟨?_, rfl⟩
      -- The parts of a model are listed one sort after the other.
      simp only [List.mem_append, List.mem_map, Option.mem_toList] at listed
      rcases listed with ((⟨property, member, rfl⟩ | given) | base) | subtype
      · exact .property kind member
      · exact .additional kind given
      · cases sparesBase with
        | true => simp at base
        | false => exact .base kind (by simpa using base) rfl
      · cases subtypes : model.subtypes with
        | none => simp [subtypes] at subtype
        | some map => exact .subtype kind subtypes (by simpa [subtypes] using subtype)
    all_goals simp at member
  · -- Conversely each way to lead on is found in the step of its kind.
    rintro (⟨step, rfl⟩ | ⟨step, rfl⟩)
    · cases step with
      | array kind => simp [onward, kind]
      | dict kind => simp [onward, kind]
      | enumValue kind => simp [onward, kind]
    · cases step with
      | property kind member =>
        simp only [onward, kind, List.mem_map, List.mem_append, Prod.mk.injEq, and_true]
        exact ⟨_, Or.inl (Or.inl (Or.inl ⟨_, member, rfl⟩)), rfl⟩
      | additional kind given =>
        simp [onward, kind, given]
      | base kind given counts =>
        subst counts
        simp [onward, kind, given]
      | subtype kind given member =>
        simp [onward, kind, given, member]
      | variant kind member => simp [onward, kind, member]

/-- What a node hands over to is all that it leads to. -/
theorem onward_of_handsOver {id other : NodeId} (step : catalogue.HandsOver id other)
    (usage : Usage) : onward sparesBase (catalogue.nodeAt id) usage = [(other, usage)] := by
  -- Each kind that hands over hands over to one node.
  cases step with
  | array kind => simp [onward, kind]
  | dict kind => simp [onward, kind]
  | enumValue kind => simp [onward, kind]

/-- A node that carries usage hands nothing over. -/
theorem not_handsOver_of_carriesUsage {id other : NodeId}
    (carries : (catalogue.nodeAt id).carriesUsage) : ¬ catalogue.HandsOver id other := by
  -- Only arrays, dictionaries and enum values hand over, and none of these has a usage.
  intro step
  cases step with
  | array kind => simp [Node.carriesUsage, Node.usage?, kind] at carries
  | dict kind => simp [Node.carriesUsage, Node.usage?, kind] at carries
  | enumValue kind => simp [Node.carriesUsage, Node.usage?, kind] at carries

/-! ## The walk -/

/-- Whatever holds of the queue, and passes from each meeting to the next, holds of all of them. -/
theorem visits_sound (holds : NodeId → Usage → Prop)
    (passes : ∀ id usage, holds id usage →
      ∀ next ∈ onward sparesBase (catalogue.nodeAt id) usage, holds next.1 next.2)
    (remaining : List NodeId) (queue : List (NodeId × Usage))
    (queued : ∀ entry ∈ queue, holds entry.1 entry.2) :
    ∀ met ∈ visits catalogue sparesBase remaining queue, holds met.1 met.2 := by
  -- By induction along the walk: what is queued holds, and passes on to what is queued later.
  induction remaining, queue using visits.induct catalogue sparesBase with
  | case1 remaining => simp [visits]
  | case2 remaining id usage queue fresh ih =>
    intro met member
    rw [visits, dif_pos fresh] at member
    rcases List.mem_cons.mp member with rfl | later
    · exact queued _ List.mem_cons_self
    · refine ih ?_ met later
      intro entry inQueue
      rcases List.mem_append.mp inQueue with before | next
      · exact queued entry (List.mem_cons_of_mem _ before)
      · exact passes id usage (queued _ List.mem_cons_self) entry next
  | case3 remaining id usage queue old ih =>
    intro met member
    rw [visits, dif_neg old] at member
    exact ih (fun entry inQueue => queued entry (List.mem_cons_of_mem _ inQueue)) met member

/-- Every queued node that remains is met. -/
theorem visits_queued (remaining : List NodeId) (queue : List (NodeId × Usage)) :
    ∀ entry ∈ queue, entry.1 ∈ remaining →
      ∃ usage, (entry.1, usage) ∈ visits catalogue sparesBase remaining queue := by
  -- By induction along the walk, as each entry is taken from the front of the queue.
  induction remaining, queue using visits.induct catalogue sparesBase with
  | case1 remaining => simp
  | case2 remaining id usage queue fresh ih =>
    intro entry inQueue left
    rw [visits, dif_pos fresh]
    by_cases same : entry.1 = id
    · exact ⟨usage, same ▸ List.mem_cons_self⟩
    · -- Another node stays among those that remain, and in the queue.
      have later : entry ∈ queue := by
        rcases List.mem_cons.mp inQueue with rfl | later
        · exact absurd rfl same
        · exact later
      obtain ⟨found, member⟩ := ih entry (List.mem_append_left _ later)
        ((List.mem_erase_of_ne same).mpr left)
      exact ⟨found, List.mem_cons_of_mem _ member⟩
  | case3 remaining id usage queue old ih =>
    intro entry inQueue left
    rw [visits, dif_neg old]
    rcases List.mem_cons.mp inQueue with rfl | later
    -- The head of the queue was met before, so it does not remain.
    · exact absurd left old
    · exact ih entry later left

/-- What a node that is met leads to is met as well, if it remains. -/
theorem visits_closed (remaining : List NodeId) (queue : List (NodeId × Usage)) :
    ∀ met ∈ visits catalogue sparesBase remaining queue,
      ∀ next, catalogue.Leads sparesBase met.1 next → next ∈ remaining →
        ∃ usage, (next, usage) ∈ visits catalogue sparesBase remaining queue := by
  -- By induction along the walk.
  induction remaining, queue using visits.induct catalogue sparesBase with
  | case1 remaining => simp [visits]
  | case2 remaining id usage queue fresh ih =>
    intro met member next step left
    rw [visits, dif_pos fresh] at member ⊢
    by_cases same : next = id
    · exact ⟨usage, same ▸ List.mem_cons_self⟩
    · have stays : next ∈ remaining.erase id := (List.mem_erase_of_ne same).mpr left
      rcases List.mem_cons.mp member with rfl | later
      · -- The node met first puts what it leads to into the queue.
        have onwards :
            ∃ passed, (next, passed) ∈ onward sparesBase (catalogue.nodeAt id) usage := by
          rcases step with hands | refers
          · exact ⟨usage, mem_onward.mpr (Or.inl ⟨hands, rfl⟩)⟩
          · exact ⟨usage.propagated, mem_onward.mpr (Or.inr ⟨refers, rfl⟩)⟩
        obtain ⟨passed, listed⟩ := onwards
        obtain ⟨found, there⟩ :=
          @visits_queued catalogue sparesBase (remaining.erase id)
            (queue ++ onward sparesBase (catalogue.nodeAt id) usage) (next, passed)
            (List.mem_append_right _ listed) stays
        exact ⟨found, List.mem_cons_of_mem _ there⟩
      · obtain ⟨found, there⟩ := ih met later next step stays
        exact ⟨found, List.mem_cons_of_mem _ there⟩
  | case3 remaining id usage queue old ih =>
    intro met member next step left
    rw [visits, dif_neg old] at member ⊢
    exact ih met member next step left

/--
A node to which a single queued node forwards is met with the usage in the queue, if it is met.

What forwards leads to one node only, so that the queue holds nothing else until the end.
-/
theorem visits_forwards {target : NodeId} (final : ∀ next, ¬ catalogue.HandsOver target next)
    (usage : Usage) (remaining : List NodeId) :
    ∀ start, catalogue.Forwards start target →
      (∃ found, (target, found) ∈ visits catalogue sparesBase remaining [(start, usage)]) →
      (target, usage) ∈ visits catalogue sparesBase remaining [(start, usage)] := by
  generalize lengthEq : remaining.length = count
  -- By strong induction on how many nodes remain, as each step of the way takes one of them.
  induction count using Nat.strongRecOn generalizing remaining with
  | ind count ih =>
    intro start way met
    rw [visits] at met ⊢
    by_cases fresh : start ∈ remaining
    · rw [dif_pos fresh] at met ⊢
      rcases ReflTransGen.cases_head way with rfl | ⟨next, step, rest⟩
      · exact List.mem_cons_self
      · have apart : target ≠ start := fun same => final next (same ▸ step)
        rw [onward_of_handsOver step, List.nil_append] at met ⊢
        -- The start is not the target, so that the target is met further on.
        obtain ⟨found, member⟩ := met
        have later : (target, found) ∈
            visits catalogue sparesBase (remaining.erase start) [(next, usage)] := by
          rcases List.mem_cons.mp member with same | later
          · exact absurd (congrArg Prod.fst same) apart
          · exact later
        have fewer : (remaining.erase start).length < count := by
          have erased := List.length_erase_of_mem fresh
          have some := List.length_pos_of_mem fresh
          omega
        exact List.mem_cons_of_mem _ (ih _ fewer _ rfl next rest ⟨found, later⟩)
    · rw [dif_neg fresh] at met
      simp [visits] at met

/-! ## Seeds -/

/-- Whatever leads somewhere from a node in range is met, if it is in range itself. -/
theorem visits_complete (start target : NodeId) (usage : Usage)
    (inside : target.index < catalogue.size)
    (way : ReflTransGen (catalogue.Leads sparesBase) start target) :
    ∃ found, (target, found) ∈ visits catalogue sparesBase catalogue.ids [(start, usage)] := by
  induction way with
  | refl =>
    exact visits_queued _ _ (start, usage) List.mem_cons_self (catalogue.mem_ids.mpr inside)
  | @tail middle target _ step ih =>
    -- A node that leads somewhere is no node out of range.
    have middleInside : middle.index < catalogue.size := by
      by_contra outside
      have kind := catalogue.nodeAt_of_ge (Nat.le_of_not_lt outside)
      rcases step with hands | refers
      · cases hands <;> simp_all [Node.outOfRange]
      · cases refers <;> simp_all [Node.outOfRange]
    obtain ⟨found, member⟩ := ih middleInside
    exact visits_closed _ _ _ member target step (catalogue.mem_ids.mpr inside)

/-- A seed meets each node with its whole usage, or with all but a spread, as the way has it. -/
theorem Seed.visits_sound (seed : Seed) :
    ∀ met ∈ seed.visits catalogue sparesBase,
      (catalogue.Forwards seed.type met.1 ∧ met.2 = seed.usage) ∨
        (catalogue.Includes sparesBase seed.type met.1 ∧ met.2 = seed.usage.propagated) := by
  -- The invariant of the walk: a usage is the whole one until a model or a union is passed.
  apply Derivation.visits_sound fun id usage =>
    (catalogue.Forwards seed.type id ∧ usage = seed.usage) ∨
      (catalogue.Includes sparesBase seed.type id ∧ usage = seed.usage.propagated)
  · -- A step of the walk: the usage is handed over as it is, or loses its spread.
    rintro id usage way ⟨next, passed⟩ member
    rcases mem_onward.mp member with ⟨hands, rfl⟩ | ⟨refers, rfl⟩
    · rcases way with ⟨forwards, rfl⟩ | ⟨⟨composite, part, first, step, rest⟩, rfl⟩
      · exact Or.inl ⟨forwards.tail hands, rfl⟩
      · exact Or.inr ⟨⟨composite, part, first, step, rest.tail (Or.inl hands)⟩, rfl⟩
    · -- From a model or a union on, a spread is lost, whether it was there or not.
      right
      rcases way with ⟨forwards, rfl⟩ | ⟨includes, rfl⟩
      · exact ⟨⟨id, next, Catalogue.Forwards.leads forwards, refers, .refl⟩, rfl⟩
      · exact ⟨⟨id, next, Catalogue.Includes.leads includes, refers, .refl⟩,
          Usage.propagated_propagated _⟩
  · intro entry queued
    rw [List.mem_singleton.mp queued]
    exact Or.inl ⟨.refl, rfl⟩

/-- The usages with which a seed meets a node that carries usage are what the seed brings to it. -/
theorem Seed.has_visits (seed : Seed) {id : NodeId} (carries : (catalogue.nodeAt id).carriesUsage)
    (way : Nat) :
    (∃ usage, (id, usage) ∈ seed.visits catalogue sparesBase ∧ usage.Has way) ↔
      seed.Brings catalogue sparesBase id way := by
  -- What carries usage is in range, and so may be met.
  have inside : id.index < catalogue.size := by
    by_contra outside
    rw [catalogue.nodeAt_of_ge (Nat.le_of_not_lt outside)] at carries
    simp [Node.outOfRange, Node.carriesUsage, Node.usage?] at carries
  constructor
  · rintro ⟨usage, member, has⟩
    rcases seed.visits_sound _ member with ⟨forwards, whole⟩ | ⟨includes, part⟩
    · exact Or.inl ⟨forwards, whole ▸ has⟩
    · subst part
      exact Or.inr ⟨includes, (Usage.has_propagated _ _).mp has⟩
  · -- Conversely what a seed brings is met along its way.
    rintro (⟨forwards, has⟩ | ⟨includes, has⟩)
    · -- The node is met, and the way that loses nothing is the first.
      refine ⟨seed.usage, ?_, has⟩
      exact visits_forwards (fun _ => not_handsOver_of_carriesUsage carries) _ _ _ forwards
        (visits_complete seed.type id seed.usage inside forwards.leads)
    · obtain ⟨usage, member⟩ :=
        visits_complete seed.type id seed.usage inside includes.leads
      refine ⟨usage, member, ?_⟩
      rcases seed.visits_sound _ member with ⟨_, whole⟩ | ⟨_, part⟩
      · simp only at whole
        exact whole ▸ has.1
      · simp only at part
        exact part ▸ (Usage.has_propagated _ _).mpr has

/-! ## Marks -/

/-- Nothing is marked out of range. -/
@[simp] theorem mark_outOfRange (usage : Usage) (access : Access) :
    mark Node.outOfRange usage access = Node.outOfRange := rfl

/-- A mark adds to the usage of a node that carries one. -/
theorem usage?_mark (node : Node) (usage : Usage) (access : Access) :
    (mark node usage access).usage? = node.usage?.map (· ||| usage) := by
  obtain ⟨origin, nullable, deprecation, doc, kind⟩ := node
  cases kind <;> rfl

/-- A mark changes nothing about what a node leads to. -/
theorem onward_mark (node : Node) (usage passed : Usage) (access : Access) :
    onward sparesBase (mark node usage access) passed = onward sparesBase node passed := by
  obtain ⟨origin, nullable, deprecation, doc, kind⟩ := node
  cases kind <;> rfl

/-- The walk only depends on what the nodes lead to. -/
theorem visits_congr {other : Catalogue}
    (same : ∀ id usage, onward sparesBase (other.nodeAt id) usage =
      onward sparesBase (catalogue.nodeAt id) usage)
    (remaining : List NodeId) (queue : List (NodeId × Usage)) :
    visits other sparesBase remaining queue = visits catalogue sparesBase remaining queue := by
  -- By induction along the walk, whose steps ask for nothing else.
  induction remaining, queue using visits.induct catalogue sparesBase with
  | case1 remaining => simp [visits]
  | case2 remaining id usage queue fresh ih =>
    rw [visits, dif_pos fresh, same, ih, visits, dif_pos fresh]
  | case3 remaining id usage queue old ih =>
    rw [visits, dif_neg old, ih, visits, dif_neg old]

/-- The marks of one walk, in the order in which the nodes were met. -/
theorem marks_induction (holds : Catalogue → Prop) {access : Access}
    (step : ∀ marked id usage, holds marked → holds (marked.modify id (mark · usage access)))
    (met : List (NodeId × Usage)) (start : holds catalogue) :
    holds (met.foldl (fun marked (id, usage) => marked.modify id fun node => mark node usage access)
      catalogue) := by
  -- By induction on the nodes that were met, from the first.
  induction met generalizing catalogue with
  | nil => exact start
  | cons entry met ih => exact ih (step catalogue entry.1 entry.2 start)

/-- A seed leaves the number of nodes, and what each of them leads to, as it was. -/
theorem Seed.apply_frame (seed : Seed) (sparesBase : Bool) (catalogue : Catalogue) :
    (seed.apply sparesBase catalogue).size = catalogue.size ∧
      ∀ id usage, onward sparesBase ((seed.apply sparesBase catalogue).nodeAt id) usage =
        onward sparesBase (catalogue.nodeAt id) usage := by
  unfold Seed.apply
  -- Each mark leaves both as they were.
  refine marks_induction (fun marked => marked.size = catalogue.size ∧
    ∀ id usage, onward sparesBase (marked.nodeAt id) usage =
      onward sparesBase (catalogue.nodeAt id) usage) ?_ _ ⟨rfl, fun _ _ => rfl⟩
  rintro marked id usage ⟨size, leads⟩
  refine ⟨by simpa using size, fun other passed => ?_⟩
  rw [Catalogue.nodeAt_modify _ (mark_outOfRange _ _)]
  split
  · rename_i same
    rw [onward_mark, same]
    exact leads id passed
  · exact leads other passed

/-- The walk of a seed is the same after another seed was applied. -/
theorem Seed.visits_apply (seed other : Seed) (catalogue : Catalogue) :
    seed.visits (other.apply sparesBase catalogue) sparesBase =
      seed.visits catalogue sparesBase := by
  -- A seed changes usage, and walks are told by the nodes and what these lead to.
  obtain ⟨size, leads⟩ := other.apply_frame sparesBase catalogue
  simp only [Seed.visits, Catalogue.ids, size]
  exact visits_congr leads _ _

/-- Marks add to the usage of a node what it is met with, and nothing else. -/
theorem usage?_marks (access : Access) (met : List (NodeId × Usage)) {id : NodeId} {before : Usage}
    (carried : (catalogue.nodeAt id).usage? = some before) :
    ∃ after, ((met.foldl
        (fun marked (id, usage) => marked.modify id fun node => mark node usage access)
        catalogue).nodeAt id).usage? = some after ∧
      ∀ way, after.Has way ↔ before.Has way ∨ ∃ usage, (id, usage) ∈ met ∧ usage.Has way := by
  -- By induction on what is met, the usage before each mark generalised.
  induction met generalizing catalogue before with
  | nil => exact ⟨before, carried, fun way => by simp⟩
  | cons entry met ih =>
    obtain ⟨first, usage⟩ := entry
    by_cases same : id = first
    · -- The first mark is on the node itself.
      have marked : ((catalogue.modify first (mark · usage access)).nodeAt id).usage? =
          some (before ||| usage) := by
        rw [Catalogue.nodeAt_modify _ (mark_outOfRange _ _), if_pos same, usage?_mark, ← same,
          carried, Option.map_some]
      obtain ⟨after, found, ways⟩ := ih marked
      refine ⟨after, found, fun way => ?_⟩
      rw [ways, Usage.has_union]
      simp only [List.mem_cons, Prod.mk.injEq]
      -- A mark is the usage before it, the one made first, or one of those made later.
      constructor
      · rintro ((old | new) | ⟨other, listed, has⟩)
        · exact Or.inl old
        · exact Or.inr ⟨usage, Or.inl ⟨same, rfl⟩, new⟩
        · exact Or.inr ⟨other, Or.inr listed, has⟩
      · rintro (old | ⟨other, ⟨_, rfl⟩ | listed, has⟩)
        · exact Or.inl (Or.inl old)
        · exact Or.inl (Or.inr has)
        · exact Or.inr ⟨other, listed, has⟩
    · have marked : ((catalogue.modify first (mark · usage access)).nodeAt id).usage? =
          some before := by
        rw [Catalogue.nodeAt_modify_ne _ same, carried]
      obtain ⟨after, found, ways⟩ := ih marked
      refine ⟨after, found, fun way => ?_⟩
      rw [ways]
      simp only [List.mem_cons, Prod.mk.injEq, same, false_and, false_or]

/-- Marks leave a node without usage without it. -/
theorem usage?_marks_none (access : Access) (met : List (NodeId × Usage)) {id : NodeId}
    (bare : (catalogue.nodeAt id).usage? = none) :
    ((met.foldl (fun marked (id, usage) => marked.modify id fun node => mark node usage access)
      catalogue).nodeAt id).usage? = none := by
  -- A node without usage has none to add to.
  refine marks_induction (fun marked => (marked.nodeAt id).usage? = none) ?_ met bare
  intro marked first usage still
  rw [Catalogue.nodeAt_modify _ (mark_outOfRange _ _)]
  split
  · rename_i same
    rw [usage?_mark, ← same, still, Option.map_none]
  · exact still

/-- Seeds add to the usage of a node what each of them brings to it, and nothing else. -/
theorem usage?_seeds (sparesBase : Bool) (seeds : List Seed) {id : NodeId} {before : Usage}
    (carried : (catalogue.nodeAt id).usage? = some before) :
    ∃ after, ((seeds.foldl (Seed.apply sparesBase) catalogue).nodeAt id).usage? = some after ∧
      ∀ way, after.Has way ↔
        before.Has way ∨ ∃ seed ∈ seeds, seed.Brings catalogue sparesBase id way := by
  -- What seeds bring is told by their walks, which do not change from one seed to the next.
  have walks : ∃ after,
      ((seeds.foldl (Seed.apply sparesBase) catalogue).nodeAt id).usage? = some after ∧
      ∀ way, after.Has way ↔ before.Has way ∨
        ∃ seed ∈ seeds, ∃ usage,
          (id, usage) ∈ seed.visits catalogue sparesBase ∧ usage.Has way := by
    -- By induction on the seeds: each adds what its own walk meets.
    induction seeds generalizing catalogue before with
    | nil => exact ⟨before, carried, fun way => by simp⟩
    | cons seed seeds ih =>
      obtain ⟨middle, marked, first⟩ :=
        usage?_marks seed.access (seed.visits catalogue sparesBase) carried
      obtain ⟨after, found, rest⟩ := ih marked
      refine ⟨after, found, fun way => ?_⟩
      rw [rest, first, or_assoc]
      have same (other : Seed) : other.visits (seed.apply sparesBase catalogue) sparesBase =
          other.visits catalogue sparesBase := other.visits_apply seed catalogue
      simp only [Seed.apply] at same
      simp only [same, List.mem_cons, exists_eq_or_imp]
  obtain ⟨after, found, ways⟩ := walks
  refine ⟨after, found, fun way => ?_⟩
  have carries : (catalogue.nodeAt id).carriesUsage := by
    simp [Node.carriesUsage, carried]
  simp only [ways, Seed.has_visits _ carries]

/-- Seeds leave a node without usage without it. -/
theorem usage?_seeds_none (seeds : List Seed) {id : NodeId}
    (bare : (catalogue.nodeAt id).usage? = none) :
    ((seeds.foldl (Seed.apply sparesBase) catalogue).nodeAt id).usage? = none := by
  -- By induction on the seeds: a mark adds to usage that is there, and here there is none.
  induction seeds generalizing catalogue with
  | nil => exact bare
  | cons seed seeds ih => exact ih (usage?_marks_none _ _ bare)

/--
After all seeds, a model, an enum or a union has the usage it had and what the seeds bring to it.

A seed brings all its usage to what its type hands over, all but a spread to what models and unions
on the way include, and nothing to anything else. The order of the seeds does not matter.
-/
theorem usage_after_seeds (catalogue : Catalogue) (sparesBase : Bool) (seeds : List Seed) :
    (∀ id before, (catalogue.nodeAt id).usage? = some before →
      ∃ after, ((seeds.foldl (Seed.apply sparesBase) catalogue).nodeAt id).usage? = some after ∧
        ∀ way, after.Has way ↔
          before.Has way ∨ ∃ seed ∈ seeds, seed.Brings catalogue sparesBase id way) ∧
    ∀ reordered : List Seed, reordered.Perm seeds → ∀ id,
      ((reordered.foldl (Seed.apply sparesBase) catalogue).nodeAt id).usage? =
        ((seeds.foldl (Seed.apply sparesBase) catalogue).nodeAt id).usage? := by
  refine ⟨fun id before carried => usage?_seeds sparesBase seeds carried, ?_⟩
  intro reordered perm id
  cases carried : (catalogue.nodeAt id).usage? with
  | none => rw [usage?_seeds_none _ carried, usage?_seeds_none _ carried]
  | some before =>
    -- Both orders bring the same ways, since they have the same seeds.
    obtain ⟨left, leftFound, leftWays⟩ := usage?_seeds sparesBase reordered carried
    obtain ⟨right, rightFound, rightWays⟩ := usage?_seeds sparesBase seeds carried
    rw [leftFound, rightFound]
    congr 1
    apply Usage.ext_has
    intro way
    simp only [leftWays, rightWays, perm.mem_iff]

/-- A model of animals that herds of animals belong to, and the list of animals in a herd. -/
def herd : Catalogue where
  nodes := #[
    { kind := .array ⟨1⟩ },
    { kind := .model
        { name := "Animal", «namespace» := "Zoo", crossId := "Zoo.Animal"
          properties :=
            [{ name := "herd", type := ⟨0⟩, role := .member false },
              { name := "keeper", type := ⟨2⟩, role := .member false }] } },
    { kind := .model { name := "Keeper", «namespace» := "Zoo", crossId := "Zoo.Keeper" } }]

/-- The seeds of a method that takes a herd in single parameters and hands back its keeper. -/
def herdSeeds : List Seed :=
  [{ type := ⟨0⟩, usage := .input ||| .spread, access := .everyone },
    { type := ⟨2⟩, usage := .output, access := .everyone }]

/--
In the herd, where nodes lead around in a cycle, both orders of the seeds give the same usage.
-/
theorem usage_after_seeds_herd :
    (herd.nodeAt ⟨2⟩).usage? = some .none ∧ herdSeeds.reverse.Perm herdSeeds ∧
      (∃ after, ((herdSeeds.foldl (Seed.apply false) herd).nodeAt ⟨2⟩).usage? = some after ∧
        ∀ way, after.Has way ↔
          Usage.none.Has way ∨ ∃ seed ∈ herdSeeds, seed.Brings herd false ⟨2⟩ way) ∧
      ((herdSeeds.reverse.foldl (Seed.apply false) herd).nodeAt ⟨2⟩).usage? =
        ((herdSeeds.foldl (Seed.apply false) herd).nodeAt ⟨2⟩).usage? := by
  -- The condition that the node carries usage can be read off the herd.
  have carried : (herd.nodeAt ⟨2⟩).usage? = some .none := rfl
  have perm : herdSeeds.reverse.Perm herdSeeds := List.reverse_perm herdSeeds
  exact ⟨carried, perm, (usage_after_seeds herd false herdSeeds).1 ⟨2⟩ .none carried,
    (usage_after_seeds herd false herdSeeds).2 herdSeeds.reverse perm ⟨2⟩⟩

end Derivation

end ClientModel
