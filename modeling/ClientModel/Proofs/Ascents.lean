import Mathlib.Logic.Relation
import ClientModel.Derivation.State
import ClientModel.Proofs.Hierarchy
import ClientModel.Proofs.Sequences

/-!
Walks from a container outwards, on the definitions that calls lead to.

Nothing but the declarations themselves brings such a walk to an end: each container was declared
after the one around it.
-/

namespace ClientModel.Service.Definition

variable {definition : Definition} {start : Option ContainerId} {above : List ContainerId}

/-! ## Walks -/

/-- What a walk meets that goes from a container to the one around it until there is none. -/
inductive Ascends (definition : Definition) : Option ContainerId → List ContainerId → Prop
  | outside : Ascends definition none []
  | step {id : ContainerId} {above : List ContainerId}
      (rest : Ascends definition (definition.containerAt id).parent above) :
      Ascends definition (some id) (id :: above)

/-- What a walk finds that stops at the first container that is wanted. -/
inductive Seeks (definition : Definition) (wanted : ContainerId → Bool) :
    Option ContainerId → Option ContainerId → Prop
  | outside : Seeks definition wanted none none
  | found {id : ContainerId} (isWanted : wanted id = true) :
      Seeks definition wanted (some id) (some id)
  | step {id : ContainerId} {result : Option ContainerId} (unwanted : wanted id = false)
      (rest : Seeks definition wanted (definition.containerAt id).parent result) :
      Seeks definition wanted (some id) result

/-- There is no more than one way to walk. -/
theorem Ascends.unique {other : List ContainerId} (walk : definition.Ascends start above)
    (again : definition.Ascends start other) : above = other := by
  -- By induction on the first walk; each step leads to the one container around.
  induction walk generalizing other with
  | outside =>
    cases again
    rfl
  | step _ ih =>
    cases again with
    | step rest => rw [ih rest]

/-- Where the whole walk ends, a walk that stops early does so at the first one that is wanted. -/
theorem Ascends.seeks (walk : definition.Ascends start above) (wanted : ContainerId → Bool) :
    definition.Seeks wanted start (above.find? wanted) := by
  -- Step by step outwards: what is wanted first ends the search, and what is not is passed by.
  induction walk with
  | outside => exact .outside
  | @step id above _ ih =>
    cases isWanted : wanted id with
    | true =>
      rw [List.find?_cons_of_pos isWanted]
      exact .found isWanted
    | false =>
      rw [List.find?_cons_of_neg (by simp [isWanted])]
      exact .step isWanted ih

/-- A search for one entry finds it where it is listed. -/
theorem find?_beq_self (list : List ContainerId) (id : ContainerId) :
    list.find? (· == id) = if list.contains id then some id else none := by
  -- By induction on the list, whose first entry is the one that is looked for or not.
  induction list with
  | nil => rfl
  | cons first rest ih =>
    by_cases same : first = id
    · simp [same]
    · simp [same, Ne.symm same, ih]

section

variable (linked : definition.IsLinked)
include linked

/-- Where lists are sound, the walk from a container meets all that enclose it, and ends. -/
theorem IsLinked.ascends (id : ContainerId) :
    definition.Ascends (some id) (definition.enclosing id) := by
  -- By induction outwards, since what is around a container was declared before it.
  induction id using linked.induct with
  | step id ih =>
    rw [linked.enclosing_eq]
    refine .step ?_
    cases isParent : (definition.containerAt id).parent with
    | none => exact .outside
    | some parent => exact ih parent isParent

/-- A container is within another one if steps outwards lead there. -/
theorem IsLinked.isWithin_iff {id ancestor : ContainerId} :
    definition.isWithin id ancestor = true ↔
      Relation.ReflTransGen (fun inner outer => (definition.containerAt inner).parent = some outer)
        id ancestor := by
  rw [isWithin, List.contains_iff_mem]
  constructor
  · -- From inside, by induction on what is around; from outside, by induction on the steps.
    intro encloses
    induction id using linked.induct with
    | step id ih =>
      rcases linked.mem_enclosing.mp encloses with same | ⟨parent, isParent, above⟩
      · exact same ▸ .refl
      · exact .head isParent (ih parent isParent above)
  · intro steps
    induction steps using Relation.ReflTransGen.head_induction_on with
    | refl => exact linked.mem_enclosing_self ancestor
    | head isParent _ ih => exact linked.mem_enclosing.mpr (Or.inr ⟨_, isParent, ih⟩)

/-- A container is within itself. -/
theorem IsLinked.isWithin_refl (id : ContainerId) : definition.isWithin id id = true := by
  simpa [isWithin] using linked.mem_enclosing_self id

/-- Two containers within one another are one. -/
theorem IsLinked.isWithin_antisymm {id other : ContainerId}
    (first : definition.isWithin id other = true) (second : definition.isWithin other id = true) :
    id = other := by
  -- Being within is a place in a line of ancestors, and lines run one way only.
  simp only [isWithin, List.contains_iff_mem] at first second
  exact linked.enclosing_antisymm second first

/-- What is within a container is within whatever that one is within. -/
theorem IsLinked.isWithin_trans {id other ancestor : ContainerId}
    (first : definition.isWithin id other = true)
    (second : definition.isWithin other ancestor = true) :
    definition.isWithin id ancestor = true := by
  -- Being within is being listed among what is around.
  simp only [isWithin, List.contains_iff_mem] at first second ⊢
  exact linked.enclosing_trans second first

end

/-! ## Nearest services -/

/-- The container at or above another one that declares a service, and is within all that do. -/
structure IsNearestService (definition : Definition) (id root : ContainerId) : Prop where
  within : definition.isWithin id root = true
  declares : (definition.containerAt root).service.isSome = true
  nearest : ∀ other, definition.isWithin id other = true →
    (definition.containerAt other).service.isSome = true → definition.isWithin root other = true

section

variable (linked : definition.IsLinked) {id root : ContainerId}
include linked

/-- The nearest container that was found is within all others that declare a service. -/
theorem IsLinked.isNearestService (found : definition.serviceRoot? id = some root) :
    definition.IsNearestService id root := by
  rw [serviceRoot?] at found
  have declares := List.find?_some found
  refine ⟨by simpa [isWithin] using List.mem_of_find?_eq_some found, declares, ?_⟩
  simp only [isWithin, List.contains_iff_mem]
  -- By induction outwards; the container itself is within whatever is around it.
  induction id using linked.induct with
  | step id ih =>
    intro other encloses declares
    rw [linked.enclosing_eq, List.find?_cons] at found
    cases serves : (definition.containerAt id).service.isSome with
    | true =>
      simp only [serves] at found
      exact Option.some.inj found ▸ encloses
    | false =>
      simp only [serves] at found
      rcases linked.mem_enclosing.mp encloses with rfl | ⟨parent, isParent, above⟩
      · rw [serves] at declares
        cases declares
      · rw [isParent] at found
        exact ih parent isParent found other above declares

/-- The root of a service is the nearest container around that declares one. -/
theorem IsLinked.serviceRoot?_eq_some_iff :
    definition.serviceRoot? id = some root ↔ definition.IsNearestService id root := by
  refine ⟨linked.isNearestService, fun isNearest => ?_⟩
  cases found : definition.serviceRoot? id with
  | none =>
    rw [serviceRoot?, List.find?_eq_none] at found
    have encloses : root ∈ definition.enclosing id := by simpa [isWithin] using isNearest.within
    exact absurd isNearest.declares (found root encloses)
  | some other =>
    -- Each of two nearest ones is within the other.
    have isOther := linked.isNearestService found
    have inner := isNearest.nearest other isOther.within isOther.declares
    have outer := isOther.nearest root isNearest.within isNearest.declares
    rw [linked.isWithin_antisymm inner outer]

end

/-- There is no root of a service just if nothing around declares one. -/
theorem serviceRoot?_eq_none_iff {id : ContainerId} :
    definition.serviceRoot? id = none ↔ ∀ other, definition.isWithin id other = true →
      (definition.containerAt other).service = none := by
  simp [serviceRoot?, isWithin]

/-! ## Counting -/

section

variable (linked : definition.IsLinked)
include linked

/-- A container is listed once by the one around it, and by no other. -/
theorem IsLinked.count_children (id child : ContainerId) :
    (definition.containerAt id).children.count child =
      if (definition.containerAt child).parent = some id then 1 else 0 := by
  -- A list without repetitions counts a member once, and membership is what links tell.
  rw [(linked.children_nodup id).count]
  exact if_congr (linked.mem_children id child) rfl rfl

/-- An operation that is declared is listed once by its container, and by no other. -/
theorem IsLinked.count_operations {operation : OperationId}
    (declared : definition.HasOperation operation) (id : ContainerId) :
    (definition.containerAt id).operations.count operation =
      if (definition.operationAt operation).container = id then 1 else 0 := by
  -- No operation is listed twice, so that it is enough to know whether it is listed.
  rw [(linked.operations_nodup id).count]
  exact if_congr ((linked.mem_operations id operation).trans (and_iff_right declared)) rfl rfl

end

/-! ## Definitions that calls lead to -/

/-- Containers and operations are listed where they belong, and containers form trees. -/
structure IsForest (definition : Definition) : Prop where
  parent_lt : ∀ id parent, (definition.containerAt id).parent = some parent →
    parent.index < id.index
  children : ∀ id child, (definition.containerAt id).children.count child =
    if (definition.containerAt child).parent = some id then 1 else 0
  home : ∀ operation, definition.Declares (.operation operation) →
    definition.Declares (.container (definition.operationAt operation).container)
  operations : ∀ operation, definition.Declares (.operation operation) →
    ∀ id, (definition.containerAt id).operations.count operation =
      if (definition.operationAt operation).container = id then 1 else 0

/-- Walks outwards end, and tell what they are asked for. -/
structure IsWalkable (definition : Definition) : Prop where
  ends : ∀ id, ∃ above, definition.Ascends (some id) above
  fullName : ∀ id above, definition.Ascends (some id) above → definition.fullName id =
    ".".intercalate (above.reverse.map fun container => (definition.containerAt container).name)
  parameters : ∀ (state : Derivation.State) id above, definition.Ascends (some id) above →
    state.parametersInScope definition id =
      above.flatMap fun container => (state.clientParameters.get? container).getD []
  within : ∀ id ancestor, definition.Seeks (· == ancestor) (some id)
    (if definition.isWithin id ancestor then some ancestor else none)
  service : ∀ id, definition.Seeks
    (fun container => (definition.containerAt container).service.isSome) (some id)
    (definition.serviceRoot? id)
  within_refl : ∀ id, definition.isWithin id id = true
  within_antisymm : ∀ id other, definition.isWithin id other = true →
    definition.isWithin other id = true → id = other
  within_trans : ∀ id other ancestor, definition.isWithin id other = true →
    definition.isWithin other ancestor = true → definition.isWithin id ancestor = true
  within_iff : ∀ id ancestor, definition.isWithin id ancestor = true ↔ Relation.ReflTransGen
    (fun inner outer => (definition.containerAt inner).parent = some outer) id ancestor
  nearest : ∀ id root,
    definition.serviceRoot? id = some root ↔ definition.IsNearestService id root
  unserved : ∀ id, definition.serviceRoot? id = none ↔ ∀ other,
    definition.isWithin id other = true → (definition.containerAt other).service = none

section

variable (linked : definition.IsLinked)
include linked

/-- Definitions with linked lists form forests. -/
theorem IsLinked.isForest (closed : definition.IsClosed) : definition.IsForest where
  parent_lt := linked.parent_lt
  children := linked.count_children
  home operation declared := closed.operationAt declared _ (by simp [Operation.cites])
  operations _ declared := linked.count_operations declared

/-- In a definition with linked lists every walk outwards ends, and comes to what is asked for. -/
theorem IsLinked.isWalkable : definition.IsWalkable where
  -- Every walk outwards goes the way of the enclosing containers, so each reader of a walk can be
  -- asked of those.
  ends id := ⟨_, linked.ascends id⟩
  fullName id above walk := by rw [walk.unique (linked.ascends id), Definition.fullName]
  parameters state id above walk := by
    rw [walk.unique (linked.ascends id), Derivation.State.parametersInScope]
  within id ancestor := by
    rw [isWithin, ← find?_beq_self]
    exact (linked.ascends id).seeks _
  service id := (linked.ascends id).seeks _
  within_refl := linked.isWithin_refl
  within_antisymm _ _ := linked.isWithin_antisymm
  within_trans _ _ _ := linked.isWithin_trans
  within_iff _ _ := linked.isWithin_iff
  nearest _ _ := linked.serviceRoot?_eq_some_iff
  unserved _ := serviceRoot?_eq_none_iff

end

end ClientModel.Service.Definition

namespace ClientModel.Service.Draft

/-- Whatever calls are made, the declarations fit together, and walks outwards end. -/
theorem declarations_hold_together {draft : Draft} {handed : List Declaration}
    (drafted : draft.IsDrafted handed) :
    draft.definition.DeclaresAll handed ∧ draft.definition.IsClosed ∧
      draft.definition.IsForest ∧ draft.definition.IsWalkable := by
  -- What every call preserves tells the rest.
  obtain ⟨coherent, there⟩ := drafted.coherent
  have linked := coherent.made.isLinked
  exact ⟨there, coherent.closed, linked.isForest coherent.closed, linked.isWalkable⟩

/-- An orchard with a service at its root, and the identifiers that its calls have handed out. -/
def orchard : Draft × List Declaration :=
  let calls : List Call := [
    .container "Orchard" false none,
    .setService ⟨0⟩ { apiVersions := ["1"] },
    .container "Trees" true (some ⟨0⟩),
    .container "Pears" true (some ⟨1⟩),
    .scalar "string",
    .model { name := some "Pear" },
    .property ⟨1⟩ "sort" ⟨0⟩,
    .operation ⟨2⟩ "plant" .post "/pears",
    .methodParameter ⟨0⟩ "sort" ⟨0⟩,
    .spreadBody ⟨0⟩ [⟨1⟩] ["application/json"],
    .addResponse ⟨0⟩ { status := .code 201, body := some { type := ⟨1⟩ } }]
  calls.foldl (fun made call =>
    let (ids, draft) := call.perform.run made.1
    (draft, made.2 ++ ids)) ({}, [])

/-- Two containers further in, the service at the root is the nearest one. -/
example : orchard.1.definition.serviceRoot? ⟨2⟩ = some ⟨0⟩ := by decide +kernel

/-- The orchard is drafted by declaration calls. -/
theorem orchard_isDrafted : orchard.1.IsDrafted orchard.2 := by
  -- Each call is given what earlier calls have handed out, and none of them changes at will.
  have root := IsDrafted.start.call (.container "Orchard" false none) (by decide +kernel) trivial
  have service := root.call (.setService ⟨0⟩ { apiVersions := ["1"] }) (by decide +kernel) trivial
  have trees := service.call (.container "Trees" true (some ⟨0⟩)) (by decide +kernel) trivial
  have pears := trees.call (.container "Pears" true (some ⟨1⟩)) (by decide +kernel) trivial
  have string := pears.call (.scalar "string") (by decide +kernel) trivial
  have pear := string.call (.model { name := some "Pear" }) (by decide +kernel) trivial
  have sort := pear.call (.property ⟨1⟩ "sort" ⟨0⟩) (by decide +kernel) trivial
  have plant := sort.call (.operation ⟨2⟩ "plant" .post "/pears") (by decide +kernel) trivial
  have given := plant.call (.methodParameter ⟨0⟩ "sort" ⟨0⟩) (by decide +kernel) trivial
  have body := given.call (.spreadBody ⟨0⟩ [⟨1⟩] ["application/json"]) (by decide +kernel) trivial
  exact body.call (.addResponse ⟨0⟩ { status := .code 201, body := some { type := ⟨1⟩ } })
    (by decide +kernel) trivial

/-- In the orchard the declarations fit together, and its walks end. -/
theorem declarations_hold_together_orchard :
    orchard.1.IsDrafted orchard.2 ∧ orchard.1.definition.DeclaresAll orchard.2 ∧
      orchard.1.definition.IsClosed ∧ orchard.1.definition.IsForest ∧
      orchard.1.definition.IsWalkable :=
  ⟨orchard_isDrafted, declarations_hold_together orchard_isDrafted⟩

end ClientModel.Service.Draft
