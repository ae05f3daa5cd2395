import Mathlib.Data.List.Nodup
import ClientModel.Proofs.Placement

/-!
Which containers client trees are made of.

A tree holds the containers below its root down to the next root, and of these at least all that
have operations. No container is in two trees, or in one tree twice.
-/

namespace ClientModel.Derivation

namespace ClientTree

mutual

/-- The container of a client, and those of all sub-clients, each before its own sub-clients. -/
def containers : ClientTree → List ContainerId
  | .node container groups => container :: containersAll groups

/-- The containers of the trees of a list. -/
def containersAll : List ClientTree → List ContainerId
  | [] => []
  | group :: rest => group.containers ++ containersAll rest

end

/-- The containers of several trees are those of each, one tree after the other. -/
theorem containersAll_eq (trees : List ClientTree) :
    containersAll trees = trees.flatMap containers := by
  -- By induction on the list of trees, as the function is defined.
  induction trees with
  | nil => rfl
  | cons group rest ih => rw [containersAll, ih, List.flatMap_cons]

/-- A tree has the container at its top, and then those of its groups. -/
theorem containers_eq (tree : ClientTree) :
    tree.containers = tree.container :: containersAll tree.groups := by
  cases tree
  rfl

end ClientTree

namespace Context

variable {context : Context}

/-- The second container lies within the first, and no root lies between the two. -/
structure IsBelow (context : Context) (outer inner : ContainerId) : Prop where
  encloses : outer ∈ context.definition.enclosing inner
  noRoot : ∀ between ∈ context.definition.enclosing inner,
    outer ∈ context.definition.enclosing between → between ≠ outer → between ∉ context.roots

/-- A tree that is made for a container has it at its top, however deep it may get. -/
@[simp] theorem container_clientTreeWithin (depth : Nat) (container : ContainerId) :
    (context.clientTreeWithin depth container).container = container := by
  -- The container is put at the top before its groups are looked for, so the depth makes no
  -- difference.
  cases depth
  · rfl
  · rfl

/-- The groups of a tree are trees of containers in its own that are no roots. -/
theorem mem_groups {depth : Nat} {container : ContainerId} {group : ClientTree} :
    group ∈ (context.clientTreeWithin (depth + 1) container).groups ↔
      ∃ child ∈ (context.definition.containerAt container).children, child ∉ context.roots ∧
        group = context.clientTreeWithin depth child ∧
        (context.operationsOf child ≠ [] ∨ group.groups ≠ []) := by
  rw [clientTreeWithin, ClientTree.groups, List.mem_filter, List.mem_map]
  constructor
  · rintro ⟨⟨child, listed, rfl⟩, kept⟩
    -- A group is kept for operations of its own, or for what is below it.
    obtain ⟨isChild, notRoot⟩ := List.mem_filter.mp listed
    refine ⟨child, isChild, by simpa using notRoot, rfl, ?_⟩
    simpa using kept
  · rintro ⟨child, isChild, notRoot, rfl, kept⟩
    refine ⟨⟨child, List.mem_filter.mpr ⟨isChild, by simpa using notRoot⟩, rfl⟩, ?_⟩
    simpa using kept

namespace IsBelow

variable (linked : context.definition.IsLinked) {outer inner root other parent : ContainerId}
include linked

/-- A container lies below itself. -/
theorem refl (container : ContainerId) : context.IsBelow container container where
  encloses := linked.mem_enclosing_self container
  noRoot _ inside around apart :=
    -- Nothing lies both around a container and within it but the container itself.
    absurd (linked.enclosing_antisymm inside around) apart

/-- What lies below a container that is no root lies below the one around it. -/
theorem up (below : context.IsBelow outer inner)
    (isParent : (context.definition.containerAt outer).parent = some parent)
    (notRoot : outer ∉ context.roots) : context.IsBelow parent inner where
  encloses := linked.enclosing_trans (linked.mem_enclosing_parent isParent) below.encloses
  -- What is between the two lies either inside the container that was passed or around it.
  noRoot between inside around apart := by
    rcases linked.enclosing_total below.encloses inside with within | encloses
    · -- Further in than the container that was passed, nothing is new.
      by_cases same : between = outer
      · rw [same]
        exact notRoot
      · exact below.noRoot between inside within same
    · -- Further out there is nothing up to the parent.
      rcases linked.mem_enclosing.mp encloses with same | ⟨_, isAround, above⟩
      · rw [same]
        exact notRoot
      · obtain rfl := Option.some.inj (isParent.symm.trans isAround)
        exact absurd (linked.enclosing_antisymm above around) apart

/-- Below a container lies a container in it, unless nothing is further in. -/
theorem down (below : context.IsBelow outer inner) (apart : inner ≠ outer) :
    ∃ child, (context.definition.containerAt child).parent = some outer ∧
      child ∉ context.roots ∧ context.IsBelow child inner := by
  obtain ⟨child, isChild, within⟩ : ∃ child,
      (context.definition.containerAt child).parent = some outer ∧
        child ∈ context.definition.enclosing inner := by
    -- The way outwards from the inner container comes to the child just before the outer one.
    have encloses := below.encloses
    clear below
    induction inner using linked.induct with
    | step inner ih =>
      rcases linked.mem_enclosing.mp encloses with same | ⟨parent, isParent, above⟩
      · exact absurd same.symm apart
      · by_cases same : parent = outer
        · subst same
          exact ⟨inner, isParent, linked.mem_enclosing_self inner⟩
        · obtain ⟨child, isChild, within⟩ := ih parent isParent same above
          exact ⟨child, isChild,
            linked.enclosing_trans within (linked.mem_enclosing_parent isParent)⟩
  have around := linked.mem_enclosing_parent isChild
  have deeper := linked.parent_lt child outer isChild
  -- Containers are numbered inwards, so that the outer one is not met again below its child.
  refine ⟨child, isChild, below.noRoot child within around ?_, within, ?_⟩
  · rintro rfl
    omega
  · intro between inside encloses _
    refine below.noRoot between inside (linked.enclosing_trans around encloses) ?_
    rintro rfl
    have := linked.index_le encloses
    omega

/-- A container lies below one root at most. -/
theorem unique (first : context.IsBelow root inner) (second : context.IsBelow other inner)
    (isRoot : root ∈ context.roots) (isOther : other ∈ context.roots) : root = other := by
  -- Of two roots around a container, the outer one has the inner one in between.
  by_contra apart
  rcases linked.enclosing_total first.encloses second.encloses with around | around
  · exact first.noRoot other second.encloses around (Ne.symm apart) isOther
  · exact second.noRoot root first.encloses around apart isRoot

end IsBelow

/-- The nearest root of a container is the one that it lies below. -/
theorem nearestRoot?_eq_some_iff (linked : context.definition.IsLinked)
    {container root : ContainerId} : context.nearestRoot? container = some root ↔
      root ∈ context.roots ∧ context.IsBelow root container := by
  -- By induction outwards: either the container is a root, or the search goes on at its parent.
  induction container using linked.induct with
  | step container ih =>
    rw [nearestRoot?, linked.enclosing_eq, List.find?_cons]
    by_cases isRoot : container ∈ context.roots
    · -- A root is its own nearest one.
      have found : context.roots.contains container = true := by simpa using isRoot
      rw [found]
      simp only [Option.some.injEq]
      constructor
      · rintro rfl
        exact ⟨isRoot, .refl linked _⟩
      · rintro ⟨isOther, below⟩
        exact ((IsBelow.refl linked container).unique linked below isRoot isOther)
    · have missing : context.roots.contains container = false := by simpa using isRoot
      rw [missing]
      cases isParent : (context.definition.containerAt container).parent with
      | none =>
        -- Around the container there is nothing that could be a root.
        simp only [Option.map_none, Option.getD_none, List.find?_nil, reduceCtorEq, false_iff,
          not_and]
        intro isOther below
        rcases linked.mem_enclosing.mp below.encloses with same | ⟨_, isAround, _⟩
        · exact isRoot (same ▸ isOther)
        · rw [isParent] at isAround
          cases isAround
      | some parent =>
        -- Below another root, it makes no difference whether one starts here or at the parent.
        refine Iff.trans (ih parent isParent) (and_congr_right fun isOther => ?_)
        have within := linked.mem_enclosing_parent isParent
        constructor
        · intro below
          refine ⟨linked.enclosing_trans below.encloses within, ?_⟩
          intro between inside around apart
          rcases linked.mem_enclosing.mp inside with same | ⟨_, isAround, above⟩
          · rw [same]
            exact isRoot
          · obtain rfl := Option.some.inj (isParent.symm.trans isAround)
            exact below.noRoot between above around apart
        · intro below
          rcases linked.mem_enclosing.mp below.encloses with same | ⟨_, isAround, above⟩
          · exact absurd (same ▸ isOther) isRoot
          · obtain rfl := Option.some.inj (isParent.symm.trans isAround)
            exact ⟨above, fun between inside =>
              below.noRoot between (linked.enclosing_trans inside within)⟩

/-! ## Containers of trees -/

/-- What a tree holds lies below its container, with no root between. -/
theorem isBelow_of_mem (linked : context.definition.IsLinked) {depth : Nat}
    {outer inner : ContainerId}
    (member : inner ∈ (context.clientTreeWithin depth outer).containers) :
    context.IsBelow outer inner := by
  induction depth generalizing outer with
  | zero =>
    obtain rfl : inner = outer := by simpa [clientTreeWithin, ClientTree.containers,
      ClientTree.containersAll] using member
    exact .refl linked _
  | succ depth ih =>
    rw [ClientTree.containers_eq, List.mem_cons, ClientTree.containersAll_eq,
      List.mem_flatMap] at member
    rcases member with own | ⟨group, isGroup, inGroup⟩
    · rw [own, container_clientTreeWithin]
      exact .refl linked _
    -- A group is the tree of a child that is no root, which may be passed.
    · obtain ⟨child, isChild, notRoot, rfl, _⟩ := mem_groups.mp isGroup
      exact (ih inGroup).up linked ((linked.mem_children _ _).mp isChild) notRoot

/-- A tree that is deep enough holds whatever lies below its container and has operations. -/
theorem mem_containers_of_isBelow (linked : context.definition.IsLinked) {depth : Nat}
    {outer inner : ContainerId} (below : context.IsBelow outer inner)
    (busy : context.operationsOf inner ≠ []) (deep : inner.index ≤ outer.index + depth) :
    inner ∈ (context.clientTreeWithin depth outer).containers := by
  by_cases same : inner = outer
  · rw [ClientTree.containers_eq, container_clientTreeWithin, same]
    exact List.mem_cons_self
  · -- The way down leads through a sub-client, which is kept for what lies below it.
    obtain ⟨child, isChild, notRoot, further⟩ := below.down linked same
    have childDeeper := linked.parent_lt child outer isChild
    have innerDeeper := linked.index_le further.encloses
    induction depth generalizing outer child with
    | zero => omega
    -- One level down the child takes the place of the outer container; its own tree is less deep.
    | succ depth ih =>
      have inGroup : inner ∈ (context.clientTreeWithin depth child).containers := by
        by_cases last : inner = child
        · rw [ClientTree.containers_eq, container_clientTreeWithin, last]
          exact List.mem_cons_self
        · obtain ⟨next, isNext, nextFree, nextBelow⟩ := further.down linked last
          have nextDeeper := linked.parent_lt next child isNext
          have nextIndex := linked.index_le nextBelow.encloses
          exact ih further (by omega) last next isNext nextFree nextBelow nextDeeper nextIndex
      rw [ClientTree.containers_eq, List.mem_cons, ClientTree.containersAll_eq, List.mem_flatMap]
      -- The group is kept, since it has operations itself or a group that holds the inner one.
      refine Or.inr ⟨_, mem_groups.mpr ⟨child, (linked.mem_children _ _).mpr isChild, notRoot, rfl,
        ?_⟩, inGroup⟩
      rw [ClientTree.containers_eq, container_clientTreeWithin, List.mem_cons] at inGroup
      rcases inGroup with rfl | deeper
      · exact Or.inl busy
      · refine Or.inr fun none => ?_
        rw [none] at deeper
        cases deeper

/-- No container is in a tree twice. -/
theorem containers_nodup (linked : context.definition.IsLinked) (depth : Nat)
    (container : ContainerId) : (context.clientTreeWithin depth container).containers.Nodup := by
  induction depth generalizing container with
  | zero => simp [clientTreeWithin, ClientTree.containers, ClientTree.containersAll]
  -- One level down the groups hold the trees of children, which are shallower by one.
  | succ depth ih =>
    rw [ClientTree.containers_eq, container_clientTreeWithin, ClientTree.containersAll_eq]
    refine List.nodup_cons.mpr ⟨fun again => ?_, List.nodup_flatMap.mpr ⟨?_, ?_⟩⟩
    · -- Whatever is in a group was declared later than the container itself.
      obtain ⟨group, isGroup, inGroup⟩ := List.mem_flatMap.mp again
      obtain ⟨child, isChild, _, rfl, _⟩ := mem_groups.mp isGroup
      have := linked.index_le (isBelow_of_mem linked inGroup).encloses
      have := linked.parent_lt child container ((linked.mem_children _ _).mp isChild)
      omega
    · intro group isGroup
      obtain ⟨child, _, _, rfl, _⟩ := mem_groups.mp isGroup
      exact ih child
    · -- Different children have nothing in common.
      rw [clientTreeWithin, ClientTree.groups]
      refine List.Pairwise.filter _ (List.pairwise_map.mpr ?_)
      have distinct := (linked.children_nodup container).filter fun child =>
        !context.roots.contains child
      refine List.Pairwise.imp_of_mem ?_ distinct
      intro left right isLeft isRight apart inner inLeft inRight
      have leftParent := (linked.mem_children _ _).mp (List.mem_filter.mp isLeft).1
      have rightParent := (linked.mem_children _ _).mp (List.mem_filter.mp isRight).1
      -- Two children around one container would be around each other.
      rcases linked.enclosing_total (isBelow_of_mem linked inLeft).encloses
        (isBelow_of_mem linked inRight).encloses with around | around
      · exact apart (linked.eq_of_siblings rightParent leftParent around)
      · exact apart (linked.eq_of_siblings leftParent rightParent around).symm

/-- A container with operations is in the tree of its nearest root, and in no other tree. -/
theorem mem_clientTree_iff (linked : context.definition.IsLinked) {container root : ContainerId}
    (isRoot : root ∈ context.roots) (busy : context.operationsOf container ≠ []) :
    container ∈ (context.clientTree root).containers ↔
      context.nearestRoot? container = some root := by
  rw [nearestRoot?_eq_some_iff linked]
  constructor
  · intro member
    exact ⟨isRoot, isBelow_of_mem linked member⟩
  · rintro ⟨_, below⟩
    refine mem_containers_of_isBelow linked below busy ?_
    -- A container in another one is in range.
    by_cases inside : container.index < context.definition.containers.size
    · omega
    · rcases linked.mem_enclosing.mp below.encloses with same | ⟨_, isParent, _⟩
      · rw [same]
        omega
      · rw [Service.Definition.parent_of_ge (by omega)] at isParent
        cases isParent

/-- No container is in two trees of a run, or in one of them twice. -/
theorem allContainers_nodup (sound : context.IsSound) :
    (context.roots.flatMap fun root => (context.clientTree root).containers).Nodup := by
  refine List.nodup_flatMap.mpr ⟨fun root _ => containers_nodup sound.linked _ root, ?_⟩
  refine List.Pairwise.imp_of_mem ?_ sound.roots_nodup
  -- A container in two trees would lie below two roots.
  intro left right isLeft isRight apart inner inLeft inRight
  exact apart ((isBelow_of_mem sound.linked inLeft).unique sound.linked
    (isBelow_of_mem sound.linked inRight) isLeft isRight)

end Context

end ClientModel.Derivation
