import ClientModel.Proofs.Methods

/-!
How the clients of a package lie below each other, and what they are made with.

Sub-clients belong to containers that lie directly in the one of their parent. Once a client is
derived it takes no further parameters, so that the names of all that it ever takes are among those
that it is made with.
-/

namespace ClientModel.Derivation

open Service (Definition)

/-! ## Walks -/

section

variable {client inner innermost : Client}

/-- The walk from a client begins with the client itself. -/
theorem mem_walk_self (client : Client) : client ∈ client.walk :=
  mem_walk.mpr (Or.inl rfl)

mutual

/-- What is below a client below another is below that one as well. -/
theorem mem_walk_trans {inner innermost : Client} (below : innermost ∈ inner.walk) :
    (client : Client) → inner ∈ client.walk → innermost ∈ client.walk
  | ⟨_, _, _, _, _, _, _, children⟩, member => by
    -- The walk from a client goes through its children, so that the recursion follows them.
    rcases mem_walk.mp member with rfl | deeper
    · exact below
    · exact mem_walk.mpr (Or.inr (mem_walkAll_trans below children deeper))

/-- What is below a client is below whatever that client is below. -/
theorem mem_walkAll_trans {inner innermost : Client} (below : innermost ∈ inner.walk) :
    (clients : List Client) → inner ∈ Client.walkAll clients → innermost ∈ Client.walkAll clients
  | [], member => absurd member List.not_mem_nil
  | client :: rest, member => by
    -- The walk from a list goes through its clients one after the other.
    rcases List.mem_append.mp member with first | later
    · exact List.mem_append_left _ (mem_walk_trans below client first)
    · exact List.mem_append_right _ (mem_walkAll_trans below rest later)

end

mutual

/-- A client below another is that one itself, or a sub-client of one below it. -/
theorem eq_or_parent_of_mem_walk {inner : Client} :
    (client : Client) → inner ∈ client.walk →
      inner = client ∨ ∃ parent ∈ client.walk, inner ∈ parent.children
  | ⟨_, _, _, _, _, _, _, children⟩, member => by
    rcases mem_walk.mp member with same | deeper
    · exact Or.inl same
    -- Further down, it is a child of the client itself or of one below.
    · rcases mem_or_parent_of_mem_walkAll children deeper with direct | ⟨parent, below, isChild⟩
      · exact Or.inr ⟨_, mem_walk_self _, direct⟩
      · exact Or.inr ⟨parent, mem_walk.mpr (Or.inr below), isChild⟩

/-- A client in the walk from a list is in the list, or a sub-client of another one in the walk. -/
theorem mem_or_parent_of_mem_walkAll {inner : Client} :
    (clients : List Client) → inner ∈ Client.walkAll clients →
      inner ∈ clients ∨ ∃ parent ∈ Client.walkAll clients, inner ∈ parent.children
  | [], member => absurd member List.not_mem_nil
  | client :: rest, member => by
    -- It is below the first client of the list or below a later one.
    rcases List.mem_append.mp member with first | later
    · rcases eq_or_parent_of_mem_walk client first with same | ⟨parent, below, isChild⟩
      · exact Or.inl (same ▸ List.mem_cons_self)
      · exact Or.inr ⟨parent, List.mem_append_left _ below, isChild⟩
    · rcases mem_or_parent_of_mem_walkAll rest later with direct | ⟨parent, below, isChild⟩
      · exact Or.inl (List.mem_cons_of_mem _ direct)
      · exact Or.inr ⟨parent, List.mem_append_right _ below, isChild⟩

end

end

/-- Sub-clients belong to containers that lie directly in the one of their parent. -/
def AreNested (definition : Definition) (clients : List Client) : Prop :=
  ∀ client ∈ clients, ∀ child ∈ client.children,
    (definition.containerAt child.origin).parent = some client.origin

/-- Of two clients in a tree, one is below the other if its container is. -/
theorem mem_walk_of_encloses {definition : Definition} (linked : definition.IsLinked)
    {root outer inner : Client} (once : (root.walk.map Client.origin).Nodup)
    (nested : AreNested definition root.walk) (isOuter : outer ∈ root.walk)
    (isInner : inner ∈ root.walk) (aroundOuter : root.origin ∈ definition.enclosing outer.origin)
    (encloses : outer.origin ∈ definition.enclosing inner.origin) : inner ∈ outer.walk := by
  -- The induction goes outwards, from the inner client to the one that it is a sub-client of.
  generalize isOrigin : inner.origin = origin at encloses
  induction origin using linked.induct generalizing inner with
  | step origin ih =>
    by_cases same : outer.origin = inner.origin
    · obtain rfl := List.inj_on_of_nodup_map once isOuter isInner same
      exact mem_walk_self _
    · rcases eq_or_parent_of_mem_walk root isInner with rfl | ⟨parent, isParent, isChild⟩
      · -- Around the container of the root there is no other of its tree.
        rw [← isOrigin] at encloses
        exact absurd (linked.enclosing_antisymm encloses aroundOuter) same
      · -- Otherwise the inner client is a sub-client, and its container lies right within the
        -- parent's.
        have around := nested parent isParent inner isChild
        rw [isOrigin] at around
        rcases linked.mem_enclosing.mp encloses with own | ⟨between, isBetween, above⟩
        · exact absurd (own.trans isOrigin.symm) same
        · obtain rfl := Option.some.inj (around.symm.trans isBetween)
          have further := ih parent.origin around isParent rfl above
          refine mem_walk_trans ?_ outer further
          refine mem_walk.mpr (Or.inr (mem_walkAll.mpr ⟨inner, isChild, mem_walk_self inner⟩))

/-! ## Trees -/

/-- The groups of a tree are trees of containers that lie directly in its own. -/
inductive ClientTree.IsNested (definition : Definition) : ClientTree → Prop
  | node {container : ContainerId} {groups : List ClientTree}
      (direct : ∀ group ∈ groups,
        (definition.containerAt group.container).parent = some container)
      (below : ∀ group ∈ groups, IsNested definition group) :
      IsNested definition (.node container groups)

namespace Context

variable {context : Context}

/-- In the tree of a container, the groups of each container lie directly inside of it. -/
theorem isNested_clientTreeWithin (linked : context.definition.IsLinked) (depth : Nat)
    (container : ContainerId) :
    (context.clientTreeWithin depth container).IsNested context.definition := by
  induction depth generalizing container with
  | zero => exact .node (by simp) (by simp)
  | succ depth ih =>
    have groups : ∀ group ∈ (context.clientTreeWithin (depth + 1) container).groups,
        (context.definition.containerAt group.container).parent = some container ∧
          group.IsNested context.definition := by
      intro group isGroup
      -- A group is the tree of a child, and lists of children are sound.
      obtain ⟨child, isChild, _, rfl, _⟩ := mem_groups.mp isGroup
      rw [container_clientTreeWithin]
      exact ⟨(linked.mem_children _ _).mp isChild, ih child⟩
    exact .node (fun group isGroup => (groups group isGroup).1)
      fun group isGroup => (groups group isGroup).2

end Context

/-! ## Arranged clients -/

/--
Clients that are arranged as their containers are, and made with all parameters that they take.

Only a client that belongs to a service is made with what its methods give to it.
-/
structure Arranged (context : Context) (containers : List ContainerId) (clients : List Client)
    (state : State) : Prop where
  origins : clients.map Client.origin = containers
  nested : AreNested context.definition clients
  announced : ∀ client ∈ clients, (context.definition.serviceRoot? client.origin).isSome →
    ∀ parameter ∈ (state.clientParameters.get? client.origin).getD [],
      parameter.name ∈ client.initialization.parameters.map Property.name

namespace Arranged

variable {context : Context} {containers others : List ContainerId} {clients more : List Client}
  {state : State}

/-- Clients stay arranged while only others take parameters. -/
theorem lasting {among : ContainerId → Prop} (apart : ∀ container ∈ containers, ¬ among container)
    (clients : List Client) :
    LastsAlong (Accrued among) (Arranged context containers clients) := by
  intro before after arranged accrued
  refine ⟨arranged.origins, arranged.nested, fun client member inService parameter taken => ?_⟩
  -- Its container is none of those whose clients take parameters.
  have isOrigin : client.origin ∈ containers := by
    rw [← arranged.origins]
    exact List.mem_map_of_mem member
  rw [accrued.others client.origin (apart client.origin isOrigin)] at taken
  exact arranged.announced client member inService parameter taken

/-- Together with what depends on no state, it lasts as well. -/
theorem lasting_and {among : ContainerId → Prop}
    (apart : ∀ container ∈ containers, ¬ among container) (fact : Prop) (clients : List Client) :
    LastsAlong (Accrued among) fun state => fact ∧ Arranged context containers clients state :=
  -- The fact is not about the state, so it is carried along as it is.
  fun before after told accrued =>
    ⟨told.1, lasting apart clients before after told.2 accrued⟩

/-- Two lists of clients that are arranged are arranged in a row. -/
theorem append (first : Arranged context containers clients state)
    (second : Arranged context others more state) :
    Arranged context (containers ++ others) (clients ++ more) state where
  -- Every client is of the first row or of the second, and is told by it.
  origins := by rw [List.map_append, first.origins, second.origins]
  nested client member := by
    rcases List.mem_append.mp member with early | late
    · exact first.nested client early
    · exact second.nested client late
  announced client member := by
    rcases List.mem_append.mp member with early | late
    · exact first.announced client early
    · exact second.announced client late

end Arranged

namespace Context

variable {context : Context}

/-- All names are in a list of parameters to which those that are missing are added. -/
theorem mem_names_withOthers (parameters others : List Property) {name : String}
    (member : name ∈ (parameters ++ others).map Property.name) :
    name ∈ (withOthers parameters others).map Property.name := by
  unfold withOthers
  induction others generalizing parameters with
  | nil => simpa using member
  | cons other rest ih =>
    rw [List.foldl_cons]
    -- One of the others is looked at, and the name is there before or comes later.
    refine ih _ ?_
    split
    · rename_i there
      simp only [List.any_eq_true, beq_iff_eq] at there
      obtain ⟨first, listed, same⟩ := there
      rw [List.map_append, List.mem_append, List.map_cons, List.mem_cons] at member
      rw [List.map_append, List.mem_append]
      rcases member with old | rfl | later
      · exact Or.inl old
      · -- A parameter of the name is there already.
        rw [← same]
        exact Or.inl (List.mem_map_of_mem listed)
      · exact Or.inr later
    · rw [List.append_assoc]
      exact member

/-- A client of a service is made with all parameters that it has taken so far. -/
theorem initializationParameters_announce (container : ContainerId) (children : List Client)
    (custom : List Property) :
    Yields (context.initializationParameters container children custom) fun parameters state =>
      (context.definition.serviceRoot? container).isSome →
        ∀ parameter ∈ (state.clientParameters.get? container).getD [],
          parameter.name ∈ parameters.map Property.name := by
  unfold initializationParameters
  split
  · -- Without a service, a client is made with the parameters that were chosen for it alone.
    rename_i outside
    exact Yields.pure fun _ inService => by simp [outside] at inService
  · refine Yields.after fun endpoint => Yields.after fun credential => ?_
    -- What was taken so far is read last, right before the client is made.
    refine Ensures.get_bind fun current _ => Ensures.pure ?_
    rintro state rfl _ parameter taken
    refine mem_names_withOthers _ _ (List.mem_map_of_mem ?_)
    exact List.mem_append_right _ (List.mem_append_right _ taken)

mutual

/-- The tree of a client is arranged as its containers are. -/
theorem clientOf_arranged (isRoot : Bool) (name : String) : (tree : ClientTree) →
    tree.containers.Nodup → tree.IsNested context.definition →
      Yields (context.clientOf isRoot name tree) fun client state =>
        client.origin = tree.container ∧ Arranged context tree.containers client.walk state
  | .node container groups, once, .node direct below => by
    obtain ⟨alone, onceBelow⟩ := List.nodup_cons.mp once
    unfold clientOf
    refine Yields.after fun ways => Yields.after fun custom => ?_
    refine Ensures.bind (clientsOf_arranged groups onceBelow below) fun children => ?_
    -- What sub-clients take is settled before the methods beside them are derived.
    have apart : ∀ other ∈ ClientTree.containersAll groups, ¬ other = container :=
      fun other member same => alone (same ▸ member)
    have lasting := @Arranged.lasting_and context _ (· = container) apart
      (children.map Client.origin = groups.map ClientTree.container) (Client.walkAll children)
    have stable (start : State) := @Accrued.stable (· = container) context start
    refine Keeps.told (lasting.keeps fun start => (stable start).methodsOf rfl _) fun methods => ?_
    refine Ensures.bind ((initializationParameters_announce container children custom).beside
      lasting fun start => (stable start).initializationParameters container children custom)
      fun parameters => Ensures.pure ?_
    rintro state ⟨⟨origins, arranged⟩, announced⟩
    -- The client comes first in the walk, and the walk of its sub-clients follows.
    refine ⟨rfl, ?_, ?_, ?_⟩
    · simp only [Client.walk, List.map_cons, arranged.origins, ClientTree.containers]
    · intro client member
      rcases List.mem_cons.mp member with rfl | deeper
      · -- The sub-clients of the client itself are those of the groups.
        intro child isChild
        have isGroup : child.origin ∈ groups.map ClientTree.container := by
          rw [← origins]
          exact List.mem_map_of_mem isChild
        obtain ⟨group, listed, same⟩ := List.mem_map.mp isGroup
        rw [← same]
        exact direct group listed
      · exact arranged.nested client deeper
    · intro client member
      rcases List.mem_cons.mp member with rfl | deeper
      · exact announced
      · exact arranged.announced client deeper

/-- The trees of sub-clients are arranged one after the other. -/
theorem clientsOf_arranged : (trees : List ClientTree) →
    (ClientTree.containersAll trees).Nodup → (∀ tree ∈ trees, tree.IsNested context.definition) →
      Yields (context.clientsOf trees) fun clients state =>
        clients.map Client.origin = trees.map ClientTree.container ∧
          Arranged context (ClientTree.containersAll trees) (Client.walkAll clients) state
  | [], _, _ => by
    unfold clientsOf
    refine Yields.pure fun _ => ⟨rfl, rfl, ?_, ?_⟩
    · simp [AreNested, Client.walkAll]
    · simp [Client.walkAll]
  | group :: rest, once, nested => by
    obtain ⟨onceFirst, onceRest, disjoint⟩ := List.nodup_append'.mp once
    unfold clientsOf
    refine Ensures.bind (clientOf_arranged false _ group onceFirst
      (nested group List.mem_cons_self)) fun client => ?_
    -- The groups beside it belong to other containers, and give nothing to this client.
    have lasting := @Arranged.lasting_and context _ (· ∈ ClientTree.containersAll rest)
      (fun _ inFirst inRest => disjoint inFirst inRest) (client.origin = group.container)
      client.walk
    refine Ensures.bind ((clientsOf_arranged rest onceRest
      fun tree listed => nested tree (List.mem_cons_of_mem _ listed)).beside lasting fun start =>
        (Accrued.stable context start).clientsOf rest fun _ member => member) fun clients =>
          Ensures.pure ?_
    rintro state ⟨⟨origin, first⟩, origins, others⟩
    exact ⟨by rw [List.map_cons, origin, origins, List.map_cons], first.append others⟩

end

/-- The clients of some roots are arranged when the last of them is derived. -/
theorem rootClients_arranged (linked : context.definition.IsLinked) (roots : List RootClient)
    (once : (roots.flatMap fun root => (context.clientTree root.container).containers).Nodup) :
    Yields (roots.mapM context.rootClient) fun clients state =>
      List.Forall₂ (fun root client => client.origin = root.container ∧
        Arranged context (context.clientTree root.container).containers client.walk state)
        roots clients := by
  induction roots with
  | nil =>
    rw [List.mapM_nil]
    exact Yields.pure fun _ => .nil
  | cons root rest ih =>
    rw [List.flatMap_cons] at once
    -- The trees of two roots have no container in common.
    obtain ⟨onceFirst, onceRest, disjoint⟩ := List.nodup_append'.mp once
    rw [List.mapM_cons]
    refine Ensures.bind (clientOf_arranged true _ _ onceFirst
      (isNested_clientTreeWithin linked _ _)) fun client => ?_
    -- The clients of other roots belong to other containers.
    have lasting := @Arranged.lasting_and context _
      (· ∈ rest.flatMap fun root => (context.clientTree root.container).containers)
      (fun _ inFirst inRest => disjoint inFirst inRest)
      (client.origin = (context.clientTree root.container).container) client.walk
    refine Ensures.bind ((ih onceRest).beside lasting fun start =>
      (Accrued.stable context start).rootClients rest fun root listed container member =>
        List.mem_flatMap.mpr ⟨root, listed, member⟩) fun clients => Ensures.pure ?_
    rintro state ⟨⟨origin, arranged⟩, others⟩
    refine .cons ⟨?_, arranged⟩ others
    rw [origin, clientTree, container_clientTreeWithin]

/-- All clients are arranged at the end of a run. -/
theorem clients_arranged (sound : context.IsSound) :
    Yields context.clients fun clients state =>
      List.Forall₂ (fun root client => client.origin = root ∧
        Arranged context (context.clientTree root).containers client.walk state)
        context.roots clients := by
  -- No container is in the trees of two roots.
  have once := allContainers_nodup sound
  rw [sound.roots_eq, List.flatMap_map] at once
  unfold clients
  refine Ensures.bind (rootClients_arranged sound.linked _ once) fun clients => ?_
  -- Orphan types give nothing to clients.
  have lasting : LastsAlong (Accrued fun _ => False) fun state =>
      List.Forall₂ (fun root client => client.origin = root.container ∧
        Arranged context (context.clientTree root.container).containers client.walk state)
        (rootClients context.definition context.choices) clients := by
    intro before after arranged accrued
    refine arranged.imp fun root client told => ⟨told.1, ?_⟩
    exact Arranged.lasting (fun _ _ => id) _ before after told.2 accrued
  refine Keeps.told (lasting.keeps fun start => (Accrued.stable context start).orphans)
    fun _ => Ensures.pure fun state arranged => ?_
  rw [sound.roots_eq, List.forall₂_map_left_iff]
  exact arranged

/-- Only clients of the run take parameters. -/
theorem clients_takers (sound : context.IsSound) {clients : List Client} {state : State}
    (run : context.clients {} = (.ok clients, state)) {container : ContainerId}
    (takes : state.clientParameters.get? container ≠ none) :
    ∃ root ∈ context.roots, container ∈ (context.clientTree root).containers := by
  have inside : ∀ root ∈ rootClients context.definition context.choices,
      ∀ container ∈ (context.clientTree root.container).containers,
        ∃ root ∈ context.roots, container ∈ (context.clientTree root).containers := by
    intro root listed container member
    refine ⟨root.container, ?_, member⟩
    rw [sound.roots_eq]
    exact List.mem_map_of_mem listed
  -- Outside of all trees, everything is as it was at the start, when nobody had taken anything.
  have accrued := ((Accrued.stable context {}).clients inside).ok (.refl {}) run
  by_contra outside
  exact takes (accrued.others container outside)

end Context

end ClientModel.Derivation
