import ClientModel.Proofs.Accounts
import ClientModel.Proofs.Reasons

/-!
Why a run notes types to be used.

A run notes what its operations demand for the clients that they go to. Which names are in scope
there is settled before any method is derived: the clients around have what was chosen for them by
then, and have taken nothing else.
-/

namespace ClientModel.Derivation

variable {context : Context} {client container : ContainerId} {operation : OperationId}
  {attempts : List Attempt} {among : ContainerId → Prop} {outers inners : List ContainerId}
  {state before after : State}

/-! ## Steps that note nothing -/

/-- Nothing known is lost, and nothing is noted to be used. -/
def KeepsSeeds (before after : State) : Prop :=
  Grown before after ∧ after.seeds = before.seeds

namespace KeepsSeeds

instance : Std.Refl KeepsSeeds := ⟨fun state => ⟨.refl state, rfl⟩⟩

/-- Apart from methods, nothing that a client is made with notes a use. -/
theorem providing (context : Context) (start : State) :
    Providing context among (KeepsSeeds start) fun _ => True :=
  -- Seeds are noted by methods alone, so that each step has the same ones after it.
  have frame : Frame start.catalogue.size (KeepsSeeds start) fun _ => True :=
    (Grown.frame start fun _ => trivial).beside fun _ _ _ _ _ _ same => same
  { toSteady := frame.steady
    node := frame.node
    clientParameter := fun _ client parameter _ same => ⟨same.1.takes client parameter, same.2⟩
    endpointParameter := frame.steady.endpointParameter frame.node
      fun _ _ same => ⟨same.1.noted _ _ _ _, same.2⟩
    credentialParameter? := frame.steady.credentialParameter?
      fun _ _ same => ⟨same.1.noted _ _ _ _, same.2⟩ }

end KeepsSeeds

/-! ## Attempts -/

/-- What an attempt demands: nothing where the method is not wanted on typed values. -/
def Context.demandedBy (context : Context) (attempt : Attempt) : List Demand :=
  if context.isConvenient attempt.operation then
    context.demands attempt.operation (context.placeOf attempt.operation)
  else []

/-- The status monitor that an attempt came to watch, if the method is wanted on typed values. -/
def Context.watchedBy (context : Context) (attempt : Attempt) : List NodeId :=
  if context.isConvenient attempt.operation then attempt.method?.toList.flatMap monitorOf else []

/-- What an attempt watches is what its method polls for, provided that it is convenient. -/
theorem Context.mem_watchedBy {attempt : Attempt} {monitor : NodeId} :
    monitor ∈ context.watchedBy attempt ↔ context.isConvenient attempt.operation = true ∧
      ∃ method, attempt.outcome = .ok method ∧
        ∃ progress ∈ method.kind.polling?, progress.monitor.type = monitor := by
  rw [watchedBy]
  -- An attempt that is not convenient takes its notes back, and watches nothing.
  split
  · rename_i wanted
    simp only [wanted, true_and, List.mem_flatMap, Option.mem_toList, Attempt.method?_eq_some_iff,
      monitorOf, List.mem_map, Option.mem_def]
  · rename_i unwanted
    simp [unwanted]

namespace Context

/-- All notes on usage are explained by some attempts, and all nodes are settled. -/
def ExplainsAll (context : Context) (attempts : List Attempt) (state : State) : Prop :=
  context.Explains (attempts.flatMap context.demandedBy) (attempts.flatMap context.watchedBy)
      state ∧
    context.Settled (fun _ => False) state

/-- Outer clients have what was chosen for them, and inner ones have taken nothing. -/
structure OuterChosen (context : Context) (outers inners : List ContainerId) (state : State) :
    Prop where
  chosen : ∀ outer ∈ outers,
    (state.takenBy outer).map Property.name = context.chosenNames outer
  untouched : ∀ inner ∈ inners, state.takenBy inner = []

section

variable (placed : context.definition.MembersPlaced)
include placed

/-- A method notes what is demanded, or takes back all that it has noted. -/
theorem method_tracks {demands : List Demand} {watched : List NodeId}
    {outcome : Except Failure Method} (isPlace : context.placeOf operation = client)
    (tracks : context.Tracks client demands watched before)
    (run : context.method operation client before = (outcome, after))
    (own : ∀ failure, outcome = .error failure → failure.endsRun = false) :
    context.Tracks client (demands ++ context.demandedBy { operation, outcome })
      (watched ++ context.watchedBy { operation, outcome }) after := by
  have builds := @buildMethod_tracks context client operation demands watched placed before tracks
  have kept := method_accrues run own
  rw [demandedBy, watchedBy, isPlace]
  rw [method_run] at run
  match built : context.buildMethod operation client before with
  | (made, between) =>
    rw [built] at builds run
    cases run
    by_cases wanted : context.isConvenient operation = true
    · simp only [wanted, if_true]
      -- The convenient method keeps what building it noted; a failed one has no monitor to watch.
      cases made with
      | ok method =>
        simpa [Attempt.method?, Except.map, Except.toOption, monitorOf] using builds
      | error failure =>
        simpa [Attempt.method?, Except.map, Except.toOption] using builds (own failure rfl)
    · -- All notes on usage are taken back, but what the client has taken is not.
      have tracked : context.KnowsScope client between ∧
          context.Settled (fun _ => False) between := by
        -- What a client has taken and what is settled hold however the building ended.
        cases made with
        | ok method => exact ⟨builds.1.1, builds.2⟩
        | error failure => exact ⟨(builds (own failure rfl)).1.1, (builds (own failure rfl)).2⟩
      obtain ⟨accrued, none⟩ := kept
      have unwanted : context.isConvenient operation = false := by simpa using wanted
      have same := (none unwanted).1
      simp only [unwanted, Bool.false_eq_true, if_false, List.append_nil] at accrued same ⊢
      refine ⟨⟨tracked.1.congr rfl, tracks.1.2.mono accrued.toGrown same⟩, ?_⟩
      exact (Settled.robust placed).bodyFormats
        { between with seeds := between.seeds.take before.usageMark.seeds } _
        ((Settled.robust placed).seeds between _ tracked.2)

/-- An attempt adds what it demands and what it watches to what is told of the notes. -/
theorem attemptMethod_tracks {demands : List Demand} {watched : List NodeId}
    (isPlace : context.placeOf operation = client) :
    Ensures (context.Tracks client demands watched) (context.attemptMethod client operation)
      (fun attempt => context.Tracks client (demands ++ context.demandedBy attempt)
        (watched ++ context.watchedBy attempt)) fun _ _ => True := by
  refine Ensures.intro ?_ fun _ _ _ _ _ => trivial
  intro before attempt after tracks run
  -- A failure that ends the run leaves nothing to tell.
  unfold attemptMethod at run
  cases tried : context.method operation client before with
  | mk outcome between =>
    rw [bind_ok (attempt_run tried)] at run
    cases outcome with
    | ok method =>
      cases run
      exact method_tracks placed isPlace tracks tried nofun
    | error failure =>
      dsimp only at run
      split at run
      · cases run
      · rename_i isOwn
        -- The failure is reported, which notes nothing.
        have told := method_tracks placed isPlace tracks tried fun other same => by
          cases same
          simpa using isOwn
        cases run
        exact (Tracks.steady placed).diagnostics between _ failure.code_diagnostic_ne told

/-- The operations of a client are attempted one after the other. -/
theorem attempts_explain (operations : List OperationId)
    (isPlace : ∀ operation ∈ operations, context.placeOf operation = client) :
    Ensures (fun state => context.ExplainsAll attempts state ∧ context.KnowsScope client state)
      (operations.mapM (context.attemptMethod client))
      (fun made => context.ExplainsAll (attempts ++ made)) fun _ _ => True := by
  -- An attempt adds to what was attempted before it; its place is the client throughout.
  have all : Ensures (fun state => context.ExplainsAll (attempts ++ []) state ∧
        context.KnowsScope client state) (operations.mapM (context.attemptMethod client))
      (fun made state => context.ExplainsAll (attempts ++ ([] ++ made)) state ∧
        context.KnowsScope client state) fun _ _ => True := by
    refine Ensures.mapM (fun made state => context.ExplainsAll (attempts ++ made) state ∧
      context.KnowsScope client state) operations (fun operation listed made => ?_) []
    refine (attemptMethod_tracks placed (isPlace operation listed)).weaken
      (fun state held => ⟨⟨held.2, held.1.1⟩, held.1.2⟩) (fun attempt state tracks => ?_)
      fun _ _ _ => trivial
    simp only [List.flatMap_append, List.append_assoc] at tracks
    simp only [ExplainsAll, List.flatMap_append, List.flatMap_singleton]
    exact ⟨⟨tracks.1.2, tracks.2⟩, tracks.1.1⟩
  rw [List.append_nil] at all
  exact all.weaken (fun _ held => held) (fun _ _ held => held.1) fun _ _ _ => trivial

end

/-! ## Clients -/

/-- What was chosen stays so while containers beside them are given parameters. -/
theorem OuterChosen.lasts (apart : ∀ container ∈ outers ++ inners, ¬ among container) :
    LastsAlong (Accrued among) (context.OuterChosen outers inners) := by
  intro before after taken accrued
  have same (container : ContainerId) (listed : container ∈ outers ++ inners) :
      after.takenBy container = before.takenBy container := by
    rw [State.takenBy, accrued.others container (apart container listed), State.takenBy]
  -- Neither outside nor inside is anything taken, as all these are beside.
  refine ⟨fun outer listed => ?_, fun inner listed => ?_⟩
  · rw [same outer (List.mem_append_left _ listed)]
    exact taken.chosen outer listed
  · rw [same inner (List.mem_append_right _ listed)]
    exact taken.untouched inner listed

/-- What is chosen for containers is chosen for fewer of them. -/
theorem OuterChosen.mono {more fewer : List ContainerId}
    (taken : context.OuterChosen outers inners state) (includes : more ⊆ outers)
    (others : fewer ⊆ inners) : context.OuterChosen more fewer state :=
  ⟨fun outer listed => taken.chosen outer (includes listed),
    fun inner listed => taken.untouched inner (others listed)⟩

/-- In scope of a client are the names that were chosen for the clients around it. -/
theorem OuterChosen.knowsScope
    (taken : context.OuterChosen (context.definition.enclosing client) [] state) :
    context.KnowsScope client state := by
  -- A name is in scope if one of the clients around took it, which is to say that it was chosen.
  intro name _
  rw [State.scopeOf, State.parametersInScope, isChosenAround, List.any_flatMap]
  refine Bool.eq_iff_iff.mpr ?_
  simp only [List.any_eq_true]
  refine exists_congr fun outer => and_congr_right fun listed => ?_
  rw [← taken.chosen outer listed, List.contains_iff_mem, List.mem_map]
  simp [State.takenBy]

/-- Clients take what was chosen for them, in order. -/
theorem customParameters_taken (container : ContainerId) (ids : List PropertyId)
    (names : List String) :
    Ensures (fun state => (state.takenBy container).map Property.name = names)
      (ids.mapM (context.customParameter container))
      (fun _ state => (state.takenBy container).map Property.name =
        names ++ ids.map fun id => (context.definition.propertyAt id).name)
      fun _ _ => True := by
  -- By induction on what was chosen: each parameter is taken behind those before it.
  induction ids generalizing names with
  | nil =>
    rw [List.mapM_nil]
    exact .pure fun _ held => by simpa using held
  | cons id rest ih =>
    rw [List.mapM_cons]
    have first : Ensures (fun state => (state.takenBy container).map Property.name = names)
        (context.customParameter container id)
        (fun _ state => (state.takenBy container).map Property.name =
          names ++ [(context.definition.propertyAt id).name]) fun _ _ => True := by
      unfold customParameter
      dsimp only
      -- To derive the type of a parameter gives no parameter to this client.
      have lasts : LastsAlong (Accrued (· ≠ container)) fun state =>
          (state.takenBy container).map Property.name = names := by
        intro before after same accrued
        rwa [State.takenBy, accrued.others container (by simp)]
      refine Keeps.told (lasts.keeps fun start => (Accrued.noting context start).node _)
        fun type => ?_
      refine Ensures.via (fun _ state => (state.takenBy container).map Property.name =
        names ++ [(context.definition.propertyAt id).name]) (Ensures.modify fun state held => ?_)
        fun _ => .pure fun _ held => held
      rw [State.takenBy_alter, if_pos rfl, List.map_append, held, List.map_singleton,
        name_parameterOf]
    refine Ensures.bind first fun _ => Ensures.bind (ih _) fun _ => .pure fun _ held => ?_
    rw [held, List.append_assoc, List.map_cons, List.singleton_append]

/-- What clients are made with leaves what is explained as it is. -/
theorem ExplainsAll.providing (placed : context.definition.MembersPlaced)
    (attempts : List Attempt) :
    Providing context (fun _ => True) (context.ExplainsAll attempts) fun _ => True :=
  -- What is demanded and watched lasts, as a client is made with neither; so does what is settled.
  have lasts : LastsAlong KeepsSeeds (context.Explains (attempts.flatMap context.demandedBy)
      (attempts.flatMap context.watchedBy)) := fun _ _ explains led => explains.mono led.1 led.2
  have left := lasts.providing fun start => @KeepsSeeds.providing (fun _ => True) context start
  have right := (Settled.robust placed).stable
  { toSteady := left.toSteady.and right.toSteady
    node := fun type => (left.node type).and (right.node type)
    clientParameter := fun state client parameter inside held =>
      ⟨left.clientParameter state client parameter inside held.1,
        right.clientParameter state client parameter inside held.2⟩
    endpointParameter := fun root =>
      (left.endpointParameter root).and (right.endpointParameter root)
    credentialParameter? := fun root =>
      (left.credentialParameter? root).and (right.credentialParameter? root) }


/-- Client trees lie side by side, directly within some containers, and all of them have a root. -/
structure LieWithin (context : Context) (outers : List ContainerId) (trees : List ClientTree) :
    Prop where
  nested : ∀ tree ∈ trees, tree.IsNested context.definition
  once : (ClientTree.containersAll trees).Nodup
  rooted : ∀ inner ∈ ClientTree.containersAll trees, (context.nearestRoot? inner).isSome
  around : ∀ tree ∈ trees, context.definition.enclosing tree.container = tree.container :: outers
  apart : ∀ outer ∈ outers, outer ∉ ClientTree.containersAll trees

namespace LieWithin

variable {group : ClientTree} {groups rest : List ClientTree}

/-- The first of the groups lies within the same containers. -/
theorem first (lie : context.LieWithin outers (group :: rest)) :
    context.LieWithin outers [group] where
  nested tree listed := lie.nested tree (by simp [List.mem_singleton.mp listed])
  once := by simpa [ClientTree.containersAll] using (List.nodup_append'.mp lie.once).1
  rooted inner listed := lie.rooted inner
    (List.mem_append_left _ (by simpa [ClientTree.containersAll] using listed))
  around tree listed := lie.around tree (by simp [List.mem_singleton.mp listed])
  apart outer outside listed := lie.apart outer outside
    (List.mem_append_left _ (by simpa [ClientTree.containersAll] using listed))

/-- The groups after the first lie within the same containers. -/
theorem others (lie : context.LieWithin outers (group :: rest)) :
    context.LieWithin outers rest where
  nested tree listed := lie.nested tree (List.mem_cons_of_mem _ listed)
  once := (List.nodup_append'.mp lie.once).2.1
  rooted inner listed := lie.rooted inner (List.mem_append_right _ listed)
  around tree listed := lie.around tree (List.mem_cons_of_mem _ listed)
  apart outer outside listed := lie.apart outer outside (List.mem_append_right _ listed)

/-- The groups of a tree lie within its own container, and within those around it. -/
theorem below (lie : context.LieWithin outers [.node container groups])
    (linked : context.definition.IsLinked) : context.LieWithin (container :: outers) groups := by
  obtain ⟨nested, once, rooted, around, apart⟩ := lie
  simp only [ClientTree.containersAll, ClientTree.containers, List.append_nil] at once rooted apart
  obtain ⟨alone, distinct⟩ := List.nodup_cons.mp once
  -- Around a group of this container lie the container and all that lies around it.
  have own : context.definition.enclosing container = container :: outers :=
    around _ (List.mem_singleton_self _)
  match nested _ (List.mem_singleton_self _) with
  | .node direct deeper =>
    refine ⟨deeper, distinct, fun inner listed => rooted inner (List.mem_cons_of_mem _ listed),
      fun group listed => ?_, fun outer listed inside => ?_⟩
    · rw [linked.enclosing_eq, direct group listed, Option.map_some, Option.getD_some, own]
    · rcases List.mem_cons.mp listed with rfl | further
      · exact alone inside
      · exact apart outer further (List.mem_cons_of_mem _ inside)

end LieWithin

/-- Once a client has what was chosen for it, all clients around its sub-clients have. -/
theorem customParameters_ready {groups : List ClientTree}
    (lie : context.LieWithin outers [.node container groups]) :
    Ensures (context.OuterChosen outers (ClientTree.containersAll [.node container groups]))
      ((context.chosenFor container).mapM (context.customParameter container))
      (fun _ => context.OuterChosen (container :: outers) (ClientTree.containersAll groups))
      fun _ _ => True := by
  obtain ⟨-, once, rooted, -, apart⟩ := lie
  simp only [ClientTree.containersAll, ClientTree.containers, List.append_nil] at *
  -- Only this one client takes anything.
  have lasts : LastsAlong (Accrued (· = container))
      (context.OuterChosen outers (ClientTree.containersAll groups)) := by
    refine OuterChosen.lasts fun other listed same => ?_
    subst same
    rcases List.mem_append.mp listed with outside | inside
    · exact apart other outside List.mem_cons_self
    · exact (List.nodup_cons.mp once).1 inside
  have told := (customParameters_taken container (context.chosenFor container) []).beside lasts
    fun start => Keeps.mapM _ fun id =>
      (@Accrued.stable (· = container) context start).toProviding.customParameter rfl id
  refine told.weaken (fun state taken => ⟨taken.mono (List.Subset.refl _)
    (List.subset_cons_self _ _), ?_⟩) (fun _ state held => ⟨?_, held.1.untouched⟩)
    fun _ _ _ => trivial
  · rw [taken.untouched container List.mem_cons_self, List.map_nil]
  · -- The client itself has what was chosen for it now; those around it had theirs before.
    intro outer listed
    rcases List.mem_cons.mp listed with rfl | further
    · rw [held.2, List.nil_append, chosenNames, if_pos (rooted outer List.mem_cons_self)]
    · exact held.1.chosen outer further

mutual

/-- The attempts of a client come after those of its sub-clients. -/
theorem recordedClientOf_explains (sound : context.IsSound)
    (placed : context.definition.MembersPlaced) (isRoot : Bool) (name : String) :
    (tree : ClientTree) → (attempts : List Attempt) → (outers : List ContainerId) →
    context.LieWithin outers [tree] →
    Ensures (fun state => context.ExplainsAll attempts state ∧
        context.OuterChosen outers (ClientTree.containersAll [tree]) state)
      (context.recordedClientOf isRoot name tree)
      (fun result => context.ExplainsAll (attempts ++ result.2.flatMap Record.attempts))
      fun _ _ => True
  | .node container groups, attempts, outers, lie => by
    have providing (attempts : List Attempt) := ExplainsAll.providing placed attempts
    have inner := lie.below sound.linked
    have own : context.definition.enclosing container = container :: outers :=
      lie.around _ (List.mem_singleton_self _)
    have untouched : LastsAlong (Accrued fun _ => False)
        (context.OuterChosen outers (ClientTree.containersAll [.node container groups])) :=
      OuterChosen.lasts fun _ _ => id
    -- Sub-clients come first, and then the operations of the client itself.
    unfold recordedClientOf
    refine Keeps.told (((providing attempts).initializationOf container isRoot).and
      (untouched.keeps fun start =>
        (Accrued.steady start).initializationOf container isRoot)) fun ways => ?_
    refine Ensures.bind (((Keeps.mapM _ fun id =>
      (providing attempts).customParameter trivial id).both
      (customParameters_ready lie)).weaken (fun _ held => held)
      (fun _ _ held => held) fun _ _ _ => trivial) fun custom => ?_
    -- What the clients around have taken stays as it is while sub-clients are derived.
    have stays : LastsAlong (Accrued (· ∈ ClientTree.containersAll groups))
        (context.OuterChosen (container :: outers) []) :=
      OuterChosen.lasts fun other listed => inner.apart other (by simpa using listed)
    have explains := recordedClientsOf_explains sound placed groups attempts _ inner
    refine Ensures.bind ((explains.beside stays fun start => ?_).weaken
      (fun state held => ⟨held.2.mono (List.Subset.refl _) (by simp), held⟩)
      (fun _ _ held => held) fun _ _ _ => trivial) fun below => ?_
    · refine keeps_of_map (f := Prod.fst) ?_
      rw [← clientsOf_eq]
      exact (Accrued.stable context start).clientsOf groups fun _ member => member
    refine Ensures.bind ((attempts_explain placed (context.operationsOf container)
      fun operation listed => (sound.mem_operationsOf.mp listed).2.2).weaken
        (fun state held => ⟨held.2, OuterChosen.knowsScope (own ▸ held.1)⟩)
        (fun _ _ held => held) fun _ _ _ => trivial) fun made => ?_
    refine Keeps.told ((providing _).initializationParameters container below.1 custom)
      fun parameters => Ensures.pure fun state held => ?_
    -- The record of the client stands first, though its attempts were made last.
    refine ⟨held.1.congr (fun demand => ?_) fun monitor => ?_, held.2⟩
    · simp only [List.flatMap_cons, List.flatMap_append, List.mem_append]
      tauto
    · simp only [List.flatMap_cons, List.flatMap_append, List.mem_append]
      tauto

/-- The attempts of groups explain what is demanded and watched. -/
theorem recordedClientsOf_explains (sound : context.IsSound)
    (placed : context.definition.MembersPlaced) :
    (trees : List ClientTree) → (attempts : List Attempt) → (outers : List ContainerId) →
    context.LieWithin outers trees →
    Ensures (fun state => context.ExplainsAll attempts state ∧
        context.OuterChosen outers (ClientTree.containersAll trees) state)
      (context.recordedClientsOf trees)
      (fun result => context.ExplainsAll (attempts ++ result.2.flatMap Record.attempts))
      fun _ _ => True
  | [], attempts, _, _ => by
    unfold recordedClientsOf
    exact Ensures.pure fun _ held => by simpa using held.1
  | group :: rest, attempts, outers, lie => by
    -- Groups are derived one after the other; what is said of the later ones outlives the first.
    have apart := (List.nodup_append'.mp lie.once).2.2
    have inside : ClientTree.containersAll [group] = group.containers := by
      simp [ClientTree.containersAll]
    -- The other groups, and the clients around them, have nothing to do with the first.
    have stays : LastsAlong (Accrued (· ∈ group.containers))
        (context.OuterChosen outers (ClientTree.containersAll rest)) := by
      refine OuterChosen.lasts fun other listed inFirst => ?_
      rcases List.mem_append.mp listed with outside | later
      · exact lie.apart other outside (List.mem_append_left _ inFirst)
      · exact apart inFirst later
    unfold recordedClientsOf
    have explains name :=
      recordedClientOf_explains sound placed false name group attempts _ lie.first
    refine Ensures.bind (((explains _).beside stays fun start => ?_).weaken
      (fun state held => ⟨held.2.mono (List.Subset.refl _) (List.subset_append_right _ _), held.1,
        held.2.mono (List.Subset.refl _) (inside ▸ List.subset_append_left _ _)⟩)
      (fun _ _ held => held) fun _ _ _ => trivial) fun first => ?_
    · refine keeps_of_map (f := Prod.fst) ?_
      rw [← clientOf_eq]
      exact (Accrued.stable context start).clientOf false _ group fun _ member => member
    refine Ensures.bind ((recordedClientsOf_explains sound placed rest _ outers lie.others).weaken
      (fun _ held => held.symm) (fun _ _ held => held) fun _ _ _ => trivial)
      fun others => Ensures.pure ?_
    exact fun _ explains => by simpa [List.append_assoc] using explains

end

/-- What lies around a container, apart from itself, was declared earlier. -/
theorem index_lt_of_mem_tail (linked : context.definition.IsLinked) {outer inner : ContainerId}
    (around : outer ∈ (context.definition.enclosing inner).tail) : outer.index < inner.index := by
  rw [linked.enclosing_eq, List.tail_cons] at around
  -- The parent was declared before its child, and what lies around the parent no later than it.
  cases isParent : (context.definition.containerAt inner).parent with
  | none => simp [isParent] at around
  | some parent =>
    rw [isParent, Option.map_some, Option.getD_some] at around
    exact Nat.lt_of_le_of_lt (linked.index_le around) (linked.parent_lt inner parent isParent)

/-- No root lies in another one. -/
def HasSeparateRoots (context : Context) : Prop :=
  ∀ root ∈ context.roots, ∀ other ∈ context.roots,
    other ∈ context.definition.enclosing root → other = root

section

variable (linked : context.definition.IsLinked) {root : ContainerId}
include linked

/-- The tree of a root lies within what is around the root. -/
theorem lieWithin_of_root (isRoot : root ∈ context.roots) :
    context.LieWithin (context.definition.enclosing root).tail [context.clientTree root] := by
  have container : (context.clientTree root).container = root := container_clientTreeWithin _ _
  -- The five parts in order: nesting, distinct containers, the root in charge, and what is around.
  refine ⟨?_, ?_, ?_, ?_, ?_⟩
  · intro tree listed
    rw [List.mem_singleton.mp listed]
    exact isNested_clientTreeWithin linked _ _
  · simpa [ClientTree.containersAll, clientTree] using containers_nodup linked _ root
  · intro inner listed
    have inside : inner ∈ (context.clientTree root).containers := by
      simpa [ClientTree.containersAll] using listed
    rw [(nearestRoot?_eq_some_iff linked).mpr ⟨isRoot, isBelow_of_mem linked inside⟩]
    rfl
  · intro tree listed
    rw [List.mem_singleton.mp listed, container, linked.enclosing_eq, List.tail_cons]
  · intro outer around listed
    have inside : outer ∈ (context.clientTree root).containers := by
      simpa [ClientTree.containersAll] using listed
    have := linked.index_le (isBelow_of_mem linked inside).encloses
    have := index_lt_of_mem_tail linked around
    omega

variable (separate : context.HasSeparateRoots)
include separate

/-- At the start no client has taken anything, and around a root nothing was chosen. -/
theorem outerChosen_of_root (isRoot : root ∈ context.roots) (inners : List ContainerId) :
    context.OuterChosen (context.definition.enclosing root).tail inners {} := by
  refine ⟨fun outer around => ?_, fun _ _ => rfl⟩
  -- A root around a root would make the two the same, though each is declared after the other.
  have rootless : context.nearestRoot? outer = none := by
    rw [Option.eq_none_iff_forall_ne_some]
    intro other nearest
    obtain ⟨isOther, below⟩ := (nearestRoot?_eq_some_iff linked).mp nearest
    have encloses := linked.enclosing_trans below.encloses (List.mem_of_mem_tail around)
    obtain rfl := separate root isRoot other isOther encloses
    have := linked.index_le below.encloses
    have := index_lt_of_mem_tail linked around
    omega
  rw [chosenNames, rootless]
  rfl

/-- What lies around a root is in the tree of no other one. -/
theorem notMem_clientTree_of_tail {other : ContainerId} (isRoot : root ∈ context.roots)
    (isOther : other ∈ context.roots) {outer : ContainerId}
    (around : outer ∈ (context.definition.enclosing root).tail) :
    outer ∉ (context.clientTree other).containers := by
  -- Such a root would lie around another one, and so be the same, though it is declared before.
  intro inside
  have encloses := (isBelow_of_mem linked inside).encloses
  obtain rfl := separate root isRoot other isOther
    (linked.enclosing_trans encloses (List.mem_of_mem_tail around))
  have := linked.index_le encloses
  have := index_lt_of_mem_tail linked around
  omega

end

/-- The trees of roots that do not lie in each other are derived one after the other. -/
theorem rootClients_explain (sound : context.IsSound) (placed : context.definition.MembersPlaced)
    (separate : context.HasSeparateRoots)
    (roots : List RootClient) (attempts : List Attempt)
    (once : (roots.flatMap fun root => (context.clientTree root.container).containers).Nodup)
    (areRoots : ∀ root ∈ roots, root.container ∈ context.roots) :
    Ensures (fun state => context.ExplainsAll attempts state ∧ ∀ root ∈ roots, context.OuterChosen
        (context.definition.enclosing root.container).tail
        (context.clientTree root.container).containers state)
      (roots.mapM fun root => context.recordedClientOf true (context.rootName root)
        (context.clientTree root.container))
      (fun parts => context.ExplainsAll
        (attempts ++ (parts.flatMap Prod.snd).flatMap Record.attempts)) fun _ _ => True := by
  -- By induction on the roots, of which each leaves what is chosen around the others.
  induction roots generalizing attempts with
  | nil =>
    rw [List.mapM_nil]
    exact .pure fun _ held => by simpa using held.1
  | cons root rest ih =>
    rw [List.flatMap_cons] at once
    obtain ⟨-, onceRest, apart⟩ := List.nodup_append'.mp once
    have isRoot := areRoots root List.mem_cons_self
    have areOthers : ∀ other ∈ rest, other.container ∈ context.roots :=
      fun other listed => areRoots other (List.mem_cons_of_mem _ listed)
    have inside : ClientTree.containersAll [context.clientTree root.container] =
        (context.clientTree root.container).containers := by
      simp [ClientTree.containersAll]
    -- The trees are disjoint, so that the first one gives no parameter around those that follow.
    have stays : LastsAlong (Accrued (· ∈ (context.clientTree root.container).containers))
        fun state => ∀ other ∈ rest, context.OuterChosen
          (context.definition.enclosing other.container).tail
          (context.clientTree other.container).containers state := by
      intro before after taken accrued other listed
      refine OuterChosen.lasts (fun container among inTree => ?_) before after (taken other listed)
        accrued
      rcases List.mem_append.mp among with around | inOther
      · exact notMem_clientTree_of_tail sound.linked separate (areOthers other listed) isRoot
          around inTree
      · exact apart inTree (List.mem_flatMap.mpr ⟨other, listed, inOther⟩)
    rw [List.mapM_cons]
    refine Ensures.bind (((recordedClientOf_explains sound placed true _ _ attempts _
      (lieWithin_of_root sound.linked isRoot)).beside stays fun start => ?_).weaken
        (fun state held => ⟨fun other listed => held.2 other (List.mem_cons_of_mem _ listed),
          held.1, inside ▸ held.2 root List.mem_cons_self⟩)
        (fun _ _ held => held) fun _ _ _ => trivial) fun first => ?_
    · refine keeps_of_map (f := Prod.fst) ?_
      rw [← clientOf_eq]
      exact (Accrued.stable context start).clientOf true _ _ fun _ member => member
    refine Ensures.bind ((ih _ onceRest areOthers).weaken (fun _ held => held.symm)
      (fun _ _ held => held) fun _ _ _ => trivial) fun others => Ensures.pure ?_
    exact fun _ explains => by simpa [List.append_assoc] using explains

/--
In the end, all notes on usage are explained by the attempts on record.

No root lies within another one, so that every client knows what is in scope of its methods.
-/
theorem recordedClients_explain (sound : context.IsSound)
    (placed : context.definition.MembersPlaced)
    (separate : context.HasSeparateRoots) :
    Ensures (· = {}) context.recordedClients
      (fun result => context.ExplainsAll (result.2.flatMap Record.attempts)) fun _ _ => True := by
  -- No container lies in the trees of two roots.
  have once := allContainers_nodup sound
  rw [sound.roots_eq, List.flatMap_map] at once
  have areRoots (root : RootClient)
      (listed : root ∈ rootClients context.definition context.choices) :
      root.container ∈ context.roots := by
    rw [sound.roots_eq]
    exact List.mem_map_of_mem listed
  unfold recordedClients
  refine Ensures.bind ((rootClients_explain sound placed separate _ [] once areRoots).weaken ?_
    (fun _ _ held => held) fun _ _ _ => trivial) fun parts => ?_
  · rintro state rfl
    exact ⟨⟨.start, .start⟩, fun root listed =>
      outerChosen_of_root sound.linked separate (areRoots root listed) _⟩
  · refine Keeps.told (ExplainsAll.providing placed _).orphans fun _ =>
      Ensures.pure fun _ held => ?_
    simpa using held

end Context

end ClientModel.Derivation
