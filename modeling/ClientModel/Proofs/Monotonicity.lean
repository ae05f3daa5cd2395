import ClientModel.Proofs.Extension
import ClientModel.Proofs.Monitors
import ClientModel.Proofs.Sequences
import ClientModel.Proofs.TwinPackages

/-!
Usage of types when an operation is added.

What the old operations demand stays the same, and the new run notes it for nodes that stand for the
same declarations. From these the same ways lead on.
-/

namespace ClientModel

/--
Lists are sound, all that is cited is declared, and every enum member is listed in its own enum. No
chain of copies or of bases comes back to its start.
-/
structure Service.Definition.IsRegular (definition : Service.Definition) : Prop where
  linked : definition.IsLinked
  closed : definition.IsClosed
  placed : definition.MembersPlaced
  copies : ∀ id, ¬ Relation.TransGen definition.IsCopyOf id id
  bases : ∀ id, ¬ Relation.TransGen definition.Extends id id

namespace Derivation

open Catalogue
open Relation (ReflTransGen)
open Service (Definition Draft)

variable {context larger : Context} {client : ContainerId} {operation : OperationId}
  {state wide : State} {attempts others : List Attempt} {id : TypeId} {node other : NodeId}
  {sparesBase : Bool}

/-! ## What is wanted -/

/-- An operation is derived for typed values: it is available, and goes to some client. -/
structure Context.Serves (context : Context) (operation : OperationId) : Prop where
  declared : context.definition.HasOperation operation
  available : context.isAvailable operation = true
  rooted : (context.nearestRoot? (context.placeOf operation)).isSome = true
  convenient : context.isConvenient operation = true

/-- Some operation on typed values makes a demand. -/
def Context.IsDemanded (context : Context) (demand : Demand) : Prop :=
  ∃ operation, context.Serves operation ∧
    demand ∈ context.demands operation (context.placeOf operation)

/--
Whatever is watched for its status is handed back as JSON in its own right.

The model that an operation on typed values finds in the answer which it polls for is demanded.
-/
def Context.HandsBackWatched (context : Context) : Prop :=
  ∀ operation, context.Serves operation →
    ∀ declared, (context.definition.operationAt operation).polling = some declared →
      ∀ response, context.watchedResponse? declared.operation = some response →
        ∀ body ∈ context.payload? response, ∀ model status states,
          context.finalMonitor? body.type = .ok (some (model, status, states)) →
            ∃ demand, context.IsDemanded demand ∧
              context.definition.payloadType demand.type = context.definition.payloadType model ∧
              monitorUsage.Subset demand.usage

/-- Usage or access was chosen for a type. -/
def Context.isChosenType (context : Context) (type : TypeId) : Bool :=
  (context.choices.usage? type).isSome || (context.choices.access? (.type type)).isSome

/-- References lead to a type from one that is demanded, or from an orphan with a choice. -/
def Context.IsLedTo (context : Context) (id : TypeId) : Prop :=
  ∃ origin,
    ((∃ demand, context.IsDemanded demand ∧ demand.type = origin) ∨
      origin ∈ context.definition.orphanTypes ∧ context.isChosenType origin = true) ∧
    ReflTransGen context.LeadsTo (context.definition.payloadType origin) id

/-- In the end of a run, each orphan type that a choice was made for has a node. -/
theorem Context.orphans_known :
    Yields context.orphans fun _ state => ∀ type ∈ context.definition.orphanTypes,
      context.isChosenType type = true → ∃ node, context.Stands state type node := by
  have lasting (done : List TypeId) : Lasting fun state => ∀ type ∈ done,
      context.isChosenType type = true → ∃ node, context.Stands state type node :=
    fun before after had grown type listed chosen =>
      (had type listed chosen).imp fun node stands =>
        context.stands_lasting type node before after stands grown
  -- Type by type, with the nodes of those before; a type of no choice asks for nothing.
  unfold Context.orphans
  refine Ensures.bind (Ensures.starting (Ensures.forIn_all (fun done state => ∀ type ∈ done,
      context.isChosenType type = true → ∃ node, context.Stands state type node) _
      (fun type _ done => ?_) []) (fun _ _ => by simp))
      fun _ => .pure fun _ all => by simpa using all
  split
  · -- The node that is derived stands for the type, and those of before still do.
    refine Ensures.bind (Yields.beside (nodeWithin_finds _ type) (lasting done) fun start =>
      (Grown.robust context start).node type) fun node => .pure ?_
    rintro state ⟨earlier, stands⟩
    refine ⟨rfl, fun other listed chosen => ?_⟩
    rcases List.mem_append.mp listed with old | new
    · exact earlier other old chosen
    · rw [List.mem_singleton.mp new]
      exact ⟨node, stands⟩
  · rename_i unchosen
    refine .pure fun state earlier => ⟨rfl, fun other listed chosen => ?_⟩
    rcases List.mem_append.mp listed with old | new
    · exact earlier other old chosen
    · rw [List.mem_singleton.mp new] at chosen
      exact absurd chosen unchosen
/-- The run of a package derives each orphan type that a choice was made for. -/
theorem Context.clients_orphans :
    Yields context.clients fun _ state => ∀ type ∈ context.definition.orphanTypes,
      context.isChosenType type = true → ∃ node, context.Stands state type node := by
  -- The orphan types are derived last, so nothing comes between them and the end.
  unfold Context.clients
  exact .after fun _ => Ensures.bind context.orphans_known fun _ => .pure fun _ all => all

/-- Of an operation that is derived for typed values, all demands are made by some attempt. -/
theorem mem_demandedBy_of_isDemanded {package : Package} {records : List Record}
    (accounts : Accounts context package records) {demand : Demand}
    (isDemanded : context.IsDemanded demand) :
    demand ∈ (records.flatMap Record.attempts).flatMap context.demandedBy := by
  -- The accounts tell that it was attempted, and where it went.
  obtain ⟨operation, serves, demanded⟩ := isDemanded
  obtain ⟨record, isRecord, -, isAttempt⟩ := (accounts.attempted operation _).mpr
    ⟨serves.declared, serves.available, rfl, serves.rooted⟩
  obtain ⟨attempt, listed, rfl⟩ := List.mem_map.mp isAttempt
  refine List.mem_flatMap.mpr ⟨attempt, List.mem_flatMap.mpr ⟨record, isRecord, listed⟩, ?_⟩
  rwa [Context.demandedBy, if_pos serves.convenient]

/-- In the end, a type that something leads to has a node. -/
theorem Context.IsLedTo.known (explains : context.ExplainsAll attempts state)
    (demands : ∀ demand, context.IsDemanded demand → demand ∈ attempts.flatMap context.demandedBy)
    (orphans : ∀ type ∈ context.definition.orphanTypes, context.isChosenType type = true →
      ∃ node, context.Stands state type node)
    (led : context.IsLedTo id) : ∃ node, Remembered id node state := by
  obtain ⟨origin, source, way⟩ := led
  have known : ∃ node, context.Stands state origin node := by
    rcases source with ⟨demand, isDemanded, rfl⟩ | ⟨listed, chosen⟩
    · obtain ⟨seed, -, meets⟩ := explains.1.met demand (demands demand isDemanded)
      exact ⟨seed.type, meets.stands⟩
    · exact orphans origin listed chosen
  -- From the origin on, whatever is referred to has a node as well.
  exact Option.isSome_iff_exists.mp (explains.2.reaches way (Option.isSome_iff_exists.mpr known))

namespace Context.ExtendsTo

variable (extends' : context.ExtendsTo larger)
include extends'

/-- An operation that was derived for typed values still is. -/
theorem serves (serves : context.Serves operation) : larger.Serves operation where
  declared := extends'.appends.hasOperation serves.declared
  available := (extends'.isAvailable_eq serves.declared).trans serves.available
  rooted := by
    rw [extends'.placeOf_eq serves.declared, extends'.nearestRoot?_eq]
    exact serves.rooted
  convenient := (extends'.isConvenient_eq operation).trans serves.convenient

/-- What was demanded still is. -/
theorem isDemanded {demand : Demand} (isDemanded : context.IsDemanded demand) :
    larger.IsDemanded demand := by
  -- The same operation demands it: its place and its demands are the same in the larger definition.
  obtain ⟨operation, serves, demanded⟩ := isDemanded
  refine ⟨operation, extends'.serves serves, ?_⟩
  rwa [extends'.placeOf_eq serves.declared, extends'.demands_eq serves.declared]

end Context.ExtendsTo

/-! ## Demanded types -/

/-- Whatever an operation demands is declared. -/
theorem declares_of_demanded (closed : context.definition.IsClosed)
    (has : context.definition.HasOperation operation) {demand : Demand}
    (demanded : demand ∈ context.demands operation client) :
    context.definition.Declares (.type demand.type) := by
  -- What is demanded of a property is demanded of its type, which is declared with it.
  have propertyType {property : PropertyId} {usage : Usage}
      (there : context.definition.Declares (.property property))
      (same : { type := (context.definition.propertyAt property).type, usage } = demand) :
      context.definition.Declares (.type demand.type) := by
    rw [← same]
    exact closed.propertyType there
  simp only [Context.demands, Context.requestDemands, List.mem_append, List.mem_filterMap,
    List.mem_flatMap] at demanded
  rcases demanded with (⟨id, listed, isDemand⟩ | ⟨response, listed, isDemand⟩) |
    ⟨slot, listed, isDemand⟩ | isBody
  · -- A parameter of the operation, a response, a slot of the request, or its body.
    rw [Context.parameterDemand?, Option.ite_none_left_eq_some, Option.some.injEq] at isDemand
    exact propertyType (closed.parameter has listed) isDemand.2
  · have cited := closed.response has listed
    simp only [Context.responseDemands, List.mem_append, List.mem_filterMap, Option.mem_toList,
      Context.payloadDemand?, Option.map_eq_some_iff] at isDemand
    rcases isDemand with ⟨header, isHeader, isDemand⟩ | ⟨body, isBody, rfl⟩
    · rw [Context.headerDemand?, Option.ite_none_left_eq_some, Option.some.injEq] at isDemand
      exact propertyType (Context.ExtendsTo.declares_header cited isHeader) isDemand.2
    · have given := (Option.filter_eq_some_iff.mp isBody).1
      exact cited _ (by simp [Service.ResponseDecl.cites, given])
  · rw [Context.slotDemand?, Option.ite_none_left_eq_some, Option.some.injEq] at isDemand
    exact propertyType (closed.slot has (List.takeWhile_subset _ listed)) isDemand.2
  · split at isBody
    · rw [Option.mem_toList, Context.bodyDemand?] at isBody
      split at isBody
      · cases isBody
      · rename_i first rest bodies
        dsimp only at isBody
        rw [Option.ite_none_left_eq_some, Option.some.injEq] at isBody
        rw [← isBody.2]
        exact closed.body has (bodies ▸ List.mem_cons_self)
    · cases isBody

/-! ## Seeds of two runs -/

/-- A node that carries usage is no builtin type. -/
theorem label_ne_builtin_of_carriesUsage {node : Node} (carries : node.carriesUsage) :
    node.kind.label ≠ "builtin" := by
  -- The kinds that carry usage are told by name, and builtin is not among them.
  cases kind : node.kind <;>
    simp [Node.carriesUsage, Node.usage?, kind, NodeKind.label] at carries ⊢

/--
A seed of the second run stands in for one of the first.

It notes the same ways of use at least, of a node that stands for the same declaration.
-/
def Echoes (context : Context) (state wide : State) (seed more : Seed) : Prop :=
  Counterparts context state wide seed.type more.type ∧ seed.usage.Subset more.usage

/--
What is noted in two runs is explained.

All operations that the first run attempts are attempted in the second one as well. Whatever status
monitor the first run watches stands for a type that the second run demands, and types that usage
was chosen for have nodes there.
-/
structure Retells (context larger : Context) (attempts others : List Attempt) (state wide : State) :
    Prop extends Parallel context larger state wide where
  explains : context.ExplainsAll attempts state
  explainsWide : larger.ExplainsAll others wide
  attempted : ∀ attempt ∈ attempts, context.definition.HasOperation attempt.operation ∧
    ∃ other ∈ others, other.operation = attempt.operation
  watched : ∀ monitor ∈ attempts.flatMap context.watchedBy,
    ∃ demand ∈ others.flatMap larger.demandedBy, context.definition.Declares (.type demand.type) ∧
      context.Stands state demand.type monitor ∧ monitorUsage.Subset demand.usage
  kept : ∀ type, (context.choices.usage? type).isSome → context.definition.Declares (.type type) →
    ∃ other, Remembered type other wide

namespace Retells

variable (retells : Retells context larger attempts others state wide) {seed : Seed} {way : Nat}
include retells

/-- What is demanded in the first run is declared there, and demanded in the second one. -/
theorem demanded {demand : Demand} (isDemand : demand ∈ attempts.flatMap context.demandedBy) :
    context.definition.Declares (.type demand.type) ∧
      demand ∈ others.flatMap larger.demandedBy := by
  have extends' := retells.extends'
  -- The operation was attempted in the second run too, and demands the same there.
  obtain ⟨attempt, listed, isDemand⟩ := List.mem_flatMap.mp isDemand
  obtain ⟨has, other, isOther, same⟩ := retells.attempted attempt listed
  rw [Context.demandedBy] at isDemand
  split at isDemand
  · rename_i wanted
    refine ⟨declares_of_demanded extends'.closed has isDemand,
      List.mem_flatMap.mpr ⟨other, isOther, ?_⟩⟩
    rwa [Context.demandedBy, same, extends'.isConvenient_eq, if_pos wanted, extends'.placeOf_eq has,
      extends'.demands_eq has]
  · cases isDemand

/-- What is noted in the first run is noted in the second one, but for the unions of successes. -/
theorem echoes (noted : seed ∈ state.seeds) :
    (∃ more ∈ wide.seeds, Echoes context state wide seed more) ∨ state.Combines seed := by
  -- A seed was demanded, made up for successes, or noted of what is polled.
  rcases retells.explains.1.only seed noted with ⟨demand, isDemand, meets⟩ | made | ⟨isMonitor, use⟩
  · obtain ⟨there, isDemandWide⟩ := retells.demanded isDemand
    obtain ⟨more, notedWide, met⟩ := retells.explainsWide.1.met demand isDemandWide
    exact Or.inl ⟨more, notedWide, retells.counterparts there meets.stands met.stands,
      fun way has => by rwa [met.usage, ← meets.usage]⟩
  · exact Or.inr made
  · obtain ⟨demand, isDemandWide, there, stands, includes⟩ := retells.watched seed.type isMonitor
    obtain ⟨more, notedWide, met⟩ := retells.explainsWide.1.met demand isDemandWide
    exact Or.inl ⟨more, notedWide, retells.counterparts there stands met.stands,
      fun way has => met.usage ▸ includes way (use ▸ has)⟩

/-- A union that was made up is not declared, and what is declared was not made up. -/
theorem not_combines (known : Remembered id seed.type state) : ¬ state.Combines seed := by
  rintro ⟨-, made, union, isUnion, -⟩
  -- A union carries usage, and what carries usage has the origin that it was declared with.
  have carries : (state.catalogue.nodeAt seed.type).carriesUsage := by
    simp [Node.carriesUsage, Node.usage?, isUnion]
  rw [retells.settled.origin id seed.type known carries] at made
  cases made

/-- Whatever is noted in the first run brings, something noted in the second one brings as well. -/
theorem brought (noted : seed ∈ state.seeds) (known : Remembered id node state)
    (carries : (state.catalogue.nodeAt node).carriesUsage)
    (brings : seed.Brings state.catalogue sparesBase node way) :
    ∃ more ∈ wide.seeds, ∃ target, Counterparts context state wide node target ∧
      more.Brings wide.catalogue sparesBase target way := by
  -- What has an echo in the second run brings there what it brought in the first one.
  have echoed {seed more : Seed} (isMore : more ∈ wide.seeds)
      (echoes : Echoes context state wide seed more)
      (brings : seed.Brings state.catalogue sparesBase node way) :
      ∃ more ∈ wide.seeds, ∃ target, Counterparts context state wide node target ∧
        more.Brings wide.catalogue sparesBase target way := by
    obtain ⟨target, both, broughtWide⟩ :=
      retells.brings echoes.1 (echoes.2 way) brings
        (label_ne_builtin_of_carriesUsage carries)
    exact ⟨more, isMore, target, both, broughtWide⟩
  rcases retells.echoes noted with ⟨more, isMore, echoes⟩ | combines
  · exact echoed isMore echoes brings
  -- The union itself was not declared, and hands nothing over.
  have apart : node ≠ seed.type := by
    rintro rfl
    exact retells.not_combines known combines
  -- The seed is a union that was combined, of which the notes on its variants are told.
  obtain ⟨use, -, union, isUnion, returns⟩ := combines
  have keeps (next : NodeId) : ¬ state.catalogue.HandsOver seed.type next :=
    not_handsOver_of_carriesUsage (by simp [Node.carriesUsage, Node.usage?, isUnion])
  obtain ⟨includes, has, notSpread⟩ : state.catalogue.Includes sparesBase seed.type node ∧
      seed.usage.Has way ∧ ¬ Usage.spread.Has way := by
    refine brings.resolve_left fun forwards => ?_
    rcases ReflTransGen.cases_head forwards.1 with same | ⟨_, hands, _⟩
    · exact apart same.symm
    · exact keeps _ hands
  -- So the way leads through one of its variants, which was noted before.
  rcases ReflTransGen.cases_head includes.leads with same | ⟨variant, hands | refers, rest⟩
  · exact absurd same.symm apart
  · exact absurd hands (keeps _)
  · have listed : variant ∈ union.variants := by
      cases refers with
      | variant kind member =>
        rw [isUnion] at kind
        cases kind
        exact member
      | property kind | additional kind | base kind | subtype kind =>
        rw [isUnion] at kind
        cases kind
    obtain ⟨⟨id, isKnown⟩, earlier, isNoted, rfl, output⟩ := returns variant listed
    have had : earlier.usage.Has way := output way (use ▸ has)
    obtain ⟨more, isMore, echoes⟩ :=
      (retells.echoes isNoted).resolve_right (retells.not_combines isKnown)
    exact echoed isMore echoes ((forwards_or_includes rest).imp (⟨·, had⟩) (⟨·, had, notSpread⟩))

end Retells

/-! ## Chosen usage -/

/-- A seed is planted for a type just if a choice was made for it and its node carries usage. -/
theorem mem_chosenSeeds {catalogue : Catalogue} {choices : Service.Choices} {seed : Seed} :
    seed ∈ chosenSeeds catalogue choices ↔
      (catalogue.nodeAt seed.type).carriesUsage = true ∧
        ∃ origin, (catalogue.nodeAt seed.type).origin = some origin ∧
          choices.usage? origin = some seed.usage ∧
          (choices.access? (.type origin)).getD .everyone = seed.access := by
  unfold chosenSeeds
  rw [List.mem_filterMap]
  constructor
  · -- Both ways it is to read the conditions of the search one by one.
    rintro ⟨id, listed, isSeed⟩
    simp only [Option.bind_eq_bind, Option.bind_eq_some_iff, Option.guard_eq_some',
      Option.pure_def, Option.some.injEq] at isSeed
    obtain ⟨-, carries, origin, isOrigin, usage, chosen, rfl⟩ := isSeed
    exact ⟨carries, origin, isOrigin, chosen, rfl⟩
  · rintro ⟨carries, origin, isOrigin, chosen, access⟩
    refine ⟨seed.type, ?_, ?_⟩
    · exact (Catalogue.mem_ids _).mpr (index_lt_of_carriesUsage carries)
    · simp [carries, isOrigin, chosen, access]

namespace Parallel

variable (parallel : Parallel context larger state wide) (known : Remembered id node state)
  (carries : (state.catalogue.nodeAt node).carriesUsage)
include parallel known carries

/-- What has a usage was declared. -/
theorem declares_of_carries : context.definition.Declares (.type id) := by
  by_contra outside
  -- Out of range there is no shape that could be used.
  have usage := parallel.settled.usage?_eq known
  rw [Context.isUsable,
    Definition.shapeAt_of_notMem (mt Definition.mem_typeIds.mp outside)] at usage
  simp [Node.carriesUsage, usage] at carries

/-- What has a usage in the first run has one in the second run, which is empty to begin with. -/
theorem unused_wide (knownWide : Remembered id other wide) :
    (wide.catalogue.nodeAt other).usage? = some .none := by
  have usage := parallel.settled.usage?_eq known
  -- Whether a type can be used is told by its declaration, which is the same in both.
  rw [parallel.settledWide.usage?_eq knownWide,
    parallel.extends'.isUsable_eq (parallel.declares_of_carries known carries), if_pos]
  by_contra unusable
  simp [Node.carriesUsage, usage, unusable] at carries

end Parallel

namespace Retells

variable (retells : Retells context larger attempts others state wide) {seed : Seed} {way : Nat}
include retells

/-- What was chosen for a type is planted in both runs, if both have a node of the type. -/
theorem echoes_chosen (planted : seed ∈ chosenSeeds state.catalogue context.choices) :
    ∃ more ∈ chosenSeeds wide.catalogue larger.choices, Echoes context state wide seed more := by
  obtain ⟨carries, origin, isOrigin, chosen, access⟩ := mem_chosenSeeds.mp planted
  -- The choice is the same in both, and so is the node that it is planted at but for its place.
  have known := retells.settled.registered _ _ carries isOrigin
  have there := retells.declares_of_carries known carries
  obtain ⟨other, knownWide⟩ := retells.kept origin (by rw [chosen]; rfl) there
  have unused := retells.unused_wide known carries knownWide
  have carriesWide : (wide.catalogue.nodeAt other).carriesUsage := by
    simp [Node.carriesUsage, unused]
  refine ⟨{ seed with type := other }, mem_chosenSeeds.mpr ⟨carriesWide, origin,
    retells.settledWide.origin origin other knownWide carriesWide, ?_, ?_⟩,
    ⟨origin, there, known, knownWide⟩, fun _ has => has⟩
  · rw [retells.extends'.choices, chosen]
  · rw [retells.extends'.choices, access]

/-- Whatever seeds of the first run bring to a type, those of the second one bring to it as well. -/
theorem brought_wide
    (planted : seed ∈ chosenSeeds state.catalogue context.choices ++ state.seeds)
    (known : Remembered id node state) (carries : (state.catalogue.nodeAt node).carriesUsage)
    (brings : seed.Brings state.catalogue sparesBase node way) :
    ∃ more ∈ chosenSeeds wide.catalogue larger.choices ++ wide.seeds, ∃ other,
      Remembered id other wide ∧ more.Brings wide.catalogue sparesBase other way := by
  have echoed : ∃ more ∈ chosenSeeds wide.catalogue larger.choices ++ wide.seeds, ∃ target,
      Counterparts context state wide node target ∧
        more.Brings wide.catalogue sparesBase target way := by
    -- The seed was chosen, or it was noted in the run.
    rcases List.mem_append.mp planted with chosen | noted
    · obtain ⟨more, isMore, types, use⟩ := retells.echoes_chosen chosen
      obtain ⟨target, both, broughtWide⟩ := retells.brings types (use way) brings
        (label_ne_builtin_of_carriesUsage carries)
      exact ⟨more, List.mem_append_left _ isMore, target, both, broughtWide⟩
    · obtain ⟨more, isMore, target, both, broughtWide⟩ :=
        retells.brought noted known carries brings
      exact ⟨more, List.mem_append_right _ isMore, target, both, broughtWide⟩
  obtain ⟨more, isMore, target, ⟨type, -, ofType, targetWide⟩, broughtWide⟩ := echoed
  -- What has a usage is the node of one type only.
  have origin := retells.settled.origin id node known carries
  rw [retells.settled.origin type node ofType carries, Option.some.injEq] at origin
  subst origin
  exact ⟨more, isMore, target, targetWide, broughtWide⟩

/-- What is used in the first run is used in the second one, in the same ways at least. -/
theorem grows (known : Remembered id node state) {usage : Usage}
    (carried : ((spread state.catalogue context.choices context.options.sparesBase
      state.seeds).nodeAt node).usage? = some usage) (used : usage.isEmpty = false) :
    ∃ other whole, Remembered id other wide ∧
      ((spread wide.catalogue larger.choices larger.options.sparesBase wide.seeds).nodeAt
        other).usage? = some whole ∧ usage.Subset whole := by
  -- The node carries usage, and none in the run itself; all that it has was spread to it.
  have carries : (state.catalogue.nodeAt node).carriesUsage := by
    rw [← carriesUsage_spread context.choices state.seeds node, Node.carriesUsage, carried]
    rfl
  have unused : (state.catalogue.nodeAt node).usage? = some .none := by
    have usage := retells.settled.usage?_eq known
    rw [usage, if_pos]
    by_contra unusable
    simp [Node.carriesUsage, usage, unusable] at carries
  obtain ⟨same, found, ways⟩ := usage?_spread_of_unused context.choices context.options.sparesBase
    state.seeds unused
  obtain rfl := Option.some.inj (found.symm.trans carried)
  -- Each way was brought by a seed, and so it is in the second run.
  have brought (way : Nat) (has : same.Has way) : ∃ more ∈
      chosenSeeds wide.catalogue larger.choices ++ wide.seeds, ∃ other,
        Remembered id other wide ∧
          more.Brings wide.catalogue context.options.sparesBase other way := by
    obtain ⟨seed, planted, brings⟩ := (ways way).mp has
    exact retells.brought_wide planted known carries brings
  obtain ⟨way, has⟩ := Usage.exists_has_of_isEmpty used
  obtain ⟨-, -, other, knownWide, -⟩ := brought way has
  obtain ⟨whole, foundWide, waysWide⟩ := usage?_spread_of_unused larger.choices
    context.options.sparesBase wide.seeds (retells.unused_wide known carries knownWide)
  -- The types of use are compared way by way.
  refine ⟨other, whole, knownWide, retells.extends'.options ▸ foundWide, fun way has => ?_⟩
  obtain ⟨more, isMore, target, isTarget, brings⟩ := brought way has
  obtain rfl := Option.some.inj (isTarget.symm.trans knownWide)
  exact (waysWide way).mpr ⟨more, isMore, brings⟩

end Retells

/-! ## Packages -/

/-- The run on the larger definition makes the same choices, and has the same roots. -/
theorem extendsTo_of {definition extended : Definition} (regular : definition.IsRegular)
    (appends : definition.AppendsOperation extended) (options : Options)
    (chosen : ∀ container, ∀ id ∈ (Context.of definition options).chosenFor container,
      definition.Declares (.property id)) :
    (Context.of definition options).ExtendsTo (Context.of extended options) := by
  have choices : extended.customizations.resolve options.scope =
      definition.customizations.resolve options.scope := by rw [appends.customizations]
  refine ⟨appends, regular.closed, regular.copies, regular.bases, rfl, choices, ?_, chosen⟩
  -- Without a choice of clients, the roots are the containers of services, which are the same.
  have service (id : ContainerId) :
      (extended.containerAt id).service = (definition.containerAt id).service := by
    obtain ⟨listed, same⟩ := appends.containerAt_eq id
    rw [same]
  show (rootClients extended (extended.customizations.resolve options.scope)).map _ = _
  rw [choices, rootClients, Definition.containerIds, appends.containers_size_eq]
  simp only [service]
  rfl

/-- Two runs end in packages, the second one on a definition with one operation more. -/
theorem retells_of {definition extended : Definition} (regular : definition.IsRegular)
    (regularWide : extended.IsRegular) (appends : definition.AppendsOperation extended)
    {options : Options} {package larger : Package}
    (derived : derivePackage definition options = .ok package)
    (derivedWide : derivePackage extended options = .ok larger)
    (chosen : ∀ container, ∀ id ∈ (Context.of definition options).chosenFor container,
      definition.Declares (.property id))
    (separate : (Context.of definition options).HasSeparateRoots)
    (apart : ∀ base, definition.Declares (.type base) →
      (Context.of extended options).KeepsApart base)
    (kept : ∀ type, ((Context.of definition options).choices.usage? type).isSome →
      definition.Declares (.type type) → (Context.of extended options).IsLedTo type)
    (watched : (Context.of definition options).HandsBackWatched) :
    ∃ attempts others, Retells (Context.of definition options) (Context.of extended options)
      attempts others (finalState definition options) (finalState extended options) := by
  -- The conditions on the smaller definition hold of the larger one as well.
  have extends' := extendsTo_of regular appends options chosen
  have separateWide : (Context.of extended options).HasSeparateRoots := by
    intro root isRoot other isOther encloses
    rw [extends'.roots] at isRoot isOther
    exact separate root isRoot other isOther (appends.enclosing_eq root ▸ encloses)
  obtain ⟨clients, run, rfl⟩ := derivePackage_ok derived
  obtain ⟨clientsWide, runWide, rfl⟩ := derivePackage_ok derivedWide
  have sound := Context.isSound_of regular.linked options
  have soundWide := Context.isSound_of regularWide.linked options
  obtain ⟨records, recorded⟩ := recorded_run run
  obtain ⟨recordsWide, recordedWide⟩ := recorded_run runWide
  have accounts := accounts_of_run sound recorded
  have accountsWide := accounts_of_run soundWide recordedWide
  have explains := (Context.recordedClients_explain sound regular.placed separate).ok rfl recorded
  have explainsWide :=
    (Context.recordedClients_explain soundWide regularWide.placed separateWide).ok rfl recordedWide
  -- All that is left to show compares the attempts of the two runs.
  refine ⟨records.flatMap Record.attempts, recordsWide.flatMap Record.attempts,
    { extends', consistent := (run_consistent run).2.1, settled := explains.2,
      consistentWide := (run_consistent runWide).2.1, settledWide := explainsWide.2, apart,
      explains, explainsWide, attempted := ?attempted, watched := ?watched,
      kept := fun type isChosen there => (kept type isChosen there).known explainsWide
        (fun _ => mem_demandedBy_of_isDemanded accountsWide)
        (Context.clients_orphans.ok trivial runWide) }⟩
  case attempted =>
    intro attempt listed
    obtain ⟨record, isRecord, isAttempt⟩ := List.mem_flatMap.mp listed
    obtain ⟨has, available, place, rooted⟩ := (accounts.attempted attempt.operation _).mp
      ⟨record, isRecord, rfl, List.mem_map_of_mem isAttempt⟩
    -- The operation is just as available, and goes to the same client.
    obtain ⟨recordWide, isRecordWide, -, isAttemptWide⟩ :=
      (accountsWide.attempted attempt.operation record.client.origin).mpr
        ⟨appends.hasOperation has, (extends'.isAvailable_eq has).trans available,
          (extends'.placeOf_eq has).trans place, by rwa [extends'.nearestRoot?_eq]⟩
    obtain ⟨other, isOther, same⟩ := List.mem_map.mp isAttemptWide
    exact ⟨has, other, List.mem_flatMap.mpr ⟨recordWide, isRecordWide, isOther⟩, same⟩
  case watched =>
    intro monitor isMonitor
    obtain ⟨attempt, listed, isMonitor⟩ := List.mem_flatMap.mp isMonitor
    obtain ⟨record, isRecord, isAttempt⟩ := List.mem_flatMap.mp listed
    obtain ⟨wanted, method, isOk, progress, polls, rfl⟩ := Context.mem_watchedBy.mp isMonitor
    have served : method ∈ record.client.methods.filter (·.origin = some attempt.operation) := by
      rw [accounts.ok record isRecord attempt isAttempt method isOk]
      exact List.mem_singleton_self _
    obtain ⟨isMethod, isOrigin⟩ := List.mem_filter.mp served
    have isClient : record.client ∈ Client.walkAll clients :=
      accounts.clients ▸ List.mem_map_of_mem isRecord
    -- The monitor is of the model that is found in the answer which is watched.
    obtain ⟨declared, polling, response, watches⟩ := (watches_telling _).clients.ok trivial run
      record.client isClient method isMethod attempt.operation (by simpa using isOrigin) progress
      polls
    obtain ⟨body, isBody, model, isFound, known⟩ := watches.found
    obtain ⟨has, available, place, rooted⟩ := (accounts.attempted attempt.operation _).mp
      ⟨record, isRecord, rfl, List.mem_map_of_mem isAttempt⟩
    obtain ⟨demand, isDemanded, same, includes⟩ :=
      watched attempt.operation ⟨has, available, place ▸ rooted, wanted⟩ declared polling response
        watches.isFirst body isBody model _ _ isFound
    obtain ⟨operation, serves, demanded⟩ := id isDemanded
    refine ⟨demand, mem_demandedBy_of_isDemanded accountsWide (extends'.isDemanded isDemanded),
      declares_of_demanded regular.closed serves.declared demanded, ?_, includes⟩
    rw [Context.Stands, same]
    exact known

/--
An operation that is added takes no way of use from any type.

Whatever is used in the package of a definition is used, in the same ways at least, in the package
of the definition with the operation, if every base tells its subtypes apart there by the texts
that they fix, and none of their properties leads back to it. No root lies in another one, and
chosen parameters are declared. A type with a chosen usage is led to from what is demanded or from
an orphan, and a model that is watched for its status is handed back as JSON in its own right.
-/
theorem usage_only_grows {definition extended : Definition} (regular : definition.IsRegular)
    (regularWide : extended.IsRegular) (appends : definition.AppendsOperation extended)
    {options : Options} {package larger : Package}
    (derived : derivePackage definition options = .ok package)
    (derivedWide : derivePackage extended options = .ok larger)
    (apart : ∀ base, definition.Declares (.type base) →
      (Context.of extended options).KeepsApart base)
    (separate : (Context.of definition options).HasSeparateRoots)
    (chosen : ∀ container, ∀ id ∈ (Context.of definition options).chosenFor container,
      definition.Declares (.property id))
    (kept : ∀ type, ((Context.of definition options).choices.usage? type).isSome →
      definition.Declares (.type type) → (Context.of extended options).IsLedTo type)
    (watched : (Context.of definition options).HandsBackWatched) :
    ∀ type node usage, Remembered type node (finalState definition options) →
      (package.catalogue.nodeAt node).usage? = some usage → usage.isEmpty = false →
        ∃ other whole, Remembered type other (finalState extended options) ∧
          (larger.catalogue.nodeAt other).usage? = some whole ∧ usage.Subset whole := by
  intro type node usage known carried used
  -- The two runs retell each other, and the packages spread what is noted in them.
  obtain ⟨attempts, others, retells⟩ := retells_of regular regularWide appends derived derivedWide
    chosen separate apart kept watched
  obtain ⟨clients, -, rfl⟩ := derivePackage_ok derived
  obtain ⟨clientsWide, -, rfl⟩ := derivePackage_ok derivedWide
  exact retells.grows known carried used

/-! ## An aquarium -/

/-- The draft after a call, and the identifiers that were handed out by then. -/
def afterCall (made : Draft × List Declaration) (call : Draft.Call) : Draft × List Declaration :=
  ((call.perform.run made.1).2, made.2 ++ (call.perform.run made.1).1)

/-- Every call is given what was handed out before. -/
def areGiven : Draft × List Declaration → List Draft.Call → Bool
  | _, [] => true
  | made, call :: calls =>
    decide (call.arguments ⊆ made.2) && areGiven (afterCall made call) calls

/-- A sequence of steps, each of which is given what it cites, ends in a draft. -/
theorem foldl_afterCall_isDrafted {made : Draft × List Declaration} {calls : List Draft.Call}
    (drafted : made.1.IsDrafted made.2) (given : areGiven made calls = true)
    (tame : ∀ call ∈ calls, ∀ handed, call.IsTame handed) :
    (calls.foldl afterCall made).1.IsDrafted (calls.foldl afterCall made).2 := by
  -- Step by step, with what was handed out up to there.
  induction calls generalizing made with
  | nil => exact drafted
  | cons call calls ih =>
    rw [areGiven, Bool.and_eq_true, decide_eq_true_eq] at given
    exact ih (drafted.call call given.1 (tame call List.mem_cons_self _)) given.2
      fun other listed => tame other (List.mem_cons_of_mem _ listed)

/-- The calls for a service that keeps fish. Sharks are told apart by their kind. -/
def keepingFish (prey : TypeId) : List Draft.Call :=
  [ .container "Zoo" false none,
    .setService ⟨0⟩ {},
    .container "Sharks" true (some ⟨0⟩),
    .model { name := some "Fish", namespaceId := some ⟨0⟩ },
    .setDiscriminator ⟨0⟩ "kind",
    .model { name := some "Shark", namespaceId := some ⟨0⟩ },
    .setBase ⟨1⟩ ⟨0⟩,
    .literal (.text "shark"),
    .property ⟨1⟩ "kind" ⟨2⟩,
    .property ⟨1⟩ "prey" prey,
    .operation ⟨0⟩ "get" .get "/fish",
    .addResponse ⟨0⟩ { status := .code 200, body := some { type := ⟨0⟩ } }]

/-- The calls that add an operation by which sharks are fed. -/
def feedingSharks : List Draft.Call :=
  [ .operation ⟨1⟩ "feed" .post "/sharks",
    .parameter ⟨1⟩ "shark" ⟨1⟩ .body]

/-- An aquarium where sharks have some prey. -/
def aquarium (prey : TypeId) : Draft × List Declaration :=
  (keepingFish prey).foldl afterCall ({}, [])

/-- The same aquarium where sharks are fed. -/
def feedingAquarium (prey : TypeId) : Draft × List Declaration :=
  feedingSharks.foldl afterCall (aquarium prey)

section

variable {prey : TypeId}

/-- The aquarium is put together by the steps of a draft. -/
theorem aquarium_isDrafted (known : prey = ⟨0⟩ ∨ prey = ⟨2⟩) :
    (aquarium prey).1.IsDrafted (aquarium prey).2 := by
  -- What is given to the steps is evaluated; none of them takes back what was declared.
  refine foldl_afterCall_isDrafted .start ?_ fun call listed handed => ?_
  · rcases known with rfl | rfl <;> decide
  · simp only [keepingFish, List.mem_cons, List.not_mem_nil, or_false] at listed
    rcases listed with rfl | rfl | rfl | rfl | rfl | rfl | rfl | rfl | rfl | rfl | rfl | rfl <;>
      trivial

/-- So is the aquarium where sharks are fed. -/
theorem feedingAquarium_isDrafted (known : prey = ⟨0⟩ ∨ prey = ⟨2⟩) :
    (feedingAquarium prey).1.IsDrafted (feedingAquarium prey).2 := by
  -- The aquarium is drafted, and each call of the feeding hands on what is declared by then.
  refine foldl_afterCall_isDrafted (aquarium_isDrafted known) ?_ fun call listed handed => ?_
  · rcases known with rfl | rfl <;> decide
  · simp only [feedingSharks, List.mem_cons, List.not_mem_nil, or_false] at listed
    rcases listed with rfl | rfl <;> trivial

/-- To feed sharks is one operation more, and no other change. -/
theorem aquarium_appendsOperation (prey : TypeId) :
    (aquarium prey).1.definition.AppendsOperation (feedingAquarium prey).1.definition where
  types_size := Nat.le_refl _
  properties_size := Nat.le_succ _
  -- No type is declared that would derive from another.
  shapeAt id _ := ⟨[], by simp, by
    have same : (feedingAquarium prey).1.definition.shapeAt id =
      (aquarium prey).1.definition.shapeAt id := rfl
    rw [same]
    cases (aquarium prey).1.definition.shapeAt id <;> simp [Service.Shape.withDerived]⟩
  propertyAt id there := by
    have properties : (feedingAquarium prey).1.definition.properties =
      (aquarium prey).1.definition.properties.push
        { name := "shark", type := ⟨1⟩, binding := some .body } := rfl
    rw [Definition.propertyAt, properties, Service.getD_push, if_neg (Nat.ne_of_lt there),
      Definition.propertyAt]
  operation :=
    ⟨{ name := "feed", container := ⟨1⟩, verb := .post, path := "/sharks", parameters := [⟨2⟩]
       bodies := [{ property := some ⟨2⟩, type := ⟨1⟩ }] }, Nat.lt_succ_self 1, rfl, rfl⟩
  customizations := rfl

/-- The operation that is added brings no types. -/
theorem feedingAquarium_membersPlaced (prey : TypeId) :
    (feedingAquarium prey).1.definition.MembersPlaced := by
  refine Definition.membersPlaced_iff.mpr fun id inside => ?_
  -- There are neither enums nor members.
  match id with
  | ⟨0⟩ | ⟨1⟩ | ⟨2⟩ | ⟨beyond + 3⟩ => rfl

/-- The aquarium is regular. -/
theorem aquarium_isRegular (known : prey = ⟨0⟩ ∨ prey = ⟨2⟩) :
    (aquarium prey).1.definition.IsRegular where
  linked := (aquarium_isDrafted known).coherent.1.made.isLinked
  closed := (aquarium_isDrafted known).coherent.1.closed
  -- What it is drafted from tells that it is linked and closed; the rest is evaluated.
  placed := by
    have types : (feedingAquarium prey).1.definition.types =
      (aquarium prey).1.definition.types := rfl
    exact membersPlaced_congr types (feedingAquarium_membersPlaced prey)
  copies := by
    refine Definition.isCopyOf_acyclic_of_earlier ?_
    rcases known with rfl | rfl <;> decide
  bases := by
    refine Definition.extends_acyclic_of_earlier ?_
    rcases known with rfl | rfl <;> decide

/-- The aquarium where sharks are fed is regular as well. -/
theorem feedingAquarium_isRegular (known : prey = ⟨0⟩ ∨ prey = ⟨2⟩) :
    (feedingAquarium prey).1.definition.IsRegular where
  linked := (feedingAquarium_isDrafted known).coherent.1.made.isLinked
  closed := (feedingAquarium_isDrafted known).coherent.1.closed
  placed := feedingAquarium_membersPlaced prey
  copies := by
    refine Definition.isCopyOf_acyclic_of_earlier ?_
    rcases known with rfl | rfl <;> decide
  bases := by
    refine Definition.extends_acyclic_of_earlier ?_
    rcases known with rfl | rfl <;> decide

end

/-- Sharks fix their kind, and nothing in them leads back to fish. -/
theorem aquarium_keepsApart (base : TypeId) :
    (Context.of (feedingAquarium ⟨2⟩).1.definition {}).KeepsApart base := by
  intro declared name isModel discriminated derived listed value _
  -- Only fish have a discriminator, and sharks are all that derives from them.
  match base with
  | ⟨0⟩ =>
    cases isModel
    obtain rfl : derived = ⟨1⟩ := List.mem_singleton.mp listed
    refine ⟨?_, fun other isOther _ => by rw [List.mem_singleton.mp isOther]⟩
    rintro ⟨shark, isShark, property, isMember, way⟩
    cases isShark
    have listed : property ∈ [(⟨0⟩ : PropertyId), ⟨1⟩] := isMember
    simp only [List.mem_cons, List.not_mem_nil, or_false] at listed
    rcases listed with rfl | rfl <;> exact absurd (Context.not_reaches rfl way) (by decide)
  | ⟨1⟩ =>
    cases isModel
    cases discriminated
  | ⟨2⟩ | ⟨beyond + 3⟩ => cases isModel

/-- Where the prey of sharks is a fixed text, the usage of fish and of sharks only grows. -/
theorem usage_only_grows_aquarium :
    (aquarium ⟨2⟩).1.definition.AppendsOperation (feedingAquarium ⟨2⟩).1.definition ∧
      ∃ package larger, derivePackage (aquarium ⟨2⟩).1.definition {} = .ok package ∧
        derivePackage (feedingAquarium ⟨2⟩).1.definition {} = .ok larger ∧
        ∀ type node usage, Remembered type node (finalState (aquarium ⟨2⟩).1.definition {}) →
          (package.catalogue.nodeAt node).usage? = some usage → usage.isEmpty = false →
            ∃ other whole,
              Remembered type other (finalState (feedingAquarium ⟨2⟩).1.definition {}) ∧
              (larger.catalogue.nodeAt other).usage? = some whole ∧ usage.Subset whole := by
  -- The conditions of the theorem are evaluated one after the other.
  have roots : (Context.of (aquarium ⟨2⟩).1.definition {}).roots = [⟨0⟩] := by decide +kernel
  have isOk : (derivePackage (aquarium ⟨2⟩).1.definition {}).isOk = true := by decide +kernel
  have isOkWide : (derivePackage (feedingAquarium ⟨2⟩).1.definition {}).isOk = true := by
    decide +kernel
  cases derived : derivePackage (aquarium ⟨2⟩).1.definition {} with
  | error failure => simp [derived, Except.isOk, Except.toBool] at isOk
  | ok package =>
    cases derivedWide : derivePackage (feedingAquarium ⟨2⟩).1.definition {} with
    | error failure => simp [derivedWide, Except.isOk, Except.toBool] at isOkWide
    | ok larger =>
      refine ⟨aquarium_appendsOperation ⟨2⟩, package, larger, rfl, rfl, ?_⟩
      refine usage_only_grows (aquarium_isRegular (.inr rfl)) (feedingAquarium_isRegular (.inr rfl))
        (aquarium_appendsOperation ⟨2⟩) derived derivedWide ?_ ?_ ?_ ?_ ?_
      · exact fun base _ => aquarium_keepsApart base
      · intro root isRoot other isOther _
        rw [roots, List.mem_singleton] at isRoot isOther
        rw [isRoot, isOther]
      · intro container id listed
        cases listed
      · intro type chosen
        cases chosen
      · -- No operation polls another one.
        rintro ⟨index⟩ _ declared polls
        cases index with
        | zero | succ => cases polls

/--
Without such conditions, an operation that is added may take a way of use.

Where sharks prey on fish, sharks that are fed are met before all other fish. Then their kind is not
there yet when fish look for it, and sharks are not among the fish that are returned any more.
-/
theorem usage_may_shrink :
    ¬ ∀ (draft fuller : Draft) (handed more : List Declaration),
      draft.IsDrafted handed → fuller.IsDrafted more →
      draft.definition.AppendsOperation fuller.definition →
      ∀ (options : Options) (package larger : Package),
        derivePackage draft.definition options = .ok package →
        derivePackage fuller.definition options = .ok larger →
        ∀ type node usage, Remembered type node (finalState draft.definition options) →
          (package.catalogue.nodeAt node).usage? = some usage → usage.isEmpty = false →
            ∃ other whole, Remembered type other (finalState fuller.definition options) ∧
              (larger.catalogue.nodeAt other).usage? = some whole ∧ usage.Subset whole := by
  intro grows
  have isOk : (derivePackage (aquarium ⟨0⟩).1.definition {}).isOk = true := by decide +kernel
  have isOkWide : (derivePackage (feedingAquarium ⟨0⟩).1.definition {}).isOk = true := by
    decide +kernel
  cases derived : derivePackage (aquarium ⟨0⟩).1.definition {} with
  | error failure => simp [derived, Except.isOk, Except.toBool] at isOk
  | ok package =>
    cases derivedWide : derivePackage (feedingAquarium ⟨0⟩).1.definition {} with
    | error failure => simp [derivedWide, Except.isOk, Except.toBool] at isOkWide
    | ok larger =>
      obtain ⟨clients, _, isPackage⟩ := derivePackage_ok derived
      obtain ⟨clientsWide, _, isLarger⟩ := derivePackage_ok derivedWide
      -- At first sharks are returned where all fish are.
      have shark : (finalState (aquarium ⟨0⟩).1.definition {}).declared.get? ⟨1⟩ = some ⟨1⟩ := by
        decide +kernel
      obtain ⟨usage, found, returned⟩ : ∃ usage,
          (package.catalogue.nodeAt ⟨1⟩).usage? = some usage ∧ usage.Has 2 := by
        have noted : { type := ⟨0⟩, usage := .output ||| .json, access := .everyone : Seed } ∈
            (finalState (aquarium ⟨0⟩).1.definition {}).seeds := by decide +kernel
        rw [isPackage]
        exact has_spread_of_refersTo noted rfl (by decide)
          (refersTo_iff_onward.mpr (by decide +kernel)) (by decide +kernel)
      -- When they are fed, fish lead to the text of their kind, and nowhere else.
      have sharkWide :
          (finalState (feedingAquarium ⟨0⟩).1.definition {}).declared.get? ⟨1⟩ = some ⟨0⟩ := by
        decide +kernel
      have kept {whole : Usage} (foundWide : (larger.catalogue.nodeAt ⟨0⟩).usage? = some whole) :
          ¬ whole.Has 2 := by
        rw [isLarger] at foundWide
        exact not_has_spread_of_closed [⟨2⟩, ⟨3⟩] (by decide +kernel) (by decide +kernel)
          -- Fed sharks would have to be returned, too, if usage only grew.
          (by decide) (by decide +kernel) foundWide
      obtain ⟨other, whole, isShark, foundWide, includes⟩ := grows _ _ _ _
        (aquarium_isDrafted (.inl rfl)) (feedingAquarium_isDrafted (.inl rfl))
        (aquarium_appendsOperation ⟨0⟩) {} package larger derived derivedWide ⟨1⟩ ⟨1⟩ usage shark
        found (Usage.isEmpty_of_has returned)
      obtain rfl : ⟨0⟩ = other := Option.some.inj (sharkWide.symm.trans isShark)
      exact kept foundWide (includes 2 returned)

end Derivation

end ClientModel
