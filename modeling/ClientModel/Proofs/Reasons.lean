import ClientModel.Proofs.Demands
import ClientModel.Proofs.Successes

/-!
Why types are noted to be used.

Whatever an operation demands is noted by its method. Beside that, a method only notes the union of
its successes, each of which it demands, and its status monitor.
-/

namespace ClientModel.Derivation

open Service (ResponseDecl)

variable {context : Context} {client : ContainerId} {operation : OperationId} {access : Access}
  {state before after : State}

/-! ## Notes -/

/-- The node of a declared type was noted to be handed back. -/
def State.Returns (state : State) (type : NodeId) : Prop :=
  (∃ id, Remembered id type state) ∧
    ∃ seed ∈ state.seeds, seed.type = type ∧ Usage.output.Subset seed.usage

/-- A union was made up of types that are handed back, and is handed back itself. -/
structure State.Combines (state : State) (seed : Seed) : Prop where
  usage : seed.usage = .output
  made : (state.catalogue.nodeAt seed.type).origin = none
  union : ∃ union, (state.catalogue.nodeAt seed.type).kind = .union union ∧
    ∀ variant ∈ union.variants, state.Returns variant

/-- What a status monitor is used for. -/
def monitorUsage : Usage :=
  .output ||| .json

/--
All that is demanded and watched is noted, and nothing else.

The unions that were made up of what is demanded are left out of account.
-/
structure Context.Explains (context : Context) (demands : List Demand) (watched : List NodeId)
    (state : State) : Prop where
  met : ∀ demand ∈ demands, ∃ seed ∈ state.seeds, context.Meets state demand seed
  seen : ∀ monitor ∈ watched, ∃ seed ∈ state.seeds,
    seed.type = monitor ∧ seed.usage = monitorUsage
  only : ∀ seed ∈ state.seeds, (∃ demand ∈ demands, context.Meets state demand seed) ∨
    state.Combines seed ∨ seed.type ∈ watched ∧ seed.usage = monitorUsage

/-- A type that methods return is returned later as well. -/
theorem State.Returns.mono {type : NodeId} (returns : before.Returns type)
    (grown : Grown before after) (kept : before.seeds ⊆ after.seeds) : after.Returns type := by
  -- The type is remembered still, and the seed that says so is among those that there are more of
  -- now.
  obtain ⟨⟨id, known⟩, seed, noted, isType, output⟩ := returns
  exact ⟨⟨id, grown.declared _ _ known⟩, seed, kept noted, isType, output⟩

/-- A union that was made up of returned types stays one. -/
theorem State.Combines.mono {seed : Seed} (combines : before.Combines seed)
    (grown : Grown before after) (kept : before.seeds ⊆ after.seeds) : after.Combines seed := by
  obtain ⟨usage, made, union, isUnion, returns⟩ := combines
  -- The kind of a union is final, and a node out of range would have none.
  have stays : (after.catalogue.nodeAt seed.type).kind = .union union :=
    grown.kind isUnion (by simp [NodeKind.label])
  have inside : seed.type.index < before.catalogue.size := by
    by_contra outside
    rw [Catalogue.nodeAt_of_ge _ (Nat.le_of_not_lt outside)] at isUnion
    cases isUnion
  refine ⟨usage, ?_, union, stays, fun variant listed => (returns variant listed).mono grown kept⟩
  rw [← made]
  have plain := congrArg Node.origin (grown.nodes seed.type inside)
  exact plain

namespace Context.Explains

variable {demands more : List Demand} {watched monitors : List NodeId}

/-- Nothing is demanded, watched or noted at the start. -/
theorem start : context.Explains [] [] {} := by
  refine ⟨?_, ?_, ?_⟩ <;> simp

/-- The order of demands does not matter. -/
theorem congr (explains : context.Explains demands watched state)
    (sameDemands : ∀ demand, demand ∈ more ↔ demand ∈ demands)
    (sameWatched : ∀ monitor, monitor ∈ monitors ↔ monitor ∈ watched) :
    context.Explains more monitors state where
  met demand demanded := explains.met demand ((sameDemands demand).mp demanded)
  seen monitor isWatched := explains.seen monitor ((sameWatched monitor).mp isWatched)
  only seed noted := by
    simp only [sameDemands, sameWatched]
    exact explains.only seed noted

/-- What was explained stays so, and what is noted since is explained by what is new. -/
theorem extend (explains : context.Explains demands watched before) (grown : Grown before after)
    {new : List Seed} (seeds : after.seeds = before.seeds ++ new)
    (met : ∀ demand ∈ more, ∃ seed ∈ new, context.Meets after demand seed)
    (seen : ∀ monitor ∈ monitors, ∃ seed ∈ new, seed.type = monitor ∧ seed.usage = monitorUsage)
    (only : ∀ seed ∈ new, (∃ demand ∈ more, context.Meets after demand seed) ∨
      after.Combines seed ∨ seed.type ∈ monitors ∧ seed.usage = monitorUsage) :
    context.Explains (demands ++ more) (watched ++ monitors) after := by
  -- A seed that was explained before has its reason still; a new one has one among the new reasons.
  have kept : before.seeds ⊆ after.seeds := seeds ▸ List.subset_append_left _ _
  have added : new ⊆ after.seeds := seeds ▸ List.subset_append_right _ _
  refine ⟨fun demand demanded => ?_, fun monitor isWatched => ?_, fun seed noted => ?_⟩
  · rcases List.mem_append.mp demanded with earlier | later
    · obtain ⟨seed, noted, meets⟩ := explains.met demand earlier
      exact ⟨seed, kept noted, meets.grown grown⟩
    · obtain ⟨seed, noted, meets⟩ := met demand later
      exact ⟨seed, added noted, meets⟩
  · rcases List.mem_append.mp isWatched with earlier | later
    · obtain ⟨seed, noted, told⟩ := explains.seen monitor earlier
      exact ⟨seed, kept noted, told⟩
    · obtain ⟨seed, noted, told⟩ := seen monitor later
      exact ⟨seed, added noted, told⟩
  · -- A seed has its reason: a demand, a union that was combined, or a monitor that is watched.
    rw [seeds, List.mem_append] at noted
    rcases noted with earlier | later
    · rcases explains.only seed earlier with ⟨demand, demanded, meets⟩ | made | ⟨among, usage⟩
      · exact Or.inl ⟨demand, List.mem_append_left _ demanded, meets.grown grown⟩
      · exact Or.inr (Or.inl (made.mono grown kept))
      · exact Or.inr (Or.inr ⟨List.mem_append_left _ among, usage⟩)
    · rcases only seed later with ⟨demand, demanded, meets⟩ | made | ⟨among, usage⟩
      · exact Or.inl ⟨demand, List.mem_append_right _ demanded, meets⟩
      · exact Or.inr (Or.inl made)
      · exact Or.inr (Or.inr ⟨List.mem_append_right _ among, usage⟩)

/-- What is noted stays explained while nothing else is noted. -/
theorem mono (explains : context.Explains demands watched before) (grown : Grown before after)
    (same : after.seeds = before.seeds) : context.Explains demands watched after := by
  -- It is to be extended by nothing.
  have extended := @extend _ _ _ _ [] _ [] explains grown _
    (same.trans (List.append_nil _).symm) (by simp) (by simp) (by simp)
  simpa using extended

/-- What was noted since is explained by what was demanded since. -/
theorem told (explains : context.Explains demands watched before)
    (told : context.Told client before more after) :
    context.Explains (demands ++ more) watched after := by
  -- Each new seed meets one of the new demands, and each of them is met.
  obtain ⟨grown, -, new, seeds, meets⟩ := told
  rw [← List.append_nil watched]
  exact explains.extend grown seeds (fun _ demanded => partner_of_mem meets demanded) (by simp)
    fun _ noted => Or.inl (partner_of_mem meets.flip noted)

/-- A union that was made up may be noted. -/
theorem combine (explains : context.Explains demands watched state) {seed : Seed}
    (combines : state.Combines seed) :
    context.Explains demands watched { state with seeds := state.seeds ++ [seed] } := by
  -- The demands are as before, and the seed is explained by the union.
  have grown : Grown state { state with seeds := state.seeds ++ [seed] } :=
    (Grown.refl state).noted _ _ _ _
  rw [← List.append_nil demands, ← List.append_nil watched]
  refine explains.extend grown rfl (by simp) (by simp) fun other last => Or.inr (Or.inl ?_)
  rw [List.mem_singleton.mp last]
  exact combines.mono grown (List.subset_append_left _ _)

/-- A status monitor may be noted, and is watched then. -/
theorem watch (explains : context.Explains demands watched state) (monitor : NodeId)
    (access : Access) :
    context.Explains demands (watched ++ [monitor])
      { state with
        seeds := state.seeds ++ [{ type := monitor, usage := monitorUsage, access }] } := by
  -- Nothing new is demanded, and the seed that is new is that of the monitor.
  rw [← List.append_nil demands]
  exact explains.extend ((Grown.refl state).noted _ _ _ _) rfl (by simp)
    (fun other isMonitor => ⟨_, List.mem_singleton_self _, (List.mem_singleton.mp isMonitor).symm,
      rfl⟩) fun seed last => by
        rw [List.mem_singleton.mp last]
        exact Or.inr (Or.inr ⟨List.mem_singleton_self _, rfl⟩)

end Context.Explains

/-- A step that only fails if the run ends, and keeps what held before it. -/
theorem Keeps.orEnds {α : Type} {kept : State → Prop} {step : Derive α}
    (keeps : Keeps kept (fun failure => failure.endsRun = true) step) :
    Ensures kept step (fun _ => kept) fun failure _ => failure.endsRun = true :=
  keeps.weaken (fun _ held => held) (fun _ _ held => held) fun _ _ fails => fails.1

/-! ## What methods note -/

/-- All notes are explained, nodes are settled, and it is known what is in scope of a client. -/
def Context.Tracks (context : Context) (client : ContainerId) (demands : List Demand)
    (watched : List NodeId) (state : State) : Prop :=
  (context.KnowsScope client state ∧ context.Explains demands watched state) ∧
    context.Settled (fun _ => False) state

namespace Context.Tracks

variable {demands more : List Demand} {watched : List NodeId}

/-- What is explained lasts along moves that keep the uses. -/
theorem lasts (client : ContainerId) (demands : List Demand) (watched : List NodeId) :
    LastsAlong KeepsUses fun state =>
      context.KnowsScope client state ∧ context.Explains demands watched state :=
  fun _ _ held led => ⟨held.1.congr led.2.2, held.2.mono led.1 led.2.1⟩

/-- Before a method notes anything, nothing is to be told of it. -/
theorem begins (tracks : context.Tracks client demands watched state) :
    context.HasNoted client state [] state :=
  ⟨⟨.refl state, tracks.1.1, [], (List.append_nil _).symm, .nil⟩, tracks.2⟩

/-- What a method has noted is explained by what is demanded. -/
theorem told (tracks : context.Tracks client demands watched before)
    (held : context.HasNoted client before more after) :
    context.Tracks client (demands ++ more) watched after :=
  ⟨⟨held.1.scope, tracks.1.2.told held.1⟩, held.2⟩

section

variable (placed : context.definition.MembersPlaced)
include placed

/-- What is tracked stays so along steps that note nothing. -/
theorem steady : Steady (context.Tracks client demands watched)
    fun failure => failure.endsRun = true :=
  (lasts client demands watched).settledSteady placed

/-- What is tracked stays so while a type is derived. -/
theorem node (type : TypeId) :
    Keeps (context.Tracks client demands watched) (fun failure => failure.endsRun = true)
      (context.node type) :=
  (lasts client demands watched).settledNode placed type

/-- The notes may be added to, as long as they are explained. -/
theorem addSeed (tracks : context.Tracks client demands watched state) {seed : Seed}
    {monitors : List NodeId} (explains : context.Explains demands monitors
      { state with seeds := state.seeds ++ [seed] }) :
    context.Tracks client demands monitors { state with seeds := state.seeds ++ [seed] } :=
  ⟨⟨tracks.1.1.congr rfl, explains⟩, (Settled.robust placed).seeds state _ tracks.2⟩

end

end Context.Tracks

namespace Context

variable {demands : List Demand} {watched : List NodeId}

/-! ## Responses -/

/-- That a type is returned endures. -/
theorem returns_enduring (type : NodeId) : Enduring (·.Returns type) :=
  fun _ _ returns accrued => returns.mono accrued.toGrown accrued.seeds.subset

/-- All that successes carry is noted to be handed back. -/
theorem returned_enduring (responses : ResponseMap) :
    Enduring fun state => ∀ type ∈ payloads responses, state.Returns type :=
  -- Each of the types is returned by itself.
  fun before after returns accrued type carried =>
    returns_enduring type before after (returns type carried) accrued

/-- The type of a response is one that methods return. -/
theorem response_returns (declared : ResponseDecl) :
    Yields (context.response access declared) fun response state =>
      ∀ type ∈ response.type, state.Returns type := by
  unfold response
  refine .after fun headers => ?_
  -- A response without payload has no type; otherwise its node is found and noted for output.
  dsimp only
  cases context.payload? declared with
  | none => exact .pure fun _ _ none => nomatch none
  | some body =>
    refine Ensures.bind (nodeWithin_finds _ body.type) fun type => ?_
    refine Ensures.via (fun _ state => state.Returns type) (Ensures.modify fun state known => ?_)
      fun _ => .pure fun state returns other same => ?_
    · refine ⟨⟨_, known⟩, _, List.mem_append_right _ (List.mem_singleton_self _), rfl,
        fun way output => ?_⟩
      rw [Usage.has_union, Usage.has_union]
      exact Or.inl (Or.inl output)
    · cases same
      exact returns

/-- A response that is added to the outcomes leaves all their types returned. -/
theorem addResponse_returns (outcomes : Outcomes) (declared : ResponseDecl) :
    Ensures (fun state => ∀ type ∈ payloads outcomes.successes, state.Returns type)
      (context.addResponse operation access outcomes declared)
      (fun outcomes state => ∀ type ∈ payloads outcomes.successes, state.Returns type)
      fun _ _ => True := by
  unfold addResponse
  refine Ensures.bind ((response_returns declared).beside (returned_enduring outcomes.successes)
    fun start => (noting context start).response access declared) fun response => ?_
  dsimp only
  -- An error response is no success; a success is added unless its status is known.
  split
  · split
    · refine Ensures.via (fun _ state => ∀ type ∈ payloads outcomes.successes, state.Returns type)
        (Ensures.modify fun _ held => held.1) fun _ => .pure fun _ held => held
    · exact .pure fun _ held => held.1
  · split
    · exact .pure fun _ held => held.1
    · refine .pure fun state held type carried => ?_
      obtain ⟨other, listed, isType⟩ := List.mem_filterMap.mp carried
      rcases OrderedMap.mem_values_insert listed with rfl | earlier
      · exact held.2 type isType
      · exact held.1 type (List.mem_filterMap.mpr ⟨other, earlier, isType⟩)

/-- The types of all successes are ones that methods return. -/
theorem outcomes_return :
    Yields (context.outcomes operation access) fun outcomes state =>
      ∀ type ∈ payloads outcomes.successes, state.Returns type := by
  -- By induction on the responses that are declared.
  have all := Ensures.foldlM (fun (outcomes : Outcomes) state =>
      ∀ type ∈ payloads outcomes.successes, State.Returns state type)
    (context.definition.operationAt operation).responses
    (fun declared _ outcomes => @addResponse_returns context operation access outcomes declared) {}
  exact Ensures.starting all fun _ _ _ none => nomatch none

/-- The types of an operation's responses are ones that methods return. -/
theorem httpOperation_returns (parameters : List Property) :
    Yields (context.httpOperation operation client access parameters) fun result state =>
      ∀ type ∈ payloads result.1.responses, state.Returns type := by
  unfold httpOperation
  refine Ensures.bind outcomes_return fun outcomes => ?_
  -- Nothing that follows takes a note back.
  have lasts := returned_enduring outcomes.successes
  have steps (start : State) := accruing context client start
  -- The steps that follow, in their order.
  refine Keeps.told (lasts.keeps fun start => Keeps.filterMapM _ fun slot =>
    (steps start).slotParameter? .all operation access slot) fun wire => ?_
  refine Keeps.told (lasts.keeps fun start =>
    (steps start).body? .all operation access) fun body => ?_
  refine Keeps.told (lasts.keeps fun start =>
    (steps start).negotiateBody operation body wire parameters) fun sent => ?_
  refine Keeps.told (lasts.keeps fun start =>
    (steps start).negotiateResponses operation outcomes _ _) fun accepted => ?_
  refine Keeps.told (lasts.keeps fun start => (steps start).elevateAll _) fun _ => ?_
  refine Keeps.told (Keeps.mapM _ fun parameter =>
    Tolerant.all.searching.traceParameter operation client _ parameter) fun traced => ?_
  exact Keeps.told (Keeps.optionMapM _ fun parameter =>
    Tolerant.all.searching.traceParameter operation client _ parameter) fun _ =>
      .pure fun _ returned => returned

/-! ## Methods -/

/-- The union of successes is made up of types that are noted already. -/
theorem addResponseUnion_tracks (placed : context.definition.MembersPlaced)
    (variants : List NodeId) :
    Ensures (fun state => context.Tracks client demands watched state ∧
        ∀ type ∈ variants, state.Returns type)
      (context.addResponseUnion operation access variants)
      (fun _ => context.Tracks client demands watched) fun failure _ => failure.endsRun = true := by
  rintro state ⟨tracks, returns⟩
  have dotless : Text.Dotless
      (Text.pascalCase (context.definition.operationAt operation).name ++ "Response") :=
    (Text.dotless_pascalCase _).append (by decide)
  have pushed := (Tracks.steady placed).union state _ (context.definition.namespaceOf
    (context.definition.operationAt operation).container) variants dotless tracks
  refine pushed.addSeed placed (pushed.1.2.combine ?_)
  -- The union is the node that was added last.
  have last := state.catalogue.nodeAt_push_self (.madeUp (context.definition.namespaceOf
    (context.definition.operationAt operation).container) (state.names.claim
      (Text.pascalCase (context.definition.operationAt operation).name ++ "Response")).1 variants)
  exact ⟨rfl, congrArg Node.origin last, _, congrArg Node.kind last, returns⟩

/--
The response of a method is tracked: a union that is made up for it combines what is returned.
-/
theorem methodResponse_tracks (placed : context.definition.MembersPlaced)
    (responses : ResponseMap) :
    Ensures (fun state => context.Tracks client demands watched state ∧
        ∀ type ∈ payloads responses, state.Returns type)
      (context.methodResponse operation responses access)
      (fun _ => context.Tracks client demands watched) fun failure _ => failure.endsRun = true := by
  have steady := @Tracks.steady context client demands watched placed
  unfold methodResponse
  refine Ensures.via (fun _ => context.Tracks client demands watched) ?_ fun type => ?_
  · -- Only several types make a union; one or none is the type as it is.
    unfold successType?
    split
    · exact .pure fun _ held => held.1
    · exact .pure fun _ held => held.1
    · refine Ensures.map ((addResponseUnion_tracks placed _).starting fun state held =>
        ⟨held.1, fun type listed => held.2 type ?_⟩)
      exact ((successTypes_isFirstSeen responses).mem_iff type).mp listed
  · -- A type or null is added to the catalogue, but not noted.
    split
    · exact .pure fun _ held => held
    · refine Keeps.orEnds ((Keeps.nodeAt _).bind fun node => ?_)
      split
      · exact (steady.addNode rfl rfl).bind fun _ => .pure _
      · exact .pure _

/-- The search for a monitor adds it to what is watched. -/
theorem statusMonitor?_tracks (placed : context.definition.MembersPlaced)
    (polling : OperationId) :
    Ensures (context.Tracks client demands watched) (context.statusMonitor? polling access)
      (fun found => context.Tracks client demands (watched ++ found.toList.map StatusMonitor.type))
      fun failure _ => failure.endsRun = true := by
  unfold statusMonitor?
  dsimp only
  refine Ensures.via (fun _ => context.Tracks client demands watched)
    (Ensures.answerOf (fun _ _ _ held => held) fun _ _ _ _ => rfl) fun found => ?_
  -- Once it is found, its type is derived and noted; its properties note nothing.
  split
  · exact .pure fun _ held => by simpa using held
  · refine Ensures.bind (Tracks.node placed _).orEnds fun type => ?_
    refine Ensures.via (fun _ => context.Tracks client demands (watched ++ [type]))
      (Ensures.modify fun state held => held.addSeed placed (held.1.2.watch type access))
      fun _ => ?_
    have property (id : PropertyId) : Keeps (context.Tracks client demands (watched ++ [type]))
        (fun failure => failure.endsRun = true) (context.monitorProperty id) :=
      (Tracks.node placed _).bind fun _ => .pure _
    refine Ensures.bind (property _).orEnds fun status => ?_
    refine Ensures.bind (Keeps.optionMapM _ property).orEnds fun success => ?_
    exact Ensures.bind (Keeps.optionMapM _ property).orEnds fun error => .pure fun _ held => held

/-- What is declared to poll adds the monitor of its link to what is watched. -/
theorem polling?_tracks (placed : context.definition.MembersPlaced)
    (declared : Service.PollingDecl) (response : MethodResponse) :
    Ensures (context.Tracks client demands watched)
      (context.polling? operation declared access response)
      (fun found => context.Tracks client demands
        (watched ++ found.toList.map (·.monitor.type)))
      fun failure _ => failure.endsRun = true := by
  have steady (monitors : List NodeId) := @Tracks.steady context client demands monitors placed
  unfold polling? link?
  refine Ensures.via (fun link => context.Tracks client demands (watched ++ linkTypes link)) ?_
    fun link => ?_
  · -- The link map comes first; without it there is no link, and with it the monitor is looked for.
    refine Ensures.bind ((steady watched).linkMap? operation declared).orEnds fun parameters => ?_
    split
    · exact .pure fun _ held => by simpa [linkTypes] using held
    · exact Ensures.bind (statusMonitor?_tracks placed _) fun monitor => .pure fun _ held => held
  split
  · exact .pure fun _ held => by simpa [linkTypes] using held
  · -- There is a link; it adds a monitor to what is watched if it has one.
    rename_i link
    split
    · rename_i isMonitor
      refine Ensures.bind ((steady _).reportWarning _ (by decide) _).orEnds fun _ => ?_
      exact .pure fun _ held => by simpa [linkTypes, isMonitor] using held
    · rename_i monitor isMonitor
      exact .pure fun _ held => by simpa [linkTypes, isMonitor] using held

/-- The status monitor of a method, if it is followed. -/
def monitorOf (method : Method) : List NodeId :=
  method.kind.polling?.toList.map (·.monitor.type)

/--
A method notes what is demanded, the union of its successes and its monitor.

If it fails for a reason of its own, what is demanded is noted all the same.
-/
theorem buildMethod_tracks (placed : context.definition.MembersPlaced) :
    Ensures (context.Tracks client demands watched) (context.buildMethod operation client)
      (fun method => context.Tracks client (demands ++ context.demands operation client)
        (watched ++ monitorOf method))
      fun failure state => failure.endsRun = false →
        context.Tracks client (demands ++ context.demands operation client) watched state := by
  intro start tracks
  suffices ends : Ensures (fun state => context.HasNoted client start [] state)
      (context.buildMethod operation client)
      (fun method => context.Tracks client (demands ++ context.demands operation client)
        (watched ++ monitorOf method))
      fun failure state => failure.endsRun = false →
        context.Tracks client (demands ++ context.demands operation client) watched state from
    ends start tracks.begins
  unfold buildMethod
  dsimp only
  refine Ensures.bind ((Notes.filterMapM (Notes.methodParameter? placed) _ start []).weaken
    (fun _ held => held) (fun _ _ held => held) fun _ _ fails isOwn => (fails isOwn).1.elim)
    fun parameters => ?_
  -- The demands of an operation come in the order in which they are noted.
  have whole : [] ++ (context.definition.operationAt operation).parameters.filterMap
      (context.parameterDemand? client) ++
        ((context.definition.operationAt operation).responses.flatMap context.responseDemands ++
          context.requestDemands operation) = context.demands operation client := by
    rw [List.nil_append, Context.demands, List.append_assoc]
  refine Ensures.bind (((Notes.httpOperation placed parameters start _).both
    (httpOperation_returns parameters)).weaken (fun _ held => ⟨held, trivial⟩)
    (fun _ _ ends => ends) fun _ _ fails isOwn => ?_) fun http => ?_
  · exact whole ▸ tracks.told (fails.1 isOwn).2
  -- From here on, only the union and the monitor are left to note.
  refine Ensures.bind ((methodResponse_tracks placed http.1.responses).weaken
    (fun state held => ⟨whole ▸ tracks.told held.1, held.2⟩) (fun _ _ held => held)
    fun _ _ ends isOwn => ?_) fun response => Ensures.look fun current => ?_
  · rw [ends] at isOwn
    cases isOwn
  split
  · refine Ensures.bind ((polling?_tracks placed _ _).weaken (fun _ held => held)
      (fun _ _ held => held) fun _ _ ends isOwn => ?_) fun progress => .pure fun _ held => ?_
    · -- A polling that failed ends the run, so that there is nothing to tell of it.
      rw [ends] at isOwn
      cases isOwn
    · rwa [monitorOf, polling?_methodKind]
  · refine Ensures.via (fun progress state => progress = none ∧ context.Tracks client
      (demands ++ context.demands operation client) watched state)
      (.pure fun _ held => ⟨rfl, held⟩) fun progress => .pure fun _ held => ?_
    rw [monitorOf, polling?_methodKind, held.1]
    simpa using held.2

end Context

end ClientModel.Derivation
