import ClientModel.Proofs.Counterparts
import ClientModel.Proofs.DeclaredTypes
import ClientModel.Proofs.Formats

/-!
What a method notes to be used.

The declaration of an operation tells which types are to be used, in which ways, and in which order.
A method notes just these, whether it is derived in the end or fails for a reason of its own; what
it notes besides is the union of its successes and its status monitor.
-/

namespace ClientModel.Derivation

open Service (ResponseDecl WireSlot)

variable {α β : Type} {context : Context} {client : ContainerId} {operation : OperationId}
  {allowed : Failure → Prop} {start state before after : State}

/-- A type that is to be used in some way. -/
structure Demand where
  type : TypeId
  usage : Usage
  deriving DecidableEq

namespace Context

variable (context)

/-! ## Demands -/

/-- The names of the parameters that were chosen for the client of a container, below some root. -/
def chosenNames (container : ContainerId) : List String :=
  if (context.nearestRoot? container).isSome then
    (context.chosenFor container).map fun id => (context.definition.propertyAt id).name
  else []

/-- A parameter of the name was chosen for a client of the run around a container. -/
def isChosenAround (client : ContainerId) (name : String) : Bool :=
  (context.definition.enclosing client).any fun container =>
    (context.chosenNames container).contains name

/-- What a parameter of a method demands: nothing if it carries no value, or clients have it. -/
def parameterDemand? (client : ContainerId) (id : PropertyId) : Option Demand :=
  let declared := context.definition.propertyAt id
  if context.definition.isVoidLike declared.type || context.isForClient client declared.name ||
    context.isChosenAround client declared.name then none
  else some { type := declared.type, usage := .input }

/-- What a header of a response demands. -/
def headerDemand? (id : PropertyId) : Option Demand :=
  let type := (context.definition.propertyAt id).type
  if context.definition.isVoidLike type then none else some { type, usage := .output }

/-- What the body of a response demands. -/
def payloadDemand? (response : ResponseDecl) : Option Demand :=
  (context.payload? response).map fun body =>
    { type := body.type
      usage := .output ||| ContentType.usages (ContentType.orJson body.contentTypes) |||
        if context.isErrorResponse response then .exception else .none }

/-- What a response demands. -/
def responseDemands (response : ResponseDecl) : List Demand :=
  response.headers.filterMap context.headerDemand? ++ (context.payloadDemand? response).toList

/-- The place of a parameter in a request is known, or it carries no value. -/
def isPlaced (slot : WireSlot) : Bool :=
  let declared := context.definition.propertyAt slot.property
  context.definition.isVoidLike declared.type ||
    (slot.location.or (declared.binding.bind (·.location?))).any (· != .body)

/-- What a parameter of a request demands. -/
def slotDemand? (slot : WireSlot) : Option Demand :=
  let type := (context.definition.propertyAt slot.property).type
  if context.definition.isVoidLike type then none else some { type, usage := .input }

/-- What the body of a request demands; only a body without a name may be spread. -/
def bodyDemand? (operation : OperationId) : Option Demand :=
  let definition := context.definition
  match (definition.operationAt operation).bodies with
  | [] => none
  | first :: others =>
    let payload := definition.payloadType first.type
    let isGenerated := (definition.model? payload).any (·.name.isNone)
    if others.any (fun other => definition.payloadType other.type != payload) ||
      definition.isVoidLike first.type then none
    else some
      { type := first.type
        usage := .input ||| ContentType.usages (definition.contentTypesOf operation) |||
          if first.spread && isGenerated then .spread else .none }

/-- What the parameters and the body of a request demand, up to one whose place is not known. -/
def requestDemands (operation : OperationId) : List Demand :=
  let slots := (context.definition.operationAt operation).slots
  (slots.takeWhile context.isPlaced).filterMap context.slotDemand? ++
    if slots.all context.isPlaced then (context.bodyDemand? operation).toList else []

/-- What an operation demands of the types that it is declared with. -/
def demands (operation : OperationId) (client : ContainerId) : List Demand :=
  let declared := context.definition.operationAt operation
  declared.parameters.filterMap (context.parameterDemand? client) ++
    declared.responses.flatMap context.responseDemands ++ context.requestDemands operation

/-! ## Notes -/

/-- Of some parameters, those that are given to a client have a name for it. -/
def Gives (client : ContainerId) (parameters : List Property) : Prop :=
  ∀ parameter ∈ parameters, parameter.onClient = true →
    context.isForClient client parameter.name = true

/-- A seed notes what is demanded: the type is to be used that way. -/
structure Meets (state : State) (demand : Demand) (seed : Seed) : Prop where
  usage : seed.usage = demand.usage
  stands : context.Stands state demand.type seed.type

/-- In scope of a client are the names that were chosen, besides some that are for the client. -/
def KnowsScope (client : ContainerId) (state : State) : Prop :=
  ∀ name, context.isForClient client name = false →
    ((state.scopeOf context client).any fun other => other.name == name) =
      context.isChosenAround client name

/-- Since a state, just what is demanded was noted, in order. -/
structure Told (client : ContainerId) (start : State) (demands : List Demand) (state : State) :
    Prop where
  grown : Grown start state
  scope : context.KnowsScope client state
  seeds : ∃ new, state.seeds = start.seeds ++ new ∧ List.Forall₂ (context.Meets state) demands new

/-- Since a state, just what is demanded was noted, and all nodes are settled. -/
def HasNoted (client : ContainerId) (start : State) (demands : List Demand) (state : State) :
    Prop :=
  context.Told client start demands state ∧ context.Settled (fun _ => False) state

end Context

/-! ## Steps that note nothing -/

/-- Nothing known is lost, nothing is noted to be used, and no client takes anything. -/
def KeepsUses (before after : State) : Prop :=
  Grown before after ∧ after.seeds = before.seeds ∧
    after.clientParameters = before.clientParameters

namespace KeepsUses

instance : Std.Refl KeepsUses := ⟨fun state => ⟨.refl state, rfl, rfl⟩⟩

/-- Nodes, names and reports may be added without any use being noted. -/
theorem frame (start : State) :
    Frame start.catalogue.size (KeepsUses start) fun failure => failure.endsRun = true :=
  (Grown.frame start fun _ => rfl).beside fun _ _ _ _ _ _ same => same

end KeepsUses

/-- Two facts that a step keeps it keeps together. -/
theorem Keeps.and {left right : State → Prop} {step : Derive α} (first : Keeps left allowed step)
    (second : Keeps right (fun _ => True) step) :
    Keeps (fun state => left state ∧ right state) allowed step :=
  -- Both are told of the same end, and of the same failure if there is one.
  (first.both second).weaken (fun _ start => start) (fun _ _ ends => ends)
    fun _ _ fails => ⟨fails.1.1, fun isOwn => ⟨fails.1.2 isOwn, fails.2.2 isOwn⟩⟩

/-- Two steady facts are steady together. -/
theorem Steady.and {left right : State → Prop} (first : Steady left allowed)
    (second : Steady right fun _ => True) :
    Steady (fun state => left state ∧ right state) allowed where
  -- Each change keeps both, as it keeps either of them.
  builtinNode kind name := (first.builtinNode kind name).and (second.builtinNode kind name)
  loose state node bare nameless held :=
    ⟨first.loose state node bare nameless held.1, second.loose state node bare nameless held.2⟩
  claimed state candidate held :=
    ⟨first.claimed state candidate held.1, second.claimed state candidate held.2⟩
  union state candidate «namespace» variants dotless held :=
    ⟨first.union state candidate «namespace» variants dotless held.1,
      second.union state candidate «namespace» variants dotless held.2⟩
  diagnostics state report early held :=
    ⟨first.diagnostics state report early held.1, second.diagnostics state report early held.2⟩

section

variable {demands done : List Demand}

/-- A seed that meets a demand goes on meeting it. -/
theorem Context.Meets.grown {demand : Demand} {seed : Seed}
    (meets : context.Meets before demand seed) (grown : Grown before after) :
    context.Meets after demand seed :=
  ⟨meets.usage, context.stands_lasting _ _ before after meets.stands grown⟩

/-- What is known of the scope depends on nothing but the parameters of clients. -/
theorem Context.KnowsScope.congr (scope : context.KnowsScope client before)
    (same : after.clientParameters = before.clientParameters) :
    context.KnowsScope client after := by
  -- The scope is read from those parameters and nothing else of the state.
  intro name own
  rw [← scope name own, State.scopeOf, State.parametersInScope, same, State.scopeOf,
    State.parametersInScope]

/-- What is looked for in scope of a client is found just if it was chosen. -/
theorem Context.KnowsScope.bind {before : State → Prop} {after : α → State → Prop}
    {failed : Failure → State → Prop} {next : List Property → Derive α}
    (knows : ∀ state, before state → context.KnowsScope client state)
    (rest : ∀ scope : List Property, (∀ name, context.isForClient client name = false →
      (scope.any fun other => other.name == name) = context.isChosenAround client name) →
        Ensures before (next scope) after failed) :
    Ensures before (context.parametersInScope client >>= next) after failed := by
  intro state start
  -- The search for what is in scope is a look at the state, which it leaves alone.
  have looked : context.parametersInScope client state =
      (.ok (state.scopeOf context client), state) := rfl
  rw [bind_ok looked]
  exact rest _ (knows state start) state start

/-- What is given to a client makes no difference to any other name. -/
theorem Context.KnowsScope.takes (scope : context.KnowsScope client state) (parameter : Property)
    (isFor : context.isForClient client parameter.name = true) :
    context.KnowsScope client { state with
      clientParameters :=
        state.clientParameters.alter client fun before => before.getD [] ++ [parameter] } := by
  intro name own
  -- The parameter is for the client and the name is not, so they differ.
  have apart : parameter.name ≠ name := by
    rintro rfl
    rw [isFor] at own
    cases own
  -- It is seen in one place of the scope only, the client's own, where it comes last.
  rw [← scope name own, State.scopeOf, State.parametersInScope, State.scopeOf,
    State.parametersInScope, List.any_flatMap, List.any_flatMap]
  congr 1
  funext container
  have taken := State.takenBy_alter state client container parameter
  rw [State.takenBy, State.takenBy, State.takenBy] at taken
  rw [taken]
  split
  · rename_i same
    subst same
    simp [apart]
  · rfl

/-- What was told of a run lasts as long as no use is noted. -/
theorem Context.Told.lasts (start : State) (demands : List Demand) :
    LastsAlong KeepsUses (context.Told client start demands) := by
  -- The seeds are those of before, and what meets a demand meets it in a larger catalogue too.
  rintro before after ⟨had, scope, new, seeds, meets⟩ ⟨grown, same, parameters⟩
  exact ⟨had.trans grown, scope.congr parameters, new, same.trans seeds,
    meets.imp fun _ _ met => met.grown grown⟩

section

variable {told : State → Prop} (lasts : LastsAlong KeepsUses told)
  (placed : context.definition.MembersPlaced)
include lasts placed

/-- What lasts while no use is noted is steady beside what is settled. -/
theorem LastsAlong.settledSteady :
    Steady (fun state => told state ∧ context.Settled (fun _ => False) state)
      fun failure => failure.endsRun = true :=
  -- Each of the two is steady by itself: the one since no use is noted, the other since the
  -- definition is regular.
  (lasts.steady fun start => (KeepsUses.frame start).steady).and
    (Context.Settled.robust placed).toSteady

/-- To derive a node keeps both of them. -/
theorem LastsAlong.settledNode (type : TypeId) :
    Keeps (fun state => told state ∧ context.Settled (fun _ => False) state)
      (fun failure => failure.endsRun = true) (context.node type) :=
  (lasts.keeps fun start => (KeepsUses.frame start).node type).and
    ((Context.Settled.robust placed).node type)

end

namespace Context.HasNoted

/-- What was noted is steady. -/
theorem steady (placed : context.definition.MembersPlaced) (start : State)
    (demands : List Demand) : Steady (context.HasNoted client start demands)
      fun failure => failure.endsRun = true :=
  (Told.lasts start demands).settledSteady placed

/-- Deriving a node notes nothing, and comes back with the one that stands for the type. -/
theorem node (placed : context.definition.MembersPlaced) (start : State) (demands : List Demand)
    (type : TypeId) {fails : Failure → State → Prop} :
    Ensures (context.HasNoted client start demands) (context.node type)
      (fun node state => context.HasNoted client start demands state ∧
        context.Stands state type node)
      fun failure state => failure.endsRun = false → fails failure state := by
  -- That a node notes nothing and that it finds the right one are two facts of one run.
  have keeps := (@Told.lasts context client start demands).settledNode placed type
  refine (keeps.both (nodeWithin_finds _ type)).weaken (fun _ held => ⟨held, trivial⟩)
    (fun _ _ ends => ends) fun _ _ failed isOwn => ?_
  rw [failed.1.1] at isOwn
  cases isOwn

/-- A client may take what is given to it. -/
theorem takes (placed : context.definition.MembersPlaced) {start : State} {demands : List Demand}
    (held : context.HasNoted client start demands state) (parameter : Property)
    (isFor : context.isForClient client parameter.name = true) :
    context.HasNoted client start demands { state with
      clientParameters :=
        state.clientParameters.alter client fun before => before.getD [] ++ [parameter] } := by
  -- The parameter is for this client, so what was known of its scope tells of the new scope as
  -- well.
  obtain ⟨⟨grown, scope, new, seeds, meets⟩, settled⟩ := held
  exact ⟨⟨grown.takes client parameter, scope.takes parameter isFor, new, seeds,
    meets.imp fun _ _ met => met.grown ((Grown.refl state).takes client parameter)⟩,
    (Settled.robust placed).clientParameter state client parameter settled⟩

/-- A seed of a node that stands for a type meets what is demanded of the type. -/
theorem addSeed (start : State) (demands : List Demand) (demand : Demand) {type : NodeId}
    (access : Access) {fails : Failure → State → Prop} :
    Ensures (fun state => context.HasNoted client start demands state ∧
        context.Stands state demand.type type) (Derivation.addSeed type demand.usage access)
      (fun _ => context.HasNoted client start (demands ++ [demand])) fails := by
  refine Ensures.modify ?_
  rintro state ⟨⟨⟨had, scope, new, seeds, meets⟩, settled⟩, stands⟩
  -- The seed comes after all others, so it meets the demand that comes last.
  have grown : Grown state { state with
      seeds := state.seeds ++ [{ type, usage := demand.usage, access }] } :=
    (Grown.refl state).noted _ _ _ _
  refine ⟨⟨had.trans grown, scope.congr rfl, new ++ [{ type, usage := demand.usage, access }], ?_,
    ?_⟩, settled.noted grown rfl rfl rfl⟩
  · rw [seeds, List.append_assoc]
  · exact List.rel_append (meets.imp fun _ _ met => met.grown grown) (.cons ⟨rfl, stands⟩ .nil)

/-- To elevate a parameter that is for the client notes nothing. -/
theorem elevate (placed : context.definition.MembersPlaced) (start : State) (demands : List Demand)
    {parameter : Property} (isFor : context.isForClient client parameter.name = true) :
    Keeps (context.HasNoted client start demands) allowed (context.elevate client parameter) := by
  unfold Context.elevate
  refine (Keeps.parametersInScope context client).bind fun scope => ?_
  dsimp only
  -- Either the client has it already, or it is put beside those that it has.
  split
  · exact .pure _
  · exact .modify fun state held => held.takes placed _ isFor

/-- Of a request, only what is given to the client is elevated. -/
theorem elevateAll (placed : context.definition.MembersPlaced) (start : State)
    (demands : List Demand) {wire : List Property} (gives : context.Gives client wire) :
    Keeps (context.HasNoted client start demands) allowed (context.elevateAll client wire) := by
  unfold Context.elevateAll
  -- One by one, for those parameters of the request that are on the client.
  refine Keeps.bind (Ensures.forIn _ (fun parameter listed _ => ?_) _) fun _ => .pure _
  obtain ⟨inWire, onClient⟩ := List.mem_filter.mp listed
  refine Keeps.bind (elevate placed start demands ?_) fun _ => .pure _
  exact gives parameter inWire onClient

end Context.HasNoted

/-! ## Steps that note what is demanded -/

/--
A step notes what is demanded, whatever was noted before it.

It does so even if it fails for a reason of its own, which it only may under some condition.
-/
def Context.Notes (context : Context) (client : ContainerId) (spoils : Prop)
    (demands : List Demand) (step : Derive α) : Prop :=
  ∀ start done, Ensures (context.HasNoted client start done) step
    (fun _ => context.HasNoted client start (done ++ demands)) fun failure state =>
      failure.endsRun = false → spoils ∧ context.HasNoted client start (done ++ demands) state

namespace Context.Notes

variable {spoils other : Prop} {more : List Demand}

/-- A step that keeps what was noted, whatever that is, notes nothing itself. -/
theorem of_keeps {step : Derive α} (keeps : ∀ start done,
    Keeps (context.HasNoted client start done)
      (fun failure => failure.endsRun = true ∨ spoils) step) :
    context.Notes client spoils [] step := by
  intro start done
  -- A failure that does not end the run is one that may spoil it, and leaves all as noted.
  rw [List.append_nil]
  refine (keeps start done).weaken (fun _ held => held) (fun _ _ held => held) ?_
  rintro failure state ⟨ends | spoilt, held⟩ isOwn
  · rw [ends] at isOwn
    cases isOwn
  · exact ⟨spoilt, held isOwn⟩

/-- A step that notes nothing, and only fails if the run ends. -/
theorem silent {step : Derive α} (keeps : ∀ start done,
    Keeps (context.HasNoted client start done) (fun failure => failure.endsRun = true) step) :
    context.Notes client False [] step :=
  -- Nothing was noted before the failure, so the demands that were met are still the ones to answer
  -- for.
  of_keeps fun start done => (keeps start done).weaken (fun _ held => held) (fun _ _ held => held)
    fun _ _ fails => ⟨Or.inl fails.1, fails.2⟩

/-- To return a value notes nothing. -/
theorem pure (value : α) : context.Notes client spoils [] (pure value) :=
  of_keeps fun _ _ => .pure value

/-- What notes some demands may be said to be spoilt by more. -/
theorem weaken {step : Derive α} (notes : context.Notes client spoils demands step)
    (includes : spoils → other) : context.Notes client other demands step :=
  -- Only the reason for a failure is told more loosely.
  fun start done => (notes start done).weaken (fun _ held => held) (fun _ _ held => held)
    fun _ _ fails isOwn => (fails isOwn).imp_left includes

/-- What is told of a value may be used for what follows; after a failure nothing is demanded. -/
theorem bind_told {step : Derive α} {next : α → Derive β} {told : α → Prop}
    (first : context.Notes client spoils demands step)
    (tells : Yields step fun value _ => told value)
    (rest : ∀ value, told value → context.Notes client other more (next value))
    (includes : spoils → other) (nothing : spoils → more = []) :
    context.Notes client other (demands ++ more) (step >>= next) := by
  intro start done
  rw [← List.append_assoc]
  -- A failure of the first step is one of both, and then nothing more is demanded.
  refine Ensures.bind (((first start done).both tells).weaken (fun _ held => ⟨held, trivial⟩)
    (fun _ _ ends => ends) ?_) fun value => Ensures.given fun holds => rest value holds start _
  intro failure state fails isOwn
  obtain ⟨spoilt, held⟩ := fails.1 isOwn
  rw [nothing spoilt, List.append_nil]
  exact ⟨includes spoilt, held⟩

/-- Two steps note what either of them does. -/
theorem bind {step : Derive α} {next : α → Derive β}
    (first : context.Notes client spoils demands step)
    (rest : ∀ value, context.Notes client other more (next value)) (includes : spoils → other)
    (nothing : spoils → more = []) :
    context.Notes client other (demands ++ more) (step >>= next) := by
  -- Nothing need be known of the value that the first step hands over.
  have tells : Yields step fun _ _ => True :=
    Ensures.intro (fun _ _ _ _ _ => trivial) fun _ _ _ _ _ => trivial
  exact first.bind_told tells (fun value _ => rest value) includes nothing

/-- Of a step that does not fail by itself, what follows is known to be reached. -/
theorem followed {step : Derive α} {next : α → Derive β}
    (first : context.Notes client False demands step)
    (rest : ∀ value, context.Notes client other more (next value)) :
    context.Notes client other (demands ++ more) (step >>= next) :=
  first.bind rest False.elim False.elim

/-- Over a list, what is noted is what is demanded of each entry, in order. -/
theorem filterMapM {step : β → Derive (Option α)} {demand? : β → Option Demand}
    (each : ∀ entry, context.Notes client False (demand? entry).toList (step entry))
    (list : List β) :
    context.Notes client False (list.filterMap demand?) (list.filterMapM step) := by
  -- Along the list; an entry of which nothing is demanded notes nothing.
  induction list with
  | nil =>
    rw [List.filterMapM_nil]
    exact .pure _
  | cons entry rest ih =>
    have split : (entry :: rest).filterMap demand? =
        (demand? entry).toList ++ (rest.filterMap demand? ++ []) := by
      cases found : demand? entry <;> simp [found]
    rw [List.filterMapM_cons, split]
    refine (each entry).followed fun value => ?_
    cases value with
    | none => simpa using ih
    | some value => exact ih.followed fun values => .pure _

/-- So it is with a fold. -/
theorem foldlM {step : α → β → Derive α} {demands : β → List Demand}
    (each : ∀ found entry, context.Notes client False (demands entry) (step found entry))
    (list : List β) (found : α) :
    context.Notes client False (list.flatMap demands) (list.foldlM step found) := by
  -- Along the list, with whatever was found up to the entry.
  induction list generalizing found with
  | nil =>
    rw [List.foldlM_nil]
    exact .pure _
  | cons entry rest ih =>
    rw [List.foldlM_cons, List.flatMap_cons]
    exact (each found entry).followed fun next => ih next

/-- A type whose node was just derived is noted to be used, and then what follows notes. -/
theorem derive_note (placed : context.definition.MembersPlaced) (demand : Demand) (access : Access)
    {next : NodeId → Derive α}
    (rest : ∀ type, context.Notes client spoils more (next type)) :
    context.Notes client spoils (demand :: more) (do
      let type ← context.node demand.type
      addSeed type demand.usage access
      next type) := by
  intro start done
  -- The node stands for the type, which is all that the seed needs to meet the demand.
  refine Ensures.bind (HasNoted.node placed start done demand.type) fun type => ?_
  have split : done ++ demand :: more = (done ++ [demand]) ++ more := by simp
  rw [split]
  exact Ensures.via (fun _ => context.HasNoted client start (done ++ [demand]))
    (HasNoted.addSeed start done demand access) fun _ => rest type start _

end Context.Notes

end

/-- A parameter that is made from a property has the type that was handed over. -/
@[simp] theorem Context.type_parameterOf (id : PropertyId) (type : NodeId) (role : Role)
    (ownerId : String) (client : ContainerId) :
    (context.parameterOf id type role ownerId client).type = type := by
  -- The facts of a client are put beside the type.
  unfold parameterOf
  rw [type_withClientFacts]

/-- A parameter that is made for a place is a body just if that is the place. -/
theorem Context.isBody_parameterOf (id : PropertyId) (type : NodeId) (location : Service.Location)
    (ownerId : String) (client : ContainerId) :
    (context.parameterOf id type (roleAt location) ownerId client).isBody =
      (location == .body) := by
  -- To be a body is told by the role, and the role by the place.
  unfold parameterOf
  rw [Property.isBody, role_withClientFacts]
  cases location <;> rfl

namespace Context

/-! ## Parameters of requests -/

/-- A slot has a parameter only if its place is known, and only one for the client is on it. -/
theorem slotParameter?_tells (operation : OperationId) (client : ContainerId) (access : Access)
    (slot : WireSlot) :
    Yields (context.slotParameter? operation client access slot) fun found _ =>
      context.isPlaced slot = true ∧ context.Gives client found.toList := by
  unfold slotParameter? isPlaced
  dsimp only
  -- A slot without a value is placed as it stands, and no parameter is made.
  split
  · rename_i empty
    exact .pure fun _ => ⟨by simp [empty], fun _ none => nomatch none⟩
  · unfold requestParameter
    dsimp only
    -- To be placed is to have a location other than the body, as the two guards check.
    split
    · exact Ensures.throw_bind fun _ _ => trivial
    · rename_i location isLocation
      simp only [bind_assoc, pure_bind]
      refine .after fun type => ?_
      split
      · exact Ensures.throw_bind fun _ _ => trivial
      · rename_i notBody
        rw [isBody_parameterOf] at notBody
        refine .after fun _ => .pure fun _ => ⟨by simpa [isLocation] using Or.inr notBody, ?_⟩
        intro parameter same onClient
        rw [Option.toList_some, List.mem_singleton] at same
        subst same
        rwa [onClient_parameterOf, ← name_parameterOf] at onClient

/-- The slots of a request are all placed, if they are turned into parameters at all. -/
theorem slots_tell (operation : OperationId) (client : ContainerId) (access : Access)
    (slots : List WireSlot) :
    Yields (slots.filterMapM (context.slotParameter? operation client access)) fun wire _ =>
      slots.all context.isPlaced = true ∧ context.Gives client wire := by
  -- Along the slots; a slot that fails ends the run of all.
  induction slots with
  | nil =>
    rw [List.filterMapM_nil]
    exact .pure fun _ => ⟨rfl, fun _ none => nomatch none⟩
  | cons slot rest ih =>
    rw [List.filterMapM_cons]
    refine .bind_told (slotParameter?_tells operation client access slot) fun found first => ?_
    rw [List.all_cons, first.1, Bool.true_and]
    cases found with
    | none => exact ih
    | some parameter =>
      refine .bind_told ih fun wire others => .pure fun _ => ⟨others.1, fun other listed => ?_⟩
      rcases List.mem_cons.mp listed with rfl | later
      · exact first.2 _ (by simp)
      · exact others.2 other later

/-- A header that is added is not given to the client. -/
theorem negotiate_gives (operation : OperationId) (client : ContainerId) (negotiation : Negotiation)
    (contentTypes : List String) (optional : Bool) (wire method : List Property) :
    Yields (context.negotiate operation negotiation contentTypes optional wire method)
      fun result _ => context.Gives client wire → context.Gives client result.1 := by
  unfold negotiate
  dsimp only
  -- Where a header is added, it comes last.
  split
  · exact .pure fun _ => id
  · refine .bind_told (negotiationHeader_onClient _ _ _ _) fun header own => .pure fun _ gives => ?_
    intro parameter listed onClient
    rcases List.mem_append.mp listed with sent | last
    · exact gives parameter sent onClient
    · rw [List.mem_singleton.mp last, own] at onClient
      cases onClient

/-- What is added for a body is not given to the client. -/
theorem negotiateBody_gives (operation : OperationId) (client : ContainerId)
    (body : Option Property) (wire method : List Property) :
    Yields (context.negotiateBody operation body wire method) fun result _ =>
      context.Gives client wire → context.Gives client result.1 := by
  -- Without a body there are no headers to be added.
  cases body with
  | none => exact .pure fun _ => id
  | some body => exact negotiate_gives _ _ _ _ _ _ _

/-- What is added for the responses is not given to the client. -/
theorem negotiateResponses_gives (operation : OperationId) (client : ContainerId)
    (outcomes : Outcomes) (wire method : List Property) :
    Yields (context.negotiateResponses operation outcomes wire method) fun result _ =>
      context.Gives client wire → context.Gives client result.1 := by
  -- Without content types there are no headers to be added.
  unfold negotiateResponses
  split
  · exact negotiate_gives _ _ _ _ _ _ _
  · exact .pure fun _ => id

end Context

/-- The parameter for a body has a place, so that nothing is wrong with it. -/
theorem Context.bodyParameter_keeps {told : State → Prop} (lasts : LastsAlong KeepsUses told)
    (placed : context.definition.MembersPlaced) (declared : Option PropertyId) (type : NodeId)
    (role : Role) :
    Keeps (fun state => told state ∧ context.Settled (fun _ => False) state)
      (fun failure => failure.endsRun = true)
      (context.bodyParameter operation client declared type role) := by
  -- A body without a name gets a parameter made anew, which derives no node at all.
  cases declared with
  | none => exact Keeps.unnamedBody context _ _ _ _
  | some property =>
    exact ((lasts.settledNode placed _).bind fun _ => .pure _).bind fun _ => .pure _

/-- The node of a model has a made-up name just if the model has none. -/
theorem Context.Settled.isGenerated_eq (settled : context.Settled (fun _ => False) state)
    {type : TypeId} {node : NodeId} (stands : context.Stands state type node) :
    ((state.catalogue.model? node).any (·.isGeneratedName)) =
      (context.definition.model? (context.definition.payloadType type)).any (·.name.isNone) := by
  -- Either both tell of a model, which mirrors its declaration, or neither does.
  rw [Catalogue.model?, Node.model?]
  cases isModel : context.definition.model? (context.definition.payloadType type) with
  | some declared =>
    obtain ⟨model, kind, mirrors⟩ := settled.model_of_known stands isModel
    have generated : model.isGeneratedName = declared.name.isNone := mirrors.generated
    simp [kind, generated]
  | none =>
    cases kind : (state.catalogue.nodeAt node).kind with
    | model model =>
      obtain ⟨declared, isDeclared, -⟩ := settled.mirrors_model stands kind
      rw [isModel] at isDeclared
      cases isDeclared
    | _ => rfl

/-- Where a node was settled, its model tells whether the declared one has a name. -/
theorem Context.modelAt?_generated (start : State) (demands : List Demand) {type : TypeId}
    (node : NodeId) {failed : Failure → State → Prop} :
    Ensures (fun state => (context.Told client start demands state ∧
        context.Stands state type node) ∧ context.Settled (fun _ => False) state) (modelAt? node)
      (fun model state => (context.HasNoted client start demands state ∧
        context.Stands state type node) ∧ model.any (·.isGeneratedName) =
          (context.definition.model? (context.definition.payloadType type)).any (·.name.isNone))
      failed := by
  -- Reading the catalogue changes nothing, and the node stands for the type as it did.
  refine Ensures.get_bind fun current held => .pure ?_
  rintro state rfl
  exact ⟨⟨⟨held.1.1, held.2⟩, held.1.2⟩, held.2.isGenerated_eq held.1.2⟩

namespace Context.Notes

variable {spoils : Prop} {access : Access}

/-! ## Parameters -/

/-- A node notes nothing. -/
theorem node (placed : context.definition.MembersPlaced) (type : TypeId) :
    context.Notes client False [] (context.node type) :=
  silent fun start done => (Told.lasts start done).settledNode placed type

/-- What is given to a client is not among the names that are left to methods. -/
theorem elevate (placed : context.definition.MembersPlaced) {parameter : Property}
    (isFor : context.isForClient client parameter.name = true) :
    context.Notes client False [] (context.elevate client parameter) :=
  silent fun start done => HasNoted.elevate placed start done isFor

/-- A parameter that is left to a method notes what is demanded of it. -/
theorem methodParameter? (placed : context.definition.MembersPlaced) (id : PropertyId) :
    context.Notes client False (context.parameterDemand? client id).toList
      (context.methodParameter? operation client access id) := by
  unfold Context.methodParameter? Context.parameterDemand?
  dsimp only
  generalize isName : (context.definition.propertyAt id).name = name
  by_cases empty : context.definition.isVoidLike (context.definition.propertyAt id).type = true
  · rw [if_pos empty, if_pos (by simp [empty])]
    exact .pure _
  rw [if_neg empty]
  by_cases isFor : context.isForClient client name = true
  -- The client takes it, if it has nothing of the kind already.
  · rw [if_pos (by simp [isFor])]
    refine (node placed _).followed fun type => ?_
    rw [if_pos (by rw [onClient_parameterOf, isName, isFor])]
    exact (elevate placed (by simpa [isName] using isFor)).followed fun _ => .pure _
  -- What is left is not for the client, so what is in scope was chosen by hand.
  have own : context.isForClient client name = false := by simpa using isFor
  intro start done
  refine Ensures.bind (HasNoted.node placed start done _) fun type => ?_
  rw [if_neg (by rw [onClient_parameterOf, isName, own]; exact Bool.false_ne_true)]
  refine KnowsScope.bind (fun _ held => held.1.1.scope) fun scope knows => ?_
  have known := knows name own
  simp only [name_parameterOf, isName, known]
  cases chosen : context.isChosenAround client name with
  | true =>
    rw [if_pos rfl, if_pos (by simp)]
    exact Ensures.pure fun _ held => by simpa using held.1
  | false =>
    rw [if_neg Bool.false_ne_true, if_neg (by simp [empty, own])]
    refine Ensures.via (fun _ => context.HasNoted client start (done ++ [_]))
      (HasNoted.addSeed start done { type := _, usage := .input } access) fun _ =>
        .pure fun _ held => held

/-! ## Responses -/

/-- The header of a response notes what is demanded of it. -/
theorem responseHeader? (placed : context.definition.MembersPlaced) (id : PropertyId) :
    context.Notes client False (context.headerDemand? id).toList
      (context.responseHeader? access id) := by
  unfold Context.responseHeader? Context.headerDemand?
  dsimp only
  -- A header of no value is left out in the derivation and in the demand alike.
  split
  · exact .pure _
  · exact derive_note placed _ access fun type => .pure _

/-- A response notes what is demanded of its headers and of its payload. -/
theorem response (placed : context.definition.MembersPlaced) (declared : ResponseDecl) :
    context.Notes client False (context.responseDemands declared)
      (context.response access declared) := by
  unfold Context.response Context.responseDemands Context.payloadDemand?
  -- The headers come first, and then the payload if there is one.
  refine (filterMapM (responseHeader? placed) _).followed fun headers => ?_
  dsimp only
  cases context.payload? declared with
  | none => exact .pure _
  | some body => exact derive_note placed _ access fun type => .pure _

/-- A response that is added to the outcomes notes what is demanded of it. -/
theorem addResponse (placed : context.definition.MembersPlaced) (outcomes : Outcomes)
    (declared : ResponseDecl) :
    context.Notes client False (context.responseDemands declared)
      (context.addResponse operation access outcomes declared) := by
  unfold Context.addResponse
  rw [← List.append_nil (context.responseDemands declared)]
  refine (response placed declared).followed fun response => ?_
  refine silent fun start done => ?_
  have steady := @HasNoted.steady context client placed start done
  dsimp only
  -- Whether the response is kept or not, nothing more is noted.
  split
  · split
    · exact (steady.reportWarning _ (by decide) _).bind fun _ => .pure _
    · exact .pure _
  · split
    · exact .pure _
    · exact .pure _

/-- The outcomes of an operation note what is demanded of all responses. -/
theorem outcomes (placed : context.definition.MembersPlaced) :
    context.Notes client False
      ((context.definition.operationAt operation).responses.flatMap context.responseDemands)
      (context.outcomes operation access) :=
  foldlM (addResponse placed) _ _

/-! ## Requests -/

/-- A slot with a place notes what is demanded of it. -/
theorem slotParameter? (placed : context.definition.MembersPlaced) {slot : WireSlot}
    (isPlaced : context.isPlaced slot = true) :
    context.Notes client False (context.slotDemand? slot).toList
      (context.slotParameter? operation client access slot) := by
  unfold Context.slotParameter? Context.slotDemand?
  unfold Context.isPlaced at isPlaced
  dsimp only at isPlaced ⊢
  split
  · exact .pure _
  · rename_i valued
    -- A slot that takes a value has a location, which is not the body.
    rw [Bool.or_eq_true, or_iff_right valued, Option.any_eq_true] at isPlaced
    obtain ⟨location, isLocation, notBody⟩ := isPlaced
    unfold Context.requestParameter
    simp only [Option.mem_def.mp isLocation, bind_assoc, pure_bind]
    intro start done
    refine Ensures.bind (HasNoted.node placed start done _) fun type => ?_
    rw [if_neg (by rw [isBody_parameterOf]; simpa using notBody), type_parameterOf]
    exact Ensures.via (fun _ => context.HasNoted client start (done ++ [_]))
      (HasNoted.addSeed start done { type := _, usage := .input } access) fun _ =>
        .pure fun _ held => held

/-- A parameter whose place is not known is a failure of the method. -/
theorem slotParameter?_of_not_isPlaced (placed : context.definition.MembersPlaced)
    {slot : WireSlot} (unplaced : context.isPlaced slot = false) :
    ∀ start done, Ensures (context.HasNoted client start done)
      (context.slotParameter? operation client access slot) (fun _ _ => False) fun failure state =>
        failure.endsRun = false → context.HasNoted client start done state := by
  unfold Context.isPlaced at unplaced
  rw [Bool.or_eq_false_iff] at unplaced
  obtain ⟨valued, nowhere⟩ := unplaced
  intro start done
  unfold Context.slotParameter?
  dsimp only
  rw [if_neg (by simp [valued])]
  unfold Context.requestParameter
  -- Either it has no location at all, or it is that of the body; both end it.
  dsimp only
  split
  · exact Ensures.throw_bind fun _ held _ => held
  · rename_i location isLocation
    simp only [bind_assoc, pure_bind]
    refine Ensures.bind (HasNoted.node placed start done _) fun type => ?_
    rw [if_pos (by rw [isBody_parameterOf]; simpa [isLocation] using nowhere)]
    exact Ensures.throw_bind fun _ held _ => held.1

/-- By induction on the parameters of a request: the first one without a known place ends it. -/
theorem slots (placed : context.definition.MembersPlaced) (slots : List WireSlot) :
    context.Notes client (¬ slots.all context.isPlaced = true)
      ((slots.takeWhile context.isPlaced).filterMap context.slotDemand?)
      (slots.filterMapM (context.slotParameter? operation client access)) := by
  induction slots with
  | nil =>
    rw [List.filterMapM_nil]
    exact .pure _
  -- Slots with a place are gone through one after the other, until one has none.
  | cons slot rest ih =>
    rw [List.filterMapM_cons, List.takeWhile_cons, List.all_cons]
    cases isPlaced : context.isPlaced slot with
    | true =>
      have split : (slot :: rest.takeWhile context.isPlaced).filterMap context.slotDemand? =
          (context.slotDemand? slot).toList ++
            ((rest.takeWhile context.isPlaced).filterMap context.slotDemand? ++ []) := by
        cases found : context.slotDemand? slot <;> simp [found]
      rw [if_pos rfl, Bool.true_and, split]
      refine (slotParameter? placed isPlaced).followed fun value => ?_
      cases value with
      | none => simpa using ih
      | some value =>
        exact ih.bind (fun values => (Notes.pure _).weaken False.elim) id fun _ => rfl
    | false =>
      -- A slot without a place ends the request, before the slots that come after it.
      intro start done
      rw [if_neg Bool.false_ne_true, List.filterMap_nil, List.append_nil]
      exact Ensures.via (fun _ _ => False)
        ((slotParameter?_of_not_isPlaced placed isPlaced start done).weaken (fun _ held => held)
          (fun _ _ never => never) fun _ _ fails isOwn => ⟨by simp, fails isOwn⟩)
        fun _ _ never => never.elim

/-- Deriving the body notes what is demanded of it, if the bodies are of one type. -/
theorem body? (placed : context.definition.MembersPlaced) :
    context.Notes client True (context.bodyDemand? operation).toList
      (context.body? operation client access) := by
  unfold Context.body? Context.bodyDemand? Service.Definition.contentTypesOf
  dsimp only
  cases (context.definition.operationAt operation).bodies with
  | nil => exact (Notes.pure _).weaken False.elim
  | cons first others =>
    dsimp only
    by_cases divergent : (others.any fun other => context.definition.payloadType other.type !=
        context.definition.payloadType first.type) = true
    · -- Bodies of different types end the request at once, so that nothing is demanded.
      rw [if_pos divergent, if_pos (by simp [divergent])]
      intro start done
      rw [Option.toList_none, List.append_nil]
      exact Ensures.throw_bind fun _ held _ => ⟨trivial, held⟩
    rw [if_neg divergent]
    -- Neither is anything of a body that is empty.
    by_cases empty : context.definition.isVoidLike first.type = true
    · rw [if_pos empty, if_pos (by simp [empty])]
      exact (Notes.pure _).weaken False.elim
    rw [if_neg empty, if_neg (by simpa [empty] using divergent)]
    intro start done
    refine Ensures.bind (HasNoted.node placed start done first.type) fun type => ?_
    -- The node still stands for the type when the parameter is there.
    have lasts : LastsAlong KeepsUses fun state => context.Told client start done state ∧
        context.Stands state first.type type := fun before after held led =>
      ⟨Told.lasts start done before after held.1 led,
        context.stands_lasting _ _ before after held.2 led.1⟩
    refine Ensures.bind ((bodyParameter_keeps lasts placed _ type _).weaken
      (fun state held => ⟨⟨held.1.1, held.2⟩, held.1.2⟩) (fun _ _ ends => ends)
      fun _ _ fails isOwn => ?_) fun body => ?_
    · rw [fails.1] at isOwn
      cases isOwn
    refine Ensures.bind (modelAt?_generated start done type) fun model =>
      Ensures.given fun same => ?_
    rw [same]
    refine Ensures.via (fun _ => context.HasNoted client start (done ++ [_]))
      (HasNoted.addSeed start done { type := first.type, usage := _ } access) fun _ => ?_
    -- The format in which it is sent is no seed.
    refine Ensures.via (fun _ => context.HasNoted client start (done ++ [_])) (Ensures.modify ?_)
      fun _ => .pure fun _ held => held
    exact fun state held => ⟨Told.lasts start _ state _ held.1
      ⟨(Grown.refl state).noted _ _ _ _, rfl, rfl⟩, (Settled.robust placed).bodyFormats _ _ held.2⟩

/-- Once there is a body, nothing more is noted, whatever a method may fail for. -/
theorem httpOperation (placed : context.definition.MembersPlaced) (parameters : List Property) :
    context.Notes client True
      ((context.definition.operationAt operation).responses.flatMap context.responseDemands ++
        context.requestDemands operation)
      (context.httpOperation operation client access parameters) := by
  unfold Context.httpOperation Context.requestDemands
  dsimp only
  -- The responses come first, then the slots of the request, and then its body.
  refine (outcomes placed).followed fun outcomes => ?_
  refine (slots placed _).bind_told (slots_tell operation client access _) (fun wire told => ?_)
    (fun _ => trivial) fun unplaced => if_neg unplaced
  obtain ⟨all, gives⟩ := told
  rw [if_pos all, ← List.append_nil (context.bodyDemand? operation).toList]
  refine (body? placed).bind (fun body => ?_) (fun _ => trivial) fun _ => rfl
  -- What follows adds parameters and looks for sources, neither of which is noted as a demand.
  refine of_keeps fun start done => ?_
  have steady : Steady (context.HasNoted client start done) fun failure =>
      failure.endsRun = true ∨ True := (HasNoted.steady placed start done).weaken fun _ => Or.inl
  have searching : Searching fun failure => failure.endsRun = true ∨ True :=
    fun _ _ => Or.inr trivial
  refine (steady.negotiateBody operation body wire parameters).bind_told
    (negotiateBody_gives operation client body wire parameters) fun sent onto => ?_
  refine (steady.negotiateResponses operation outcomes _ _).bind_told
    (negotiateResponses_gives operation client outcomes _ _) fun accepted along => ?_
  refine (HasNoted.elevateAll placed start done (along (onto gives))).bind fun _ => ?_
  refine (Keeps.mapM _ fun parameter =>
    searching.traceParameter operation client _ parameter).bind fun traced => ?_
  exact (Keeps.optionMapM _ fun parameter =>
    searching.traceParameter operation client _ parameter).bind fun _ => .pure _

end Context.Notes

end ClientModel.Derivation
