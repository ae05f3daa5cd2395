import ClientModel.Derivation.Basic
import ClientModel.Proofs.ClientTree
import ClientModel.Proofs.Names
import ClientModel.Proofs.Steps

/-!
What a whole run keeps.

Beside the nodes of declarations, a run only makes nodes that no declaration has and takes notes.
What these leave alone, and what every node keeps, holds from the start of a run to its end.
-/

namespace ClientModel.Derivation

open Service (BodyDecl Directive PollingDecl ResponseDecl Server WireSlot)

variable {α β : Type}

/-- A step keeps what held before it; only a failure that ends the run may break it. -/
def Keeps (kept : State → Prop) (allowed : Failure → Prop) (step : Derive α) : Prop :=
  Ensures kept step (fun _ => kept)
    (fun failure state => allowed failure ∧ (failure.endsRun = false → kept state))

variable {kept : State → Prop} {allowed : Failure → Prop}

namespace Keeps

/-- A value at hand keeps everything. -/
theorem pure (value : α) : Keeps kept allowed (pure value) :=
  Ensures.pure fun _ => id

/-- Steps that keep something keep it one after the other. -/
theorem bind {step : Derive α} {next : α → Derive β} (first : Keeps kept allowed step)
    (rest : ∀ value, Keeps kept allowed (next value)) : Keeps kept allowed (step >>= next) :=
  Ensures.bind first rest

/-- What a step keeps is there for the next one, if failures are not to be told apart. -/
theorem told {step : Derive α} {next : α → Derive β} {after : β → State → Prop}
    (first : Keeps kept allowed step)
    (rest : ∀ value, Ensures kept (next value) after fun _ _ => True) :
    Ensures kept (step >>= next) after fun _ _ => True :=
  -- Nothing is told of failures, so whichever failure there is may be forgotten.
  Ensures.bind
    (first.weaken (fun _ start => start) (fun _ _ ends => ends) fun _ _ _ => trivial) rest

/-- A mapped step keeps what the step keeps. -/
theorem map {step : Derive α} {f : α → β} (holds : Keeps kept allowed step) :
    Keeps kept allowed (f <$> step) :=
  Ensures.map holds

/-- To look at the state first is to know what it is. -/
theorem get_bind {next : State → Derive α} (rest : ∀ current, Keeps kept allowed (next current)) :
    Keeps kept allowed (get >>= next) := by
  -- The state that was read is the one in which the rest starts.
  refine Ensures.get_bind fun current start =>
    (rest current).weaken ?_ (fun _ _ => id) fun _ _ => id
  rintro state rfl
  exact start

/-- A search changes nothing, and fails only where it does not end. -/
theorem answerOf {endless : TypeId → Violation} (search : Except TypeId α)
    (fault : ∀ type, search = .error type → allowed (.violation (endless type))) :
    Keeps kept allowed (answerOf endless search) :=
  -- The search is no step of the run: it answers or it does not, and the state stays.
  Ensures.answerOf (fun _ _ _ start => start) fun type _ isError start =>
    ⟨fault type isError, fun _ => start⟩

/-- To look at a node keeps everything. -/
theorem nodeAt (id : NodeId) : Keeps kept allowed (nodeAt id) :=
  .get_bind fun _ => .pure _

/-- To look at a model keeps everything. -/
theorem modelAt? (id : NodeId) : Keeps kept allowed (modelAt? id) :=
  .get_bind fun _ => .pure _

/-- To look at what is in scope keeps everything. -/
theorem parametersInScope (context : Context) (client : ContainerId) :
    Keeps kept allowed (context.parametersInScope client) :=
  .get_bind fun _ => .pure _

/-- A body that is made up keeps everything. -/
theorem unnamedBody (context : Context) (operation : OperationId) (client : ContainerId)
    (type : NodeId) (role : Role) :
    Keeps kept allowed (context.unnamedBody operation client type role) :=
  (modelAt? type).bind fun _ => .pure _

/-- A change of the state keeps what it keeps of states. -/
theorem modify {change : State → State} (keeps : ∀ state, kept state → kept (change state)) :
    Keeps kept allowed (modify change) :=
  Ensures.modify keeps

/-- Steps for all entries keep what each one keeps. -/
theorem mapM {step : β → Derive α} (list : List β)
    (each : ∀ entry, Keeps kept allowed (step entry)) :
    Keeps kept allowed (list.mapM step) :=
  Ensures.mapM (fun _ => kept) list (fun entry _ _ => each entry) []

/-- Steps that may leave entries out keep what each one keeps. -/
theorem filterMapM {step : β → Derive (Option α)} (list : List β)
    (each : ∀ entry, Keeps kept allowed (step entry)) : Keeps kept allowed (list.filterMapM step) :=
  Ensures.filterMapM (fun _ => kept) list (fun entry _ _ => each entry) []

/-- A fold keeps what each of its steps keeps. -/
theorem foldlM {step : α → β → Derive α} (list : List β) (start : α)
    (each : ∀ found entry, Keeps kept allowed (step found entry)) :
    Keeps kept allowed (list.foldlM step start) :=
  Ensures.foldlM (fun _ => kept) list (fun entry _ found => each found entry) start

/-- A loop keeps what each of its rounds keeps. -/
theorem forIn {step : β → α → Derive (ForInStep α)} (list : List β) (start : α)
    (each : ∀ entry found, Keeps kept allowed (step entry found)) :
    Keeps kept allowed (ForIn.forIn list start step) :=
  Ensures.forIn list (fun entry _ found => each entry found) start

/-- A step for an optional entry keeps what it keeps for any. -/
theorem optionMapM {step : β → Derive α} (value : Option β)
    (each : ∀ entry, Keeps kept allowed (step entry)) : Keeps kept allowed (value.mapM step) := by
  cases value with
  | none => exact pure _
  | some entry => exact (each entry).map

/-- An attempt fails with nothing; the outcome tells whether what was kept still holds. -/
theorem attempted {step : Derive α} (holds : Keeps kept allowed step)
    {failed : Failure → State → Prop} :
    Ensures kept (attempt step) (fun outcome state => match outcome with
      | .ok _ => kept state
      | .error failure => allowed failure ∧ (failure.endsRun = false → kept state)) failed :=
  Ensures.attempt holds

end Keeps

section

variable {context : Context} (node : ∀ type, Keeps kept allowed (context.node type))
include node

/-- A property of a monitor takes one node. -/
theorem Keeps.monitorProperty (id : PropertyId) : Keeps kept allowed (context.monitorProperty id) :=
  (node _).bind fun _ => .pure _

/-- Of the search for it apart, a status monitor takes nodes and a single note on usage. -/
theorem Keeps.statusMonitor?
    (seed : ∀ state seed, kept state → kept { state with seeds := state.seeds ++ [seed] })
    {polling : OperationId}
    (search : Keeps kept allowed (context.firstMonitor? (context.statusTypes polling)))
    (access : Access) : Keeps kept allowed (context.statusMonitor? polling access) := by
  unfold Context.statusMonitor?
  dsimp only
  refine search.bind fun found => ?_
  -- Without a find there is nothing to derive.
  split
  · exact .pure _
  · refine (node _).bind fun type => (Keeps.modify fun state => seed state _).bind fun _ => ?_
    refine (monitorProperty node _).bind fun status => ?_
    refine (Keeps.optionMapM _ (monitorProperty node)).bind fun success => ?_
    exact (Keeps.optionMapM _ (monitorProperty node)).bind fun error => .pure _

end

/-- The failure is that a parameter of a request finds no sources. -/
def Failure.isMissing : Failure → Bool
  | .noCorrespondingParameter _ _ _ | .spreadNotResolved _ _ _ _ => true
  | _ => false

/-- A parameter of a request without sources is a failure of one method alone. -/
theorem Failure.endsRun_of_isMissing {failure : Failure} (missing : failure.isMissing = true) :
    failure.endsRun = false := by
  -- There are just two such failures, and all others contradict the assumption.
  cases failure with
  | noCorrespondingParameter | spreadNotResolved => rfl
  | _ => cases missing

/-- Looking for the sources of a parameter only fails for want of them. -/
theorem sources_isMissing {context : Context} {operation : OperationId} {client : ContainerId}
    {supply : Supply} {wanted : Property} {failure : Failure}
    (fails : context.sources operation client supply wanted = .error failure) :
    failure.isMissing = true := by
  unfold Context.sources at fails
  -- Of the four ways to look, the last one finds nothing, and says so in either branch.
  split at fails
  · cases fails
  · dsimp only at fails
    split at fails
    · cases fails
    · split at fails
      · cases fails
      · split at fails
        · cases fails
          rfl
        · cases fails
          rfl

/-- No failure is about bodies with two formats. -/
theorem Failure.code_ne_conflictingMultipartUsage (failure : Failure) :
    failure.code ≠ Code.conflictingMultipartUsage := by
  -- Each kind of failure has a code of its own.
  cases failure <;> simp [Failure.code, Code.unexpectedParameterKind, Code.spreadNotResolved,
    Code.noCorrespondingParameter, Code.multipleBodyTypes, Code.brokenInvariant,
    Code.conflictingMultipartUsage]

/-- No failure is reported under the code of a multipart conflict. -/
theorem Failure.code_diagnostic_ne (failure : Failure) :
    failure.diagnostic.code ≠ some Code.conflictingMultipartUsage := by
  simpa [Failure.diagnostic] using failure.code_ne_conflictingMultipartUsage

/-- Failures that concern a single method are allowed. -/
def Tolerant (allowed : Failure → Prop) : Prop :=
  ∀ failure : Failure, failure.endsRun = false → allowed failure

/-- Failures that concern a single method are allowed, as long as no sources are looked for. -/
def Lenient (allowed : Failure → Prop) : Prop :=
  ∀ failure : Failure, failure.endsRun = false → failure.isMissing = false → allowed failure

/-- Failures to find sources are allowed. -/
def Searching (allowed : Failure → Prop) : Prop :=
  ∀ failure : Failure, failure.isMissing = true → allowed failure

/-- All failures together tolerate every failure of a method. -/
theorem Tolerant.all : Tolerant fun _ => True :=
  fun _ _ => trivial

/-- Who tolerates every failure of a method is lenient. -/
theorem Tolerant.lenient (tolerant : Tolerant allowed) : Lenient allowed :=
  fun failure structural _ => tolerant failure structural

/-- Who tolerates every failure of a method lets searches fail. -/
theorem Tolerant.searching (tolerant : Tolerant allowed) : Searching allowed :=
  fun failure missing => tolerant failure (Failure.endsRun_of_isMissing missing)

/-- All failures together are lenient. -/
theorem Lenient.all : Lenient fun _ => True :=
  fun _ _ _ => trivial

/-- A failure that is no missing source may be thrown. -/
theorem Lenient.throw (lenient : Lenient allowed) {failure : Failure}
    (structural : failure.endsRun = false) (found : failure.isMissing = false) :
    Keeps kept allowed (MonadExcept.throw failure : Derive α) :=
  Ensures.throw fun _ start => ⟨lenient failure structural found, fun _ => start⟩

/-- A failure that is no missing source may be thrown, whatever would follow. -/
theorem Lenient.throw_bind (lenient : Lenient allowed) {failure : Failure} {next : β → Derive α}
    (structural : failure.endsRun = false) (found : failure.isMissing = false) :
    Keeps kept allowed ((MonadExcept.throw failure : Derive β) >>= next) :=
  Ensures.throw_bind fun _ start => ⟨lenient failure structural found, fun _ => start⟩

/-- To trace a parameter fails at most for want of a source. -/
theorem Searching.traceParameter (searching : Searching allowed) {context : Context}
    (operation : OperationId) (client : ContainerId) (methodParameters : List Property)
    (parameter : Property) :
    Keeps kept allowed (context.traceParameter operation client methodParameters parameter) := by
  unfold Context.traceParameter
  refine (Keeps.parametersInScope context client).bind fun scope => .get_bind fun current => ?_
  refine .bind ?_ fun sources => .pure _
  -- All that may go wrong is that there are no sources.
  refine Ensures.lift (fun _ _ _ => id) fun failure state fails start => ?_
  exact ⟨searching failure (sources_isMissing fails), fun _ => start⟩

/--
A property of states that steps without a declaration do not break.

It does not depend on nodes that neither a declaration nor a name tells apart, nor on reports; those
about bodies with two formats are left to the end of a run. Names are claimed one by one, and a
union that has no declaration is only made under a new one.
-/
structure Steady (kept : State → Prop) (allowed : Failure → Prop) : Prop where
  builtinNode : ∀ kind name, Keeps kept allowed (builtinNode kind name)
  loose : ∀ state node, node.origin = none → node.nameplate? = none → kept state →
    kept { state with catalogue := state.catalogue.push node }
  claimed : ∀ state candidate, kept state →
    kept { state with names := (state.names.claim candidate).2 }
  union : ∀ state candidate «namespace» variants, Text.Dotless candidate → kept state →
    kept { state with
      names := (state.names.claim candidate).2
      catalogue := state.catalogue.push
        (.madeUp «namespace» (state.names.claim candidate).1 variants) }
  diagnostics : ∀ state report, report.code ≠ some Code.conflictingMultipartUsage → kept state →
    kept { state with diagnostics := state.diagnostics.add report }

/-- A property of states that neither deriving nodes nor noting what types are used for breaks. -/
structure Seeding (context : Context) (kept : State → Prop) (allowed : Failure → Prop) :
    Prop extends Steady kept allowed where
  node : ∀ type, Keeps kept allowed (context.node type)
  search : ∀ types, Keeps kept allowed (context.firstMonitor? types)
  seed : ∀ state seed, kept state → kept { state with seeds := state.seeds ++ [seed] }

/-- A property of states that neither deriving nodes nor taking notes on usage breaks. -/
structure Noting (context : Context) (kept : State → Prop) (allowed : Failure → Prop) : Prop extends
    Seeding context kept allowed where
  bodyFormat : ∀ state format, kept state →
    kept { state with bodyFormats := state.bodyFormats ++ [format] }

/-- A property of states that deriving the parameters of a method does not break. -/
structure Elevating (context : Context) (client : ContainerId) (kept : State → Prop)
    (allowed : Failure → Prop) : Prop extends Seeding context kept allowed where
  clientParameter : ∀ state parameter, kept state → kept
    { state with
      clientParameters :=
        state.clientParameters.alter client fun before => before.getD [] ++ [parameter] }

/-- A property of states that no step towards a method of a client breaks. -/
structure Accruing (context : Context) (client : ContainerId) (kept : State → Prop)
    (allowed : Failure → Prop) : Prop extends Noting context kept allowed,
    Elevating context client kept allowed

/--
A property of states that nothing breaks which clients of some containers are made with.

The parameters that all clients of a service share are single steps here, since they are noted when
they are made. Methods are left out.
-/
structure Providing (context : Context) (among : ContainerId → Prop) (kept : State → Prop)
    (allowed : Failure → Prop) : Prop extends Steady kept allowed where
  node : ∀ type, Keeps kept allowed (context.node type)
  clientParameter : ∀ state client parameter, among client → kept state → kept
    { state with
      clientParameters :=
        state.clientParameters.alter client fun before => before.getD [] ++ [parameter] }
  endpointParameter : ∀ root, Keeps kept allowed (context.endpointParameter root)
  credentialParameter? : ∀ root, Keeps kept allowed (context.credentialParameter? root)

/--
A property of states that no step towards the clients of some containers breaks.

Methods are single steps, too, since one that is not wanted on typed values takes its notes back.
-/
structure Stable (context : Context) (among : ContainerId → Prop) (kept : State → Prop)
    (allowed : Failure → Prop) : Prop extends Providing context among kept allowed where
  method : ∀ operation client, among client →
    Keeps kept (fun failure => allowed failure ∨ failure.endsRun = false)
      (context.method operation client)

/--
A property of states that no step of a run breaks.

Nodes of declarations keep it, and it does not depend on notes at all.
-/
structure Robust (context : Context) (kept : State → Prop) (allowed : Failure → Prop) : Prop extends
    Steady kept allowed where
  node : ∀ type, Keeps kept allowed (context.node type)
  search : ∀ types, Keeps kept allowed (context.firstMonitor? types)
  clientParameter : ∀ state client parameter, kept state → kept
    { state with
      clientParameters :=
        state.clientParameters.alter client fun before => before.getD [] ++ [parameter] }
  endpoints : ∀ state endpoints, kept state → kept { state with endpoints }
  credentials : ∀ state credentials, kept state → kept { state with credentials }
  seeds : ∀ state seeds, kept state → kept { state with seeds }
  bodyFormats : ∀ state bodyFormats, kept state → kept { state with bodyFormats }

namespace Steady

variable {context : Context}

/-- More failures may be allowed. -/
theorem weaken (steady : Steady kept allowed) {more : Failure → Prop}
    (includes : ∀ failure, allowed failure → more failure) : Steady kept more where
  builtinNode kind name := (steady.builtinNode kind name).weaken (fun _ start => start)
    (fun _ _ ends => ends) fun _ _ fails => ⟨includes _ fails.1, fails.2⟩
  loose := steady.loose
  claimed := steady.claimed
  union := steady.union
  diagnostics := steady.diagnostics

/-- A property that does not depend on names at all. -/
theorem nameless (primitive : ∀ kind name, Keeps kept allowed (Derivation.builtinNode kind name))
    (loose : ∀ state node, node.origin = none → kept state →
      kept { state with catalogue := state.catalogue.push node })
    (names : ∀ state names, kept state → kept { state with names })
    (diagnostics : ∀ state report, report.code ≠ some Code.conflictingMultipartUsage → kept state →
      kept { state with diagnostics := state.diagnostics.add report }) : Steady kept allowed where
  -- Every other step is one of those that are given, as names make no difference.
  builtinNode := primitive
  loose state node bare _ := loose state node bare
  claimed state _ := names state _
  union state candidate _ _ _ start :=
    loose { state with names := (state.names.claim candidate).2 } _ rfl (names state _ start)
  diagnostics := diagnostics

section

variable (steady : Steady kept allowed)
include steady

/-! ## Notes and loose nodes -/

/-- A node without declaration and name may be added. -/
theorem addNode {node : Node} (bare : node.origin = none) (nameless : node.nameplate? = none) :
    Keeps kept allowed (addNode node) :=
  -- The place of the new node is read first, which changes nothing.
  .get_bind fun _ =>
    (Keeps.modify fun state => steady.loose state node bare nameless).bind fun _ => .pure _

/-- The string node may be taken. -/
theorem stringNode : Keeps kept allowed stringNode :=
  steady.builtinNode .string "string"

/-- A name may be claimed. -/
theorem claimName (candidate : String) : Keeps kept allowed (claimName candidate) := by
  -- The registry is read and then replaced by the one that has the name.
  refine Ensures.get_bind fun current start => ?_
  refine Ensures.via (fun _ => kept) (Ensures.modify ?_) fun _ => .pure fun _ => id
  rintro state rfl
  exact steady.claimed state candidate start

/-- A union without a declaration is made as soon as there is a name for it. -/
theorem addUnion {candidate : String} (dotless : Text.Dotless candidate) («namespace» : String)
    (variants : List NodeId) :
    Keeps kept allowed (do
      let name ← Derivation.claimName candidate
      Derivation.addNode (.madeUp «namespace» name variants)) := by
  intro state start
  exact steady.union state candidate «namespace» variants dotless start

/-- Reports may be made, but not under the code of a multipart conflict. -/
theorem report {diagnostic : Diagnostic}
    (early : diagnostic.code ≠ some Code.conflictingMultipartUsage) :
    Keeps kept allowed (report diagnostic) :=
  .modify fun state => steady.diagnostics state _ early

/-- Errors may be reported. -/
theorem reportError (target : Declaration) {code : String}
    (early : code ≠ Code.conflictingMultipartUsage) (message : String) :
    Keeps kept allowed (reportError target code message) :=
  .modify fun state => steady.diagnostics state _ (by simpa using early)

/-- Warnings may be reported. -/
theorem reportWarning (target : Declaration) {code : String}
    (early : code ≠ Code.conflictingMultipartUsage) (message : String) :
    Keeps kept allowed (reportWarning target code message) :=
  .modify fun state => steady.diagnostics state _ (by simpa using early)

/-- Constants may be added. -/
theorem addConstant (value : Service.Literal) (name : Option String) :
    Keeps kept allowed (addConstant value name) :=
  steady.addNode rfl rfl

/-! ## Requests -/

/-- A negotiation header takes a constant or the string node. -/
theorem negotiationHeader (operation : OperationId) (negotiation : Negotiation)
    (contentTypes : List String) (optional : Bool) :
    Keeps kept allowed
      (context.negotiationHeader operation negotiation contentTypes optional) := by
  unfold Context.negotiationHeader
  dsimp only
  -- A single content type makes a constant, and several make a string.
  split
  · split
    · exact ((steady.claimName _).bind fun _ => steady.addConstant _ _).bind fun _ => .pure _
    · exact steady.stringNode.bind fun _ => .pure _
  · exact steady.stringNode.bind fun _ => .pure _

/-- Negotiation takes a header at most. -/
theorem negotiate (operation : OperationId) (negotiation : Negotiation)
    (contentTypes : List String) (optional : Bool) (wire method : List Property) :
    Keeps kept allowed
      (context.negotiate operation negotiation contentTypes optional wire method) := by
  unfold Context.negotiate
  dsimp only
  -- No header is made for no content types.
  split
  · exact .pure _
  · exact (steady.negotiationHeader _ _ _ _).bind fun _ => .pure _

/-- Negotiation for the body takes a header at most. -/
theorem negotiateBody (operation : OperationId) (body : Option Property)
    (wire method : List Property) :
    Keeps kept allowed (context.negotiateBody operation body wire method) := by
  -- Without a body there is nothing to negotiate.
  cases body with
  | none => exact .pure _
  | some body => exact steady.negotiate _ _ _ _ _ _

/-- Negotiation for the responses takes a header at most. -/
theorem negotiateResponses (operation : OperationId) (outcomes : Outcomes)
    (wire method : List Property) :
    Keeps kept allowed (context.negotiateResponses operation outcomes wire method) := by
  -- Without content types there is nothing to negotiate.
  unfold Context.negotiateResponses
  split
  · exact steady.negotiate _ _ _ _ _ _
  · exact .pure _

/-! ## Links -/

/-- A directive that is followed reports at most. -/
theorem followDirective (initiating polling : OperationId) (sources : List LinkSource)
    (targets : List LinkTarget) (links : LinkMap) (directive : Directive) :
    Keeps kept allowed
      (context.followDirective initiating polling sources targets links directive) := by
  unfold Context.followDirective
  -- By how the directive is met: an unknown target, a second value, no source, or a link.
  split
  · exact (steady.reportError _ (by decide) _).bind fun _ => .pure _
  · split
    · exact (steady.reportError _ (by decide) _).bind fun _ => .pure _
    · split
      · refine .bind ?_ fun _ => .pure _
        unfold Context.reportMissingSource
        split
        · exact steady.reportError _ (by decide) _
        · exact steady.reportError _ (by decide) _
      · exact .pure _

/-- Linking values reports at most. -/
theorem linkMap? (initiating : OperationId) (declared : PollingDecl) :
    Keeps kept allowed (context.linkMap? initiating declared) := by
  unfold Context.linkMap?
  dsimp only
  refine (Keeps.foldlM _ _ fun found directive =>
    steady.followDirective initiating _ _ _ found directive).bind fun directed => ?_
  -- A value that is missing after all is warned about.
  split
  · exact .pure _
  · exact (steady.reportWarning _ (by decide) _).bind fun _ => .pure _

/-! ## Clients -/

/-- How a client is initialized is read off, and reported at most. -/
theorem initializationOf (container : ContainerId) (isRoot : Bool) :
    Keeps kept allowed (context.initializationOf container isRoot) := by
  unfold Context.initializationOf
  dsimp only
  -- By what was chosen for a root or a sub-client; what is invalid for it is reported.
  split
  · exact .pure _
  · exact .pure _
  · split
    · exact .pure _
    · exact (steady.reportError _ (by decide) _).bind fun _ => .pure _
  · split
    · exact .pure _
    · exact (steady.reportError _ (by decide) _).bind fun _ => .pure _

/-- Endpoint types are nodes without declaration. -/
theorem addEndpointType (root : ContainerId) (endpoints : List Endpoint) :
    Keeps kept allowed (context.addEndpointType root endpoints) := by
  unfold Context.addEndpointType
  refine (Keeps.mapM _ fun endpoint => steady.addNode rfl rfl).bind fun variants => ?_
  -- A single endpoint is taken as it is, and several make a union.
  split
  · exact .pure _
  · exact steady.addUnion ((Text.dotless_pascalCase _).append (by decide)) _ _

/-! ## Services -/

/-- The argument of a server takes a node, or a report. -/
theorem serverArgument? (node : ∀ type, Keeps kept allowed (context.node type))
    (root : ContainerId) (id : PropertyId) :
    Keeps kept allowed (context.serverArgument? root id) := by
  unfold Context.serverArgument?
  extract_lets declared isOnPath
  -- An argument elsewhere than on the path is reported.
  by_cases onPath : isOnPath = true
  · rw [if_pos onPath]
    exact (node _).bind fun _ => .pure _
  · rw [if_neg onPath]
    exact (steady.reportError _ (by decide) _).bind fun _ => .pure _

/-- The endpoints of a server take nodes for its arguments. -/
theorem serverEndpoints (node : ∀ type, Keeps kept allowed (context.node type))
    (root : ContainerId) (string : NodeId) (server : Server) :
    Keeps kept allowed (context.serverEndpoints root string server) := by
  unfold Context.serverEndpoints
  refine (Keeps.filterMapM _ fun id => steady.serverArgument? node root id).bind
    fun arguments => ?_
  -- An endpoint is put together of what is there.
  split
  · exact .pure _
  · dsimp only
    split
    · exact .pure _
    · exact .pure _

/-- The endpoint parameter is made once and remembered. -/
theorem endpointParameter (node : ∀ type, Keeps kept allowed (context.node type))
    (endpoints : ∀ state endpoints, kept state → kept { state with endpoints })
    (root : ContainerId) : Keeps kept allowed (context.endpointParameter root) := by
  unfold Context.endpointParameter
  refine .get_bind fun current => ?_
  -- A root that has its parameter already takes nothing.
  split
  · exact .pure _
  · refine steady.stringNode.bind fun string => ?_
    refine (Keeps.mapM _ fun server => steady.serverEndpoints node root string server).bind
      fun declared => (steady.addEndpointType root _).bind fun type => ?_
    exact (Keeps.modify fun state => endpoints state _).bind fun _ => .pure _

/-- The credential parameter is made once and remembered. -/
theorem credentialParameter?
    (credentials : ∀ state credentials, kept state → kept { state with credentials })
    (root : ContainerId) : Keeps kept allowed (context.credentialParameter? root) := by
  unfold Context.credentialParameter?
  -- A root that was looked at before takes nothing; else a node is made for its schemes, if any.
  refine .get_bind fun current => ?_
  split
  · exact .pure _
  · dsimp only
    split
    · refine (Keeps.pure _).bind fun _ => ?_
      exact (Keeps.modify fun state => credentials state _).bind fun _ => .pure _
    · have made (schemes : List Service.AuthScheme) :
          Keeps kept allowed (Derivation.addNode { kind := .credential schemes }) :=
        steady.addNode rfl rfl
      refine (made _).bind fun _ => (Keeps.pure _).bind fun _ => ?_
      exact (Keeps.modify fun state => credentials state _).bind fun _ => .pure _

end

end Steady

namespace Seeding

variable {context : Context} {client : ContainerId}

section

variable (seeding : Seeding context kept allowed)
include seeding

/-! ## Notes -/

/-- A seed may be noted. -/
theorem addSeed (type : NodeId) (usage : Usage) (access : Access) :
    Keeps kept allowed (addSeed type usage access) :=
  .modify fun state => seeding.seed state _

/-! ## Responses and requests -/

/-- A response header takes a node and a seed. -/
theorem responseHeader? (access : Access) (id : PropertyId) :
    Keeps kept allowed (context.responseHeader? access id) := by
  unfold Context.responseHeader?
  dsimp only
  -- A void header is left out.
  split
  · exact .pure _
  · exact (seeding.node _).bind fun type => (seeding.addSeed _ _ _).bind fun _ => .pure _

/-- A response takes its headers and its type. -/
theorem response (access : Access) (declared : ResponseDecl) :
    Keeps kept allowed (context.response access declared) := by
  unfold Context.response
  refine (Keeps.filterMapM _ fun id => seeding.responseHeader? access id).bind fun headers => ?_
  dsimp only
  -- Without payload only the headers are taken.
  split
  · exact (Keeps.pure _).bind fun _ => .pure _
  · exact (seeding.node _).bind fun type => (seeding.addSeed _ _ _).bind fun _ =>
      (Keeps.pure _).bind fun _ => .pure _

/-- A response that is added takes what the response does, and a warning. -/
theorem addResponse (operation : OperationId) (access : Access) (outcomes : Outcomes)
    (declared : ResponseDecl) :
    Keeps kept allowed (context.addResponse operation access outcomes declared) := by
  unfold Context.addResponse
  refine (seeding.response access declared).bind fun response => ?_
  dsimp only
  -- An error joins the errors if it is no duplicate, and a success the successes.
  split
  · split
    · exact (seeding.reportWarning _ (by decide) _).bind fun _ => .pure _
    · exact .pure _
  · split
    · exact .pure _
    · exact .pure _

/-- Outcomes take what their responses take. -/
theorem outcomes (operation : OperationId) (access : Access) :
    Keeps kept allowed (context.outcomes operation access) :=
  .foldlM _ _ fun found declared => seeding.addResponse operation access found declared

/-- A request parameter takes a node. -/
theorem requestParameter (lenient : Lenient allowed) (operation : OperationId) (id : PropertyId)
    (location : Option Service.Location) :
    Keeps kept allowed (context.requestParameter operation id location client) := by
  unfold Context.requestParameter
  dsimp only
  -- A parameter without location fails its method.
  split
  · exact lenient.throw rfl rfl
  · exact (seeding.node _).bind fun type => .pure _

/-- The parameter of a slot takes a node and a seed. -/
theorem slotParameter? (lenient : Lenient allowed) (operation : OperationId) (access : Access)
    (slot : WireSlot) :
    Keeps kept allowed (context.slotParameter? operation client access slot) := by
  unfold Context.slotParameter?
  dsimp only
  -- A void parameter is left out, and one of a location that may not be fails its method.
  split
  · exact .pure _
  · refine (seeding.requestParameter lenient _ _ _).bind fun parameter => ?_
    split
    · exact lenient.throw_bind rfl rfl
    · exact (seeding.addSeed _ _ _).bind fun _ => .pure _

/-- The parameter for a body takes a node, if it is declared. -/
theorem bodyParameter (lenient : Lenient allowed) (operation : OperationId)
    (declared : Option PropertyId) (type : NodeId) (role : Role) :
    Keeps kept allowed (context.bodyParameter operation client declared type role) := by
  -- A body without a name gets a parameter made anew, without a node.
  cases declared with
  | none => exact Keeps.unnamedBody context _ _ _ _
  | some property => exact (seeding.requestParameter lenient _ _ _).bind fun _ => .pure _

/-! ## Methods -/

/-- A union for responses takes a name, a node and a seed. -/
theorem addResponseUnion (operation : OperationId) (access : Access) (variants : List NodeId) :
    Keeps kept allowed (context.addResponseUnion operation access variants) := by
  -- The note on the union is taken after it is made.
  have same : context.addResponseUnion operation access variants = (do
      let node ← (do
        let name ← claimName
          (Text.pascalCase (context.definition.operationAt operation).name ++ "Response")
        addNode (.madeUp (context.definition.namespaceOf
          (context.definition.operationAt operation).container) name variants))
      Derivation.addSeed node .output access
      return node) := by
    rw [bind_assoc]
    rfl
  rw [same]
  refine (seeding.addUnion ((Text.dotless_pascalCase _).append (by decide)) _ _).bind fun _ => ?_
  exact (seeding.addSeed _ _ _).bind fun _ => .pure _

/-- The type for successes takes a union at most. -/
theorem successType? (operation : OperationId) (access : Access) (types : List NodeId) :
    Keeps kept allowed (context.successType? operation access types) := by
  unfold Context.successType?
  -- Only several types are put together.
  split
  · exact .pure _
  · exact .pure _
  · exact (seeding.addResponseUnion operation access _).map

/-- The response of a method takes a union or null on top at most. -/
theorem methodResponse (operation : OperationId) (responses : ResponseMap) (access : Access) :
    Keeps kept allowed (context.methodResponse operation responses access) := by
  unfold Context.methodResponse
  refine (seeding.successType? operation access _).bind fun type => ?_
  -- Without a type nothing more is taken.
  split
  · exact .pure _
  · refine (Keeps.nodeAt _).bind fun node => ?_
    split
    · exact (seeding.addNode rfl rfl).bind fun _ => .pure _
    · exact .pure _

/-- A property of a monitor takes a node. -/
theorem monitorProperty (id : PropertyId) : Keeps kept allowed (context.monitorProperty id) :=
  .monitorProperty seeding.node id

/-- A status monitor takes nodes and one seed. -/
theorem statusMonitor? (polling : OperationId) (access : Access) :
    Keeps kept allowed (context.statusMonitor? polling access) :=
  .statusMonitor? seeding.node (fun state seed => seeding.seed state seed) (seeding.search _) access

/-- A link takes the monitor, once its values are there. -/
theorem link? (initiating : OperationId) (declared : PollingDecl) (access : Access) :
    Keeps kept allowed (context.link? initiating declared access) := by
  unfold Context.link?
  refine (seeding.linkMap? initiating declared).bind fun parameters => ?_
  -- Without values no monitor is looked for.
  split
  · exact .pure _
  · exact (seeding.statusMonitor? _ access).bind fun monitor => .pure _

/-- Polling takes a link, and a warning. -/
theorem polling? (operation : OperationId) (declared : PollingDecl) (access : Access)
    (response : MethodResponse) :
    Keeps kept allowed (context.polling? operation declared access response) := by
  unfold Context.polling?
  refine (seeding.link? operation declared access).bind fun link => ?_
  -- Neither a missing link nor a missing monitor takes more than a warning.
  split
  · exact .pure _
  · split
    · exact (seeding.reportWarning _ (by decide) _).bind fun _ => .pure _
    · exact .pure _

end

end Seeding

namespace Noting

variable {context : Context} {client : ContainerId}

section

variable (noting : Noting context kept allowed)
include noting

/-- A body format may be noted. -/
theorem addBodyFormat (type : NodeId) (isMultipart : Bool) :
    Keeps kept allowed (addBodyFormat type isMultipart) :=
  .modify fun state => noting.bodyFormat state _

/-- A body takes a node, a seed and a format. -/
theorem body? (lenient : Lenient allowed) (operation : OperationId)
    (access : Access) :
    Keeps kept allowed (context.body? operation client access) := by
  unfold Context.body?
  dsimp only
  -- Without a declared body, or with a void one, nothing is taken; several fail the method.
  split
  · exact .pure _
  · split
    · exact lenient.throw_bind rfl rfl
    · split
      · exact .pure _
      · refine (noting.node _).bind fun type => ?_
        refine (noting.bodyParameter lenient _ _ _ _).bind fun body => ?_
        refine (Keeps.modelAt? type).bind fun model => ?_
        exact (noting.addSeed _ _ _).bind fun _ =>
          (noting.addBodyFormat _ _).bind fun _ => .pure _

end

end Noting

namespace Elevating

variable {context : Context} {client : ContainerId}

section

variable (elevating : Elevating context client kept allowed)
include elevating

/-- A parameter may be elevated to the client. -/
theorem elevate (parameter : Property) :
    Keeps kept allowed (context.elevate client parameter) := by
  unfold Context.elevate
  refine (Keeps.parametersInScope context client).bind fun scope => ?_
  dsimp only
  -- What is in scope already stays where it is.
  split
  · exact .pure _
  · exact .modify fun state => elevating.clientParameter state _

/-- Parameters on the wire may be elevated to the client. -/
theorem elevateAll (wire : List Property) :
    Keeps kept allowed (context.elevateAll client wire) := by
  -- One after the other: what an elevation keeps is there for the next one.
  unfold Context.elevateAll
  refine Keeps.bind (Keeps.forIn _ _ fun _ _ => ?_) fun _ => .pure _
  exact (elevating.elevate _).bind fun _ => .pure _

/-- A method parameter takes a node, and goes to the client or takes a seed. -/
theorem methodParameter? (operation : OperationId) (access : Access)
    (id : PropertyId) :
    Keeps kept allowed (context.methodParameter? operation client access id) := by
  unfold Context.methodParameter?
  dsimp only
  -- By where the parameter goes: nowhere, to the client, nowhere further, or to the method.
  split
  · exact .pure _
  · refine (elevating.node _).bind fun type => ?_
    split
    · exact (elevating.elevate _).bind fun _ => .pure _
    · refine (Keeps.parametersInScope context client).bind fun scope => ?_
      split
      · exact .pure _
      · exact (elevating.addSeed _ _ _).bind fun _ => .pure _

end

end Elevating

namespace Accruing

variable {context : Context} {client : ContainerId}

section

variable (accruing : Accruing context client kept allowed)
include accruing

/-- A request takes what its parts take, in their order. -/
theorem httpOperation (tolerant : Tolerant allowed) (operation : OperationId) (access : Access)
    (parameters : List Property) :
    Keeps kept allowed (context.httpOperation operation client access parameters) := by
  unfold Context.httpOperation
  -- The outcomes, the slots and the body come first, and the sources are traced in the end.
  refine (accruing.outcomes operation access).bind fun outcomes => ?_
  refine (Keeps.filterMapM _ fun slot =>
    accruing.slotParameter? tolerant.lenient operation access slot).bind fun wire => ?_
  refine (accruing.body? tolerant.lenient operation access).bind fun body => ?_
  refine (accruing.negotiateBody operation body wire parameters).bind fun _ => ?_
  refine (accruing.negotiateResponses operation outcomes _ _).bind fun _ => ?_
  refine (accruing.elevateAll _).bind fun _ => ?_
  refine (Keeps.mapM _ fun parameter =>
    tolerant.searching.traceParameter operation client _ parameter).bind fun traced => ?_
  exact (Keeps.optionMapM _ fun parameter =>
    tolerant.searching.traceParameter operation client _ parameter).bind fun _ => .pure _

/-- A method takes what its request, its response and its polling take. -/
theorem buildMethod (tolerant : Tolerant allowed) (operation : OperationId) :
    Keeps kept allowed (context.buildMethod operation client) := by
  unfold Context.buildMethod
  dsimp only
  -- The parameters come first, since the request draws on them, and the response after it.
  refine (Keeps.filterMapM _ fun id => accruing.methodParameter? operation _ id).bind
    fun parameters => (accruing.httpOperation tolerant operation _ parameters).bind fun http => ?_
  refine (accruing.methodResponse operation _ _).bind fun response => .get_bind fun current => ?_
  split
  · exact (accruing.polling? operation _ _ _).bind fun _ => .pure _
  · exact (Keeps.pure _).bind fun _ => .pure _

/-- A method is built and may take back its notes on usage, whether it fails or not. -/
theorem method (tolerant : Tolerant allowed)
    (discards : ∀ state seeds bodyFormats, kept state → kept { state with seeds, bodyFormats })
    (operation : OperationId) : Keeps kept allowed (context.method operation client) := by
  have discardUsageSince (mark : UsageMark) :
      Keeps kept allowed (Derivation.discardUsageSince mark) :=
    .modify fun state => discards state _ _
  unfold Context.method
  refine Keeps.get_bind fun current => ?_
  -- What a failure leaves behind is known only where the failure does not end the run.
  refine Ensures.bind (Keeps.attempted (accruing.buildMethod tolerant operation))
    fun outcome => ?_
  -- The notes are taken back only where the method is not convenient.
  cases outcome with
  | ok method =>
    dsimp only
    split
    · exact Keeps.pure _
    · exact (discardUsageSince _).bind fun _ => .pure _
  | error failure =>
    refine Ensures.intro ?_ ?_
    · intro state value next start run
      split at run
      · cases run
      · cases run
    · intro state other next start run
      split at run
      · cases run
        exact start
      · cases run
        exact ⟨start.1, fun isOwn => (discardUsageSince _).ok (start.2 isOwn) rfl⟩

end

end Accruing

namespace Context

variable {context : Context}

/-- A method on typed values is wanted for an operation. -/
def isConvenient (context : Context) (operation : OperationId) : Bool :=
  (context.choices.convenientMethod? operation).getD context.options.convenientMethods

/--
A method is derived in full before its notes on usage are looked at.

They are taken back where the method is not wanted on typed values, and kept otherwise, whether the
method fails or not.
-/
theorem method_run (operation : OperationId) (client : ContainerId) (state : State) :
    context.method operation client state =
      match context.buildMethod operation client state with
      | (outcome, built) =>
        (outcome.map fun method => { method with
            isConvenient := context.isConvenient operation
            isProtocol := (context.choices.protocolMethod? operation).getD
              context.options.protocolMethods },
          if context.isConvenient operation then built
          else { built with
            seeds := built.seeds.take state.usageMark.seeds
            bodyFormats := built.bodyFormats.take state.usageMark.bodyFormats }) := by
  unfold method
  have looked : (get : Derive State) state = (.ok state, state) := rfl
  rw [bind_ok looked]
  dsimp only
  cases run : context.buildMethod operation client state with
  | mk outcome built =>
    rw [bind_ok (attempt_run run)]
    unfold isConvenient
    -- Usage is kept or cut off alike, whether the method was built or failed.
    by_cases wanted : (context.choices.convenientMethod? operation).getD
        context.options.convenientMethods = true
    · simp only [wanted, if_true]
      cases outcome <;> rfl
    · simp only [wanted]
      cases outcome <;> rfl

end Context

namespace Robust

variable {context : Context}

/-- More failures may be allowed. -/
theorem weaken (robust : Robust context kept allowed) {more : Failure → Prop}
    (includes : ∀ failure, allowed failure → more failure) : Robust context kept more where
  -- Failures are named by nodes and searches alone; the other steps cannot fail.
  toSteady := robust.toSteady.weaken includes
  node type := (robust.node type).weaken (fun _ start => start) (fun _ _ ends => ends)
    fun _ _ fails => ⟨includes _ fails.1, fails.2⟩
  search types := (robust.search types).weaken (fun _ start => start) (fun _ _ ends => ends)
    fun _ _ fails => ⟨includes _ fails.1, fails.2⟩
  clientParameter := robust.clientParameter
  endpoints := robust.endpoints
  credentials := robust.credentials
  seeds := robust.seeds
  bodyFormats := robust.bodyFormats

section

variable (robust : Robust context kept allowed)
include robust

/-- What does not depend on notes survives those of any method. -/
theorem accruing (client : ContainerId) : Accruing context client kept allowed where
  toSteady := robust.toSteady
  node := robust.node
  search := robust.search
  clientParameter state parameter start := robust.clientParameter state client parameter start
  seed state _ start := robust.seeds state _ start
  bodyFormat state _ start := robust.bodyFormats state _ start

/-- A robust property is kept by methods. -/
theorem method (tolerant : Tolerant allowed) (operation : OperationId) (client : ContainerId) :
    Keeps kept allowed (context.method operation client) :=
  (robust.accruing client).method tolerant (fun state seeds bodyFormats start =>
    robust.bodyFormats { state with seeds } bodyFormats (robust.seeds state seeds start)) operation

/-- What does not depend on notes survives every method, whether it is left out or not. -/
theorem stable : Stable context (fun _ => True) kept allowed where
  toSteady := robust.toSteady
  node := robust.node
  clientParameter state client parameter _ start :=
    robust.clientParameter state client parameter start
  endpointParameter := robust.toSteady.endpointParameter robust.node robust.endpoints
  credentialParameter? := robust.toSteady.credentialParameter? robust.credentials
  method operation client _ :=
    (robust.weaken fun _ => Or.inl).method (fun _ => Or.inr) operation client

end

end Robust

namespace Providing

variable {context : Context} {among : ContainerId → Prop}

section

variable (providing : Providing context among kept allowed)
include providing

/-- A parameter of a client's own takes a node. -/
theorem customParameter {container : ContainerId} (inside : among container) (id : PropertyId) :
    Keeps kept allowed (context.customParameter container id) :=
  -- The node comes first, and then the client takes the parameter.
  (providing.node _).bind fun _ =>
    (Keeps.modify fun state => providing.clientParameter state container _ inside).bind
      fun _ => .pure _

/-- The parameters of a client take the endpoint and the credential. -/
theorem initializationParameters (container : ContainerId) (children : List Client)
    (custom : List Property) :
    Keeps kept allowed (context.initializationParameters container children custom) := by
  unfold Context.initializationParameters
  -- Outside of a service there is neither.
  split
  · exact .pure _
  · exact (providing.endpointParameter _).bind fun _ =>
      (providing.credentialParameter? _).bind fun _ => .get_bind fun _ => .pure _

/-- Orphans take nodes for their types. -/
theorem orphans : Keeps kept allowed context.orphans := by
  unfold Context.orphans
  refine Keeps.bind (Keeps.forIn _ _ fun type _ => ?_) fun _ => .pure _
  -- Only a type that was not met is an orphan.
  split
  · exact (providing.node type).bind fun _ => .pure _
  · exact .pure _

end

end Providing

namespace Stable

variable {context : Context} {among : ContainerId → Prop}

section

variable (stable : Stable context among kept allowed)
include stable

/-! ## Clients -/

/-- A method that fails for a reason of its own is reported and left out. -/
theorem methodOrReport {container : ContainerId} (inside : among container)
    (operation : OperationId) :
    Keeps kept allowed (context.methodOrReport container operation) := by
  -- A failure of the method alone is allowed, for it is caught here.
  refine Ensures.bind (Keeps.attempted (stable.method operation container inside))
    fun outcome => ?_
  cases outcome with
  | ok method => exact Keeps.pure _
  | error failure =>
    dsimp only
    split
    · rename_i ends
      refine Ensures.throw fun _ start => ⟨start.1.resolve_right fun isOwn => ?_, start.2⟩
      rw [ends] at isOwn
      cases isOwn
    · rename_i isOwn
      have reported := Keeps.bind (stable.report failure.code_diagnostic_ne) fun _ =>
        Keeps.pure (none : Option Method)
      refine reported.weaken (fun _ start => start.2 ?_) (fun _ _ => id) fun _ _ => id
      simpa using isOwn

/-- All methods of a client keep what is stable. -/
theorem methodsOf {container : ContainerId} (inside : among container)
    (operations : List OperationId) :
    Keeps kept allowed (context.methodsOf container operations) :=
  Keeps.filterMapM _ (stable.methodOrReport inside)

end

mutual

/-- A client keeps what is stable, along with the clients below it. -/
theorem clientOf (stable : Stable context among kept allowed) (isRoot : Bool) (name : String) :
    (tree : ClientTree) → (∀ container ∈ tree.containers, among container) →
      Keeps kept allowed (context.clientOf isRoot name tree)
  | .node container groups, inside => by
    have own : among container := inside container (by simp [ClientTree.containers])
    have below : ∀ other ∈ ClientTree.containersAll groups, among other :=
      fun other member => inside other (by simp [ClientTree.containers, member])
    unfold Context.clientOf
    -- The ways, the parameters, the sub-clients and the methods are derived in this order.
    refine (stable.initializationOf container isRoot).bind fun ways => ?_
    refine (Keeps.mapM _ fun id => stable.customParameter own id).bind fun custom => ?_
    refine (stable.clientsOf groups below).bind fun children => ?_
    refine (stable.methodsOf own _).bind fun methods => ?_
    exact (stable.initializationParameters container children custom).bind fun _ => .pure _

/-- Clients keep what is stable, one tree after the other. -/
theorem clientsOf (stable : Stable context among kept allowed) :
    (trees : List ClientTree) → (∀ container ∈ ClientTree.containersAll trees, among container) →
      Keeps kept allowed (context.clientsOf trees)
  | [], _ => by
    unfold Context.clientsOf
    exact .pure _
  | group :: rest, inside => by
    have first : ∀ other ∈ group.containers, among other :=
      fun other member => inside other (by simp [ClientTree.containersAll, member])
    have others : ∀ other ∈ ClientTree.containersAll rest, among other :=
      fun other member => inside other (by simp [ClientTree.containersAll, member])
    unfold Context.clientsOf
    -- The first tree is derived before the others.
    refine (stable.clientOf false _ group first).bind fun client => ?_
    exact (stable.clientsOf rest others).bind fun _ => .pure _

end

section

variable (stable : Stable context among kept allowed)
include stable

/-- The client of a root keeps what is stable. -/
theorem rootClient (root : RootClient)
    (inside : ∀ container ∈ (context.clientTree root.container).containers, among container) :
    Keeps kept allowed (context.rootClient root) :=
  stable.clientOf true _ _ inside

/-- The clients of roots keep what is stable. -/
theorem rootClients (roots : List RootClient)
    (inside : ∀ root ∈ roots, ∀ container ∈ (context.clientTree root.container).containers,
      among container) :
    Keeps kept allowed (roots.mapM context.rootClient) :=
  -- By induction on the roots; the containers of each tree are among those allowed.
  Ensures.mapM (fun _ => kept) roots
    (fun root member _ => stable.rootClient root (inside root member)) []

/-- A whole run keeps what every step of it keeps. -/
theorem clients (inside : ∀ root ∈ Derivation.rootClients context.definition context.choices,
    ∀ container ∈ (context.clientTree root.container).containers, among container) :
    Keeps kept allowed context.clients :=
  (stable.rootClients _ inside).bind fun _ => stable.orphans.bind fun _ => .pure _

end

end Stable

end ClientModel.Derivation
