import ClientModel.Proofs.Calls
import ClientModel.Proofs.Sources

/-!
Which operations a run attempts, and what comes of it.

A run is told once more with a record of its attempts. Every operation that goes to a client is
attempted there, whatever comes of the others: a method that fails for a reason of its own is
reported, and the run goes on.
-/

namespace ClientModel.Derivation

/-- An attempt to derive the method of an operation, and what came of it. -/
structure Attempt where
  operation : OperationId
  outcome : Except Failure Method

/-- The method that came of an attempt. -/
def Attempt.method? (attempt : Attempt) : Option Method :=
  attempt.outcome.toOption

/-- A method comes of an attempt just if the attempt does not fail. -/
theorem Attempt.method?_eq_some_iff {attempt : Attempt} {method : Method} :
    attempt.method? = some method ↔ attempt.outcome = .ok method := by
  -- An attempt keeps its outcome, and what it gives is that outcome without the failure.
  unfold Attempt.method?
  cases attempt.outcome with
  | ok other => simp [Except.toOption]
  | error failure => simp [Except.toOption]

/-- A client, and the attempts to derive its methods. -/
structure Record where
  client : Client
  attempts : List Attempt

namespace Context

variable (context : Context)

/-! ## Recorded runs -/

/-- Attempts to derive a method; one that fails for a reason of its own is reported. -/
def attemptMethod (container : ContainerId) (operation : OperationId) : Derive Attempt := do
  match ← attempt (context.method operation container) with
  | .ok method => return { operation, outcome := .ok method }
  | .error failure =>
    if failure.endsRun then throw failure
    else
      report failure.diagnostic
      return { operation, outcome := .error failure }

mutual

/-- Derives a client and its sub-clients, with a record of each. -/
def recordedClientOf (isRoot : Bool) (name : String) : ClientTree → Derive (Client × List Record)
  | .node container groups => do
    let definition := context.definition
    let initializedBy ← context.initializationOf container isRoot
    let chosen := ((context.choices.setup? container).map (·.parameters)).getD []
    let custom ← chosen.mapM (context.customParameter container)
    let below ← recordedClientsOf groups
    let children := below.1
    let attempts ← (context.operationsOf container).mapM (context.attemptMethod container)
    let methods := attempts.filterMap Attempt.method?
    let crossId := definition.fullName container
    let apiVersions := ((definition.service? container).map (·.apiVersions)).getD []
    let handedOut := children.filter fun child => child.initialization.initializedBy.isByParent
    let parameters ← context.initializationParameters container children custom
    let client : Client := {
      name
      «namespace» := definition.namespaceOf container
      origin := container
      crossId
      apiVersions
      initialization := { name := name ++ "Options", initializedBy, parameters }
      methods := methods ++ handedOut.map (accessor crossId apiVersions)
      children
    }
    return (client, { client, attempts } :: below.2)

/-- Derives sub-clients, one after the other, with a record of each. -/
def recordedClientsOf : List ClientTree → Derive (List Client × List Record)
  | [] => return ([], [])
  | group :: rest => do
    let first ← recordedClientOf false (context.groupName group.container) group
    let others ← recordedClientsOf rest
    return (first.1 :: others.1, first.2 ++ others.2)

end

/-- Derives everything that a package is made of, with a record of each client. -/
def recordedClients : Derive (List Client × List Record) := do
  let recorded ← (rootClients context.definition context.choices).mapM fun root =>
    context.recordedClientOf true (context.rootName root) (context.clientTree root.container)
  context.orphans
  return (recorded.map Prod.fst, recorded.flatMap Prod.snd)

variable {context}

/-! ## Records change nothing -/

/-- A step of the run is an attempt of which the method alone is kept. -/
theorem methodOrReport_eq (container : ContainerId) (operation : OperationId) :
    context.methodOrReport container operation =
      Attempt.method? <$> context.attemptMethod container operation := by
  unfold methodOrReport attemptMethod
  -- Both attempt the method first, and differ in what they make of the outcome.
  rw [map_bind]
  refine bind_congr fun outcome => ?_
  cases outcome with
  | ok method => rfl
  | error failure =>
    dsimp only
    by_cases ends : failure.endsRun = true
    · rw [if_pos ends, if_pos ends]
      rfl
    · rw [if_neg ends, if_neg ends, map_bind]
      rfl

/-- The methods of a client are what comes of its attempts. -/
theorem methodsOf_eq (container : ContainerId) (operations : List OperationId) :
    context.methodsOf container operations =
      List.filterMap Attempt.method? <$> operations.mapM (context.attemptMethod container) := by
  unfold methodsOf
  induction operations with
  | nil => simp
  | cons operation rest ih =>
    -- One passes over what fails at once, the other drops it from the attempts afterwards.
    rw [List.filterMapM_cons, List.mapM_cons, methodOrReport_eq, ih]
    simp only [map_bind, bind_map_left, map_pure]
    refine bind_congr fun attempt => ?_
    cases made : attempt.method? with
    | none =>
      simp only [List.filterMap_cons, made]
      rw [map_eq_pure_bind]
    | some method => simp only [List.filterMap_cons, made]

mutual

/-- A client is the same whether its attempts are recorded or not. -/
theorem clientOf_eq (isRoot : Bool) (name : String) : (tree : ClientTree) →
    context.clientOf isRoot name tree = Prod.fst <$> context.recordedClientOf isRoot name tree
  | .node container groups => by
    unfold clientOf recordedClientOf
    -- Step by step they are the same, with the records carried along on one side.
    simp only [clientsOf_eq groups, methodsOf_eq, map_bind, bind_map_left, map_pure]

/-- Clients are the same whether their attempts are recorded or not. -/
theorem clientsOf_eq : (trees : List ClientTree) →
    context.clientsOf trees = Prod.fst <$> context.recordedClientsOf trees
  | [] => by
    unfold clientsOf recordedClientsOf
    rw [map_pure]
  | group :: rest => by
    unfold clientsOf recordedClientsOf
    -- The first client with its records, and those after it with theirs.
    simp only [clientOf_eq false _ group, clientsOf_eq rest, map_bind, bind_map_left, map_pure]

end

/-- Steps on a list may be mapped one by one or all at once. -/
theorem mapM_map {α β γ : Type} (f : β → γ) (step : α → Derive β) (list : List α) :
    list.mapM (fun entry => f <$> step entry) = List.map f <$> list.mapM step := by
  induction list with
  | nil => simp
  | cons entry rest ih =>
    -- The result of the first step is mapped before or after the others are taken.
    simp only [List.mapM_cons, ih, map_bind, bind_map_left, map_pure, List.map_cons]

/-- The clients of a recorded run are those of the run itself. -/
theorem clients_eq : context.clients = Prod.fst <$> context.recordedClients := by
  -- The record is written beside the run and never read by it, so to forget it afterwards is to
  -- have done without.
  unfold clients recordedClients rootClient
  simp only [clientOf_eq, mapM_map, map_bind, bind_map_left, map_pure]

/-- A method that fails for a reason of its own is reported, and those after it are derived. -/
theorem methodsOf_cons_error {container : ContainerId} {operation : OperationId}
    {rest : List OperationId} {state next : State} {failure : Failure}
    (run : context.method operation container state = (.error failure, next))
    (structural : failure.endsRun = false) :
    context.methodsOf container (operation :: rest) state =
      context.methodsOf container rest
        { next with diagnostics := next.diagnostics.add failure.diagnostic } := by
  have left : context.methodOrReport container operation state =
      (.ok none, { next with diagnostics := next.diagnostics.add failure.diagnostic }) := by
    unfold methodOrReport
    -- The failure is held, and the run goes on from where it happened.
    rw [bind_ok (attempt_run run)]
    dsimp only
    rw [if_neg (by simp [structural])]
    rfl
  unfold methodsOf
  rw [List.filterMapM_cons, bind_ok left]

end Context

/-! ## What records tell -/

/-- Whatever came of an attempt is in the package, or was reported. -/
structure Attempt.IsTold (attempt : Attempt) (state : State) : Prop where
  origin : ∀ method, attempt.outcome = .ok method → method.origin = some attempt.operation
  structural : ∀ failure, attempt.outcome = .error failure → failure.endsRun = false
  reported : ∀ failure, attempt.outcome = .error failure →
    failure.diagnostic ∈ state.diagnostics.reports

/-- What is told of an attempt lasts. -/
theorem Attempt.isTold_lasting (attempt : Attempt) : Lasting attempt.IsTold :=
  -- What is told of origin and structure is in the attempt itself; only the report is in the state.
  fun _ _ told grown => ⟨told.origin, told.structural, fun failure fails =>
    grown.reports _ (told.reported failure fails)⟩

/-- A record holds one attempt for each operation of the client, and the methods that came of it. -/
structure Record.IsTold (context : Context) (record : Record) (state : State) : Prop where
  operations : record.attempts.map Attempt.operation = context.operationsOf record.client.origin
  methods : record.client.methods.filter (·.origin.isSome) =
    record.attempts.filterMap Attempt.method?
  attempts : ∀ attempt ∈ record.attempts, attempt.IsTold state

/-- There is a record of each client, and the clients are made of the given containers. -/
structure AreRecorded (context : Context) (containers : List ContainerId) (clients : List Client)
    (records : List Record) (state : State) : Prop where
  origins : clients.map Client.origin = containers
  clients : records.map Record.client = clients
  told : ∀ record ∈ records, record.IsTold context state

namespace AreRecorded

variable {context : Context} {containers others : List ContainerId} {clients more : List Client}
  {records later : List Record} {state : State}

/-- That clients are recorded lasts. -/
theorem lasting (containers : List ContainerId) (clients : List Client) (records : List Record) :
    Lasting (AreRecorded context containers clients records) :=
  -- Origins and clients are lists that were made once, so only what attempts report can depend on
  -- the state.
  fun before after recorded grown => ⟨recorded.origins, recorded.clients, fun record member =>
    have told := recorded.told record member
    ⟨told.operations, told.methods, fun attempt listed =>
      attempt.isTold_lasting before after (told.attempts attempt listed) grown⟩⟩

/-- Records of two lists of clients are those of both lists in a row. -/
theorem append (first : AreRecorded context containers clients records state)
    (second : AreRecorded context others more later state) :
    AreRecorded context (containers ++ others) (clients ++ more) (records ++ later) state where
  origins := by rw [List.map_append, first.origins, second.origins]
  clients := by rw [List.map_append, first.clients, second.clients]
  told record member := by
    rcases List.mem_append.mp member with early | late
    · exact first.told record early
    · exact second.told record late

end AreRecorded

namespace Context

variable {context : Context}

/-- A method is built for the operation that it was asked for. -/
theorem buildMethod_origin (operation : OperationId) (client : ContainerId) :
    Yields (context.buildMethod operation client) fun method _ =>
      method.origin = some operation := by
  unfold buildMethod
  -- Whatever comes before, the method names its operation in each of its kinds.
  refine Yields.after fun parameters => Yields.after fun http => Yields.after fun response => ?_
  refine Yields.after fun current => ?_
  dsimp only
  split
  · exact Yields.after fun progress => Yields.pure fun _ => rfl
  · exact Yields.after fun progress => Yields.pure fun _ => rfl

/-- What is told of the methods of an operation is told of methods by the operation. -/
theorem method_of_origin {told : OperationId → Method → State → Prop} {operation : OperationId}
    {client : ContainerId} (each : Yields (context.method operation client) (told operation)) :
    Yields (context.method operation client) fun method state =>
      ∀ origin, method.origin = some origin → told origin method state := by
  -- The method was made for this operation, so that no other one is its origin.
  have origin : Yields (context.method operation client) fun method _ =>
      method.origin = some operation :=
    method_told (buildMethod_origin operation client) fun _ _ _ same => same
  refine (origin.both each).ending ?_
  rintro method state ⟨isOrigin, holds⟩ other isOther
  obtain rfl := Option.some.inj (isOrigin.symm.trans isOther)
  exact holds

/-- An attempt is about its operation, and a failure that does not end the run is reported. -/
theorem attemptMethod_isTold (container : ContainerId) (operation : OperationId) :
    Yields (context.attemptMethod container operation) fun attempt state =>
      attempt.operation = operation ∧ attempt.IsTold state := by
  unfold attemptMethod
  -- That a method is of its operation is known already of the method that is built.
  have origin : Yields (context.method operation container) fun method _ =>
      method.origin = some operation :=
    method_told (buildMethod_origin operation container) fun _ _ _ same => same
  refine Ensures.bind origin.attempt fun outcome => ?_
  cases outcome with
  | ok method =>
    refine Ensures.pure fun state isOrigin => ⟨rfl, fun other same => ?_, nofun, nofun⟩
    cases same
    exact isOrigin method rfl
  | error failure =>
    dsimp only
    split
    · -- A fault of the derivation ends the run, so that no attempt is left to tell of.
      exact Ensures.throw fun _ _ => trivial
    · rename_i goesOn
      -- The report comes last of all that was reported so far.
      have reports : Yields (report failure.diagnostic) fun _ state =>
          failure.diagnostic ∈ state.diagnostics.reports := by
        generalize failure.diagnostic = diagnostic
        exact Ensures.modify fun state _ => List.mem_append_right _ (List.mem_singleton_self _)
      refine Ensures.bind (reports.starting fun _ _ => trivial) fun _ => Ensures.pure ?_
      refine fun state reported => ⟨rfl, ?_, ?_, ?_⟩
      · intro method isOk
        cases isOk
      · intro other same
        cases same
        simpa using goesOn
      · intro other same
        cases same
        exact reported

/-- What a step keeps does not depend on what is made of its value. -/
theorem keeps_of_map {α β : Type} {kept : State → Prop} {allowed : Failure → Prop} {f : α → β}
    {step : Derive α} (keeps : Keeps kept allowed (f <$> step)) : Keeps kept allowed step := by
  intro state start
  -- Both runs end in the same state, whether they succeed or fail.
  have told := keeps state start
  rw [map_eq_pure_bind] at told
  match run : (step state : Except Failure α × State) with
  | (.ok value, next) =>
    rw [bind_ok run] at told
    exact told
  | (.error failure, next) =>
    rw [bind_error run] at told
    exact told

/-- An attempt only adds to what is known. -/
theorem attemptMethod_grows (container : ContainerId) (operation : OperationId) (start : State) :
    Keeps (Grown start) (fun _ => True) (context.attemptMethod container operation) := by
  -- With the records left out, this is a step of the run, of which it is known.
  refine keeps_of_map (f := Attempt.method?) ?_
  rw [← methodOrReport_eq]
  exact (Grown.robust context start).stable.methodOrReport trivial operation

/-- Recording clients only adds to what is known. -/
theorem recordedClientsOf_grows (trees : List ClientTree) (start : State) :
    Keeps (Grown start) (fun _ => True) (context.recordedClientsOf trees) := by
  -- Again the records do not matter.
  refine keeps_of_map (f := Prod.fst) ?_
  rw [← clientsOf_eq]
  exact (Grown.robust context start).stable.clientsOf trees fun _ _ => trivial

/-- Of the methods of a client, those of operations are the ones that came of its attempts. -/
theorem filter_methods {attempts : List Attempt} {state : State}
    (told : ∀ attempt ∈ attempts, attempt.IsTold state) {crossId : String}
    {apiVersions : List String} (children : List Client) :
    (attempts.filterMap Attempt.method? ++
      children.map (accessor crossId apiVersions)).filter (·.origin.isSome) =
        attempts.filterMap Attempt.method? := by
  -- Methods that came of attempts have the operation as their origin.
  have served : (attempts.filterMap Attempt.method?).filter (·.origin.isSome) =
      attempts.filterMap Attempt.method? := by
    refine List.filter_eq_self.mpr fun method listed => ?_
    obtain ⟨attempt, member, made⟩ := List.mem_filterMap.mp listed
    rw [(told attempt member).origin method (Attempt.method?_eq_some_iff.mp made)]
    rfl
  -- An accessor is no method of an operation.
  have others : (children.map (accessor crossId apiVersions)).filter (·.origin.isSome) = [] := by
    rw [List.filter_eq_nil_iff]
    intro method listed
    obtain ⟨child, _, rfl⟩ := List.mem_map.mp listed
    simp [accessor]
  rw [List.filter_append, served, others, List.append_nil]

/-- Attempts that were made one for each operation are as many, and all are told of. -/
theorem attempts_of_forall₂ {operations : List OperationId} {attempts : List Attempt}
    {state : State} (each : List.Forall₂ (fun operation attempt =>
      attempt.operation = operation ∧ attempt.IsTold state) operations attempts) :
    attempts.map Attempt.operation = operations ∧ ∀ attempt ∈ attempts, attempt.IsTold state := by
  -- By induction on the operations, each with its attempt.
  induction each with
  | nil => simp
  | cons first _ ih =>
    refine ⟨by rw [List.map_cons, first.1, ih.1], fun attempt member => ?_⟩
    rcases List.mem_cons.mp member with rfl | later
    · exact first.2
    · exact ih.2 attempt later

mutual

/-- The records of a client and its sub-clients are about the containers of its tree. -/
theorem recordedClientOf_areRecorded (isRoot : Bool) (name : String) : (tree : ClientTree) →
    Yields (context.recordedClientOf isRoot name tree) fun result =>
      AreRecorded context tree.containers result.1.walk result.2
  | .node container groups => by
    unfold recordedClientOf
    refine Yields.after fun ways => Yields.after fun custom => ?_
    refine Ensures.bind (recordedClientsOf_areRecorded groups) fun below => ?_
    -- The records of sub-clients stay as they are while the methods beside them are attempted.
    have lasting := @AreRecorded.lasting context (ClientTree.containersAll groups)
      (Client.walkAll below.1) below.2
    have each (operation : OperationId) := (@attemptMethod_isTold context container
      operation).beside lasting (attemptMethod_grows container operation)
    refine Ensures.bind (Ensures.mapM_lasting (fun operation attempt before after told grown =>
        ⟨told.1, attempt.isTold_lasting before after told.2 grown⟩)
      (fun operation => attemptMethod_grows container operation) each _) fun attempts => ?_
    -- Both the records below and the attempts here last until the client is made.
    have both : Lasting fun state =>
        AreRecorded context (ClientTree.containersAll groups) (Client.walkAll below.1) below.2
            state ∧
          List.Forall₂ (fun operation attempt => attempt.operation = operation ∧
            attempt.IsTold state) (context.operationsOf container) attempts := by
      rintro before after ⟨others, own⟩ grown
      refine ⟨lasting before after others grown, own.imp ?_⟩
      rintro operation attempt ⟨same, told⟩
      exact ⟨same, attempt.isTold_lasting before after told grown⟩
    refine Keeps.told ((both.robust context).stable.initializationParameters container below.1
      custom) fun parameters => Ensures.pure ?_
    rintro state ⟨others, own⟩
    obtain ⟨operations, told⟩ := attempts_of_forall₂ own
    refine ⟨?_, ?_, ?_⟩
    · simp only [Client.walk, List.map_cons, others.origins, ClientTree.containers]
    · simp only [Client.walk, List.map_cons, others.clients]
    · intro record member
      rcases List.mem_cons.mp member with rfl | listed
      · exact ⟨operations, filter_methods told _, told⟩
      · exact others.told record listed

/-- The records of sub-clients are about the containers of their trees. -/
theorem recordedClientsOf_areRecorded : (trees : List ClientTree) →
    Yields (context.recordedClientsOf trees) fun result =>
      AreRecorded context (ClientTree.containersAll trees) (Client.walkAll result.1) result.2
  | [] => by
    unfold recordedClientsOf
    exact Yields.pure fun _ => ⟨rfl, rfl, by simp⟩
  | group :: rest => by
    unfold recordedClientsOf
    refine Ensures.bind (recordedClientOf_areRecorded false _ group) fun first => ?_
    -- The records of the first group last while the other groups are met.
    refine Ensures.bind ((recordedClientsOf_areRecorded rest).beside
      (AreRecorded.lasting group.containers first.1.walk first.2)
      (recordedClientsOf_grows rest)) fun others => Ensures.pure ?_
    rintro state ⟨one, many⟩
    exact one.append many

end

/-- There is a record of each client of a run, one root after the other. -/
theorem recordedClients_areRecorded : Yields context.recordedClients fun result state =>
    ∃ parts : List (Client × List Record),
      result = (parts.map Prod.fst, parts.flatMap Prod.snd) ∧
      List.Forall₂ (fun root part => AreRecorded context
          (context.clientTree root.container).containers part.1.walk part.2 state)
        (rootClients context.definition context.choices) parts := by
  unfold recordedClients
  have lasts (root : RootClient) (part : Client × List Record) :=
    @AreRecorded.lasting context (context.clientTree root.container).containers part.1.walk part.2
  -- That the recorded run grows is known from the run without records.
  have grows (root : RootClient) (start : State) : Keeps (Grown start) (fun _ => True)
      (context.recordedClientOf true (context.rootName root)
        (context.clientTree root.container)) := by
    refine keeps_of_map (f := Prod.fst) ?_
    rw [← clientOf_eq]
    exact (Grown.robust context start).stable.clientOf true _ _ fun _ _ => trivial
  have each (root : RootClient) := @recordedClientOf_areRecorded context true
    (context.rootName root) (context.clientTree root.container)
  refine Ensures.bind (Yields.mapM_forall₂ lasts grows each _) fun parts => ?_
  have lasting := LastsAlong.forall₂ lasts (rootClients context.definition context.choices) parts
  -- Orphan types come last, and change no record.
  refine Keeps.told (Lasting.robust lasting context).stable.orphans fun _ => Ensures.pure ?_
  exact fun state recorded => ⟨parts, rfl, recorded⟩

/-- The records of all roots are those of all clients. -/
theorem areRecorded_of_forall₂ {roots : List RootClient} {parts : List (Client × List Record)}
    {state : State} (each : List.Forall₂ (fun root part => AreRecorded context
      (context.clientTree root.container).containers part.1.walk part.2 state) roots parts) :
    AreRecorded context
      ((roots.map RootClient.container).flatMap fun root => (context.clientTree root).containers)
      (Client.walkAll (parts.map Prod.fst)) (parts.flatMap Prod.snd) state := by
  -- By induction on the roots: the records of one root go before those of the next.
  induction each with
  | nil => exact ⟨rfl, rfl, by simp⟩
  | cons first _ ih => exact first.append ih

/-- Every record is about a client below that of a root. -/
theorem root_of_record {roots : List RootClient} {parts : List (Client × List Record)}
    {state : State} (each : List.Forall₂ (fun root part => AreRecorded context
      (context.clientTree root.container).containers part.1.walk part.2 state) roots parts)
    {record : Record} (listed : record ∈ parts.flatMap Prod.snd) :
    ∃ root ∈ roots, ∃ client ∈ parts.map Prod.fst, client.origin = root.container ∧
      record.client ∈ client.walk ∧
      record.client.origin ∈ (context.clientTree root.container).containers := by
  -- By induction on the roots: the record is of the first one or of a later one.
  induction each with
  | nil => cases listed
  | @cons root part _ _ first _ ih =>
    rw [List.flatMap_cons, List.mem_append] at listed
    rcases listed with here | later
    · -- The record is about a client below the first root.
      have inWalk : record.client ∈ part.1.walk := by
        rw [← first.clients]
        exact List.mem_map_of_mem here
      refine ⟨root, List.mem_cons_self, part.1, List.mem_cons_self, ?_, inWalk, ?_⟩
      · -- The first client of a walk is the one that it starts from.
        have origins := first.origins
        rw [ClientTree.containers_eq] at origins
        cases whole : part.1 with
        | mk =>
          rw [whole, Client.walk, List.map_cons] at origins
          have same := (List.cons.inj origins).1
          rw [clientTree, container_clientTreeWithin] at same
          exact same
      · rw [← first.origins]
        exact List.mem_map_of_mem inWalk
    · obtain ⟨other, isRoot, client, isClient, told⟩ := ih later
      exact ⟨other, List.mem_cons_of_mem _ isRoot, client, List.mem_cons_of_mem _ isClient, told⟩

end Context

end ClientModel.Derivation
