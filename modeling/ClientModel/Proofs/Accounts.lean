import ClientModel.Proofs.Attempts

/-!
Every operation comes to one client, and to one end.

The tree of clients and the operations of each of them are settled before a run starts. What a run
adds is one attempt for each of these operations, of which a method or a report is left.
-/

namespace ClientModel.Derivation

open Service (Definition Draft)

variable {context : Context}

/-! ## Failed runs -/

/-- A run only fails for a fault of the derivation itself. -/
theorem endsRun_of_error {definition : Definition} {options : Options} {failure : Failure}
    (fails : derivePackage definition options = .error failure) : failure.endsRun = true := by
  -- Of the states nothing is told; what counts is that no step of a run allows other failures.
  have ends := (Robust.anything (Context.of definition options)).stable.clients
    fun _ _ _ _ => trivial
  unfold derivePackage at fails
  dsimp only at fails
  cases run : (Context.of definition options).clients.run {} with
  | mk outcome state =>
    rw [run] at fails
    cases outcome with
    | ok clients => cases fails
    | error reason =>
      cases fails
      exact (ends.error trivial run).1

/-! ## Reports -/

/-- What was reported once or more often is in the package once. -/
theorem count_diagnostics {state : State} {clients : List Client} {report : Diagnostic}
    (reported : report ∈ state.diagnostics.reports) :
    (state.package context clients).diagnostics.count report = 1 := by
  have conflicts (others : List Diagnostic) (diagnostics : Diagnostics)
      (there : report ∈ diagnostics.reports) :
      report ∈ (others.foldl Diagnostics.add diagnostics).reports := by
    induction others generalizing diagnostics with
    | nil => exact there
    | cons other others ih => exact ih _ (List.mem_append_left _ there)
  -- Repetitions are left out at the very end.
  refine List.count_eq_one_of_mem (nodup_foldl_new List.nodup_nil _) ?_
  exact (mem_foldl_new _ _ _).mpr (Or.inr (conflicts _ _ reported))

/-! ## Methods -/

/-- The methods of an operation are what came of its attempt. -/
theorem filter_origin {attempts : List Attempt} {state : State}
    (told : ∀ attempt ∈ attempts, attempt.IsTold state)
    (once : (attempts.map Attempt.operation).Nodup) {attempt : Attempt}
    (member : attempt ∈ attempts) :
    (attempts.filterMap Attempt.method?).filter (·.origin = some attempt.operation) =
      attempt.method?.toList := by
  induction attempts with
  | nil => cases member
  | cons first rest ih =>
    -- The attempt is the first one or a later one, and the first is about one operation alone.
    obtain ⟨alone, others⟩ := List.nodup_cons.mp once
    have later : ∀ other ∈ rest, other.IsTold state :=
      fun other listed => told other (List.mem_cons_of_mem _ listed)
    have split : (first :: rest).filterMap Attempt.method? =
        first.method?.toList ++ rest.filterMap Attempt.method? := by
      rw [List.filterMap_cons]
      cases first.method? <;> rfl
    -- Its own method counts if it is about the operation asked for.
    have own : first.method?.toList.filter (·.origin = some attempt.operation) =
        if first.operation = attempt.operation then first.method?.toList else [] := by
      cases made : first.method? with
      | none => simp
      | some method =>
        have isOrigin := (told first List.mem_cons_self).origin method
          (Attempt.method?_eq_some_iff.mp made)
        by_cases same : first.operation = attempt.operation
        · simp [isOrigin, same]
        · simp [isOrigin, same]
    rw [split, List.filter_append, own]
    rcases List.mem_cons.mp member with rfl | listed
    · -- No other attempt is about the same operation.
      have none : (rest.filterMap Attempt.method?).filter (·.origin = some attempt.operation) =
          [] := by
        rw [List.filter_eq_nil_iff]
        intro method inRest isOrigin
        obtain ⟨other, isOther, made⟩ := List.mem_filterMap.mp inRest
        have same := (later other isOther).origin method (Attempt.method?_eq_some_iff.mp made)
        rw [decide_eq_true_eq, same] at isOrigin
        rw [← Option.some.inj isOrigin] at alone
        exact alone (List.mem_map_of_mem isOther)
      rw [if_pos rfl, none, List.append_nil]
    · -- The attempt is a later one, so that the first is about another operation.
      have apart : first.operation ≠ attempt.operation := by
        intro same
        rw [same] at alone
        exact alone (List.mem_map_of_mem listed)
      rw [if_neg apart, List.nil_append]
      exact ih later others listed

/-! ## Accounts -/

/-- A package accounts for all operations by the records of the run that it comes from. -/
structure Accounts (context : Context) (package : Package) (records : List Record) : Prop where
  /-- There is a record of every client. -/
  clients : records.map Record.client = Client.walkAll package.clients
  /-- No container becomes two clients. -/
  origins_nodup : ((Client.walkAll package.clients).map Client.origin).Nodup
  /-- Every client is in the tree of the nearest root of its container. -/
  rooted : ∀ record ∈ records, ∃ root ∈ package.clients,
    context.nearestRoot? record.client.origin = some root.origin ∧ record.client ∈ root.walk
  /-- No operation is attempted twice. -/
  once : ((records.flatMap Record.attempts).map Attempt.operation).Nodup
  /--
  An operation is attempted for the client of a container just if it is available, goes to this
  container, and the container has a root around it.
  -/
  attempted : ∀ operation container,
    (∃ record ∈ records, record.client.origin = container ∧
      operation ∈ record.attempts.map Attempt.operation) ↔
    context.definition.HasOperation operation ∧ context.isAvailable operation = true ∧
      context.placeOf operation = container ∧ (context.nearestRoot? container).isSome = true
  /-- Of an attempt that succeeds, there is one method. -/
  ok : ∀ record ∈ records, ∀ attempt ∈ record.attempts, ∀ method,
    attempt.outcome = .ok method →
      record.client.methods.filter (·.origin = some attempt.operation) = [method]
  /-- Of an attempt that fails, there is one report and no method. -/
  error : ∀ record ∈ records, ∀ attempt ∈ record.attempts, ∀ failure,
    attempt.outcome = .error failure →
      failure.endsRun = false ∧ package.diagnostics.count failure.diagnostic = 1 ∧
        record.client.methods.filter (·.origin = some attempt.operation) = []
  /-- No other operation has a method. -/
  only : ∀ client ∈ Client.walkAll package.clients, ∀ method ∈ client.methods, ∀ operation,
    method.origin = some operation →
      ∃ record ∈ records, record.client = client ∧
        ∃ attempt ∈ record.attempts, attempt.operation = operation ∧ attempt.outcome = .ok method

section

variable {clients : List Client} {records : List Record} {state : State} (sound : context.IsSound)
  (recorded : AreRecorded context
    (context.roots.flatMap fun root => (context.clientTree root).containers)
    (Client.walkAll clients) records state)
include sound recorded

/-- Clients of a run have different containers. -/
theorem origins_nodup_of_recorded : ((Client.walkAll clients).map Client.origin).Nodup := by
  -- They are the containers of the trees of all roots, which have none in common.
  rw [recorded.origins]
  exact Context.allContainers_nodup sound

/-- Clients have different containers, and an operation goes to one of them at most. -/
theorem once_of_recorded : ((records.flatMap Record.attempts).map Attempt.operation).Nodup := by
  rw [List.map_flatMap]
  -- An operation may repeat within a record or across two of them.
  refine List.nodup_flatMap.mpr ⟨fun record listed => ?_, ?_⟩
  · rw [(recorded.told record listed).operations]
    exact sound.operationsOf_nodup _
  · -- An operation goes to one container, and no two records are about the same one.
    have distinct := origins_nodup_of_recorded sound recorded
    rw [← recorded.clients, List.map_map] at distinct
    refine List.Pairwise.imp_of_mem ?_ (List.pairwise_map.mp distinct)
    intro left right isLeft isRight apart operation inLeft inRight
    dsimp only at inLeft inRight
    rw [(recorded.told left isLeft).operations, sound.mem_operationsOf] at inLeft
    rw [(recorded.told right isRight).operations, sound.mem_operationsOf] at inRight
    exact apart (inLeft.2.2.symm.trans inRight.2.2)

/-- The operations that are attempted for a client are those that go to its container. -/
theorem attempted_iff_of_recorded (operation : OperationId) (container : ContainerId) :
    (∃ record ∈ records, record.client.origin = container ∧
        operation ∈ record.attempts.map Attempt.operation) ↔
      context.definition.HasOperation operation ∧ context.isAvailable operation = true ∧
        context.placeOf operation = container ∧
          (context.nearestRoot? container).isSome = true := by
  have origins : records.map (Client.origin ∘ Record.client) =
      context.roots.flatMap fun root => (context.clientTree root).containers := by
    rw [← List.map_map, recorded.clients, recorded.origins]
  constructor
  · -- A record tells the operations of its client, and its container is in the tree of a root.
    rintro ⟨record, listed, rfl, isAttempted⟩
    rw [(recorded.told record listed).operations, sound.mem_operationsOf] at isAttempted
    have inTree : record.client.origin ∈
        records.map (Client.origin ∘ Record.client) := List.mem_map_of_mem listed
    rw [origins, List.mem_flatMap] at inTree
    obtain ⟨root, isRoot, inTree⟩ := inTree
    -- What is in the tree of a root has it as its nearest one.
    have nearest := (Context.nearestRoot?_eq_some_iff sound.linked).mpr
      ⟨isRoot, Context.isBelow_of_mem sound.linked inTree⟩
    exact ⟨isAttempted.1, isAttempted.2.1, isAttempted.2.2, by rw [nearest]; rfl⟩
  · rintro ⟨has, available, place, hasRoot⟩
    obtain ⟨root, nearest⟩ := Option.isSome_iff_exists.mp hasRoot
    have goes : operation ∈ context.operationsOf container :=
      sound.mem_operationsOf.mpr ⟨has, available, place⟩
    -- A container with operations is in the tree of its root, and has a record for that.
    have isRoot := ((Context.nearestRoot?_eq_some_iff sound.linked).mp nearest).1
    have inTree := (Context.mem_clientTree_iff sound.linked isRoot
      (List.ne_nil_of_mem goes)).mpr nearest
    have isOrigin : container ∈ records.map (Client.origin ∘ Record.client) := by
      rw [origins]
      exact List.mem_flatMap.mpr ⟨root, isRoot, inTree⟩
    obtain ⟨record, listed, same⟩ := List.mem_map.mp isOrigin
    refine ⟨record, listed, same, ?_⟩
    rw [(recorded.told record listed).operations]
    have origin : record.client.origin = container := same
    rw [origin]
    exact goes

/-- The methods of an operation that was attempted are what came of the attempt. -/
theorem filter_methods_of_recorded {record : Record} (listed : record ∈ records)
    {attempt : Attempt} (isAttempt : attempt ∈ record.attempts) :
    record.client.methods.filter (·.origin = some attempt.operation) = attempt.method?.toList := by
  have told := recorded.told record listed
  have once : (record.attempts.map Attempt.operation).Nodup := by
    rw [told.operations]
    exact sound.operationsOf_nodup _
  -- The methods of one operation are among those of operations, which leaves accessors out.
  rw [← filter_origin told.attempts once isAttempt, ← told.methods, List.filter_filter]
  refine List.filter_congr fun method _ => ?_
  cases method.origin <;> simp

omit sound in
/-- Every method with an operation came of an attempt, in the record of its client. -/
theorem only_of_recorded {client : Client} (inWalk : client ∈ Client.walkAll clients)
    {method : Method} (listed : method ∈ client.methods) {operation : OperationId}
    (isOrigin : method.origin = some operation) :
    ∃ record ∈ records, record.client = client ∧
      ∃ attempt ∈ record.attempts, attempt.operation = operation ∧
        attempt.outcome = .ok method := by
  -- Clients and records correspond, so that the method is looked for in the record of its client.
  rw [← recorded.clients] at inWalk
  obtain ⟨record, isRecord, rfl⟩ := List.mem_map.mp inWalk
  have told := recorded.told record isRecord
  -- It is no accessor, which leaves what came of an attempt.
  have served : method ∈ record.attempts.filterMap Attempt.method? := by
    rw [← told.methods, List.mem_filter]
    exact ⟨listed, by simp [isOrigin]⟩
  obtain ⟨attempt, isAttempt, made⟩ := List.mem_filterMap.mp served
  have isOk := Attempt.method?_eq_some_iff.mp made
  refine ⟨record, isRecord, rfl, attempt, isAttempt, ?_, isOk⟩
  have same := (told.attempts attempt isAttempt).origin method isOk
  exact Option.some.inj (same.symm.trans isOrigin)

end

/-- The records of a run that ends well account for all operations. -/
theorem accounts_of_run (sound : context.IsSound) {clients : List Client} {records : List Record}
    {state : State} (run : context.recordedClients {} = (.ok (clients, records), state)) :
    Accounts context (state.package context clients) records := by
  -- The run comes with records root by root, which are put in a row here.
  obtain ⟨parts, same, each⟩ := Context.recordedClients_areRecorded.ok trivial run
  obtain ⟨rfl, rfl⟩ := Prod.mk.inj same
  have recorded := Context.areRecorded_of_forall₂ each
  rw [← sound.roots_eq] at recorded
  refine
    { clients := recorded.clients
      origins_nodup := origins_nodup_of_recorded sound recorded
      rooted := ?rooted
      once := once_of_recorded sound recorded
      attempted := attempted_iff_of_recorded sound recorded
      ok := ?ok
      error := ?error
      only := fun client inWalk method listed operation => only_of_recorded recorded inWalk listed }
  case rooted =>
    intro record listed
    -- The tree that a record comes from tells which root is the nearest.
    obtain ⟨root, isRoot, client, isClient, same, inWalk, inTree⟩ :=
      Context.root_of_record each listed
    refine ⟨client, isClient, ?_, inWalk⟩
    rw [Context.nearestRoot?_eq_some_iff sound.linked, same]
    refine ⟨?_, Context.isBelow_of_mem sound.linked inTree⟩
    rw [sound.roots_eq]
    exact List.mem_map_of_mem isRoot
  case ok =>
    -- The methods of an operation are those of its only attempt.
    intro record listed attempt isAttempt method isOk
    rw [filter_methods_of_recorded sound recorded listed isAttempt,
      Attempt.method?_eq_some_iff.mpr isOk]
    rfl
  case error =>
    intro record listed attempt isAttempt failure fails
    have told := (recorded.told record listed).attempts attempt isAttempt
    refine ⟨told.structural failure fails, count_diagnostics (told.reported failure fails), ?_⟩
    rw [filter_methods_of_recorded sound recorded listed isAttempt, Attempt.method?, fails]
    rfl

/-- A step that a run makes with a record of it ends as it does without. -/
theorem recorded_run {clients : List Client} {state : State}
    (run : context.clients {} = (.ok clients, state)) :
    ∃ records, context.recordedClients {} = (.ok (clients, records), state) := by
  -- Whatever the recorded run comes to, the run itself comes to but for the records.
  rw [Context.clients_eq, map_eq_pure_bind] at run
  match recorded : (context.recordedClients {} :
      Except Failure (List Client × List Record) × State) with
  | (.ok (found, records), next) =>
    rw [bind_ok recorded] at run
    cases run
    exact ⟨records, rfl⟩
  | (.error failure, next) =>
    rw [bind_error recorded] at run
    cases run

/--
Of every service definition that can be constructed, a package accounts for all operations.

Each operation that is available and lies below a root, where it is moved to or else where it is
declared, is attempted once: in the tree of the nearest root, for the client of the container that
it goes to. It comes to one method there, or to one report of its failure. A method that fails for
a reason of its own stops no other, and a run ends early only for a fault of the derivation.
-/
theorem every_operation_is_accounted_for {draft : Draft} (made : draft.IsMade) (options : Options) :
    (Context.of draft.definition options).clients =
        Prod.fst <$> (Context.of draft.definition options).recordedClients ∧
      (∀ package, derivePackage draft.definition options = .ok package →
        ∃ records, (Context.of draft.definition options).recordedClients {} =
            (.ok (package.clients, records), finalState draft.definition options) ∧
          Accounts (Context.of draft.definition options) package records) ∧
      (∀ failure, derivePackage draft.definition options = .error failure →
        failure.endsRun = true) ∧
      ∀ container operation rest state next failure,
        (Context.of draft.definition options).method operation container state =
          (.error failure, next) → failure.endsRun = false →
        (Context.of draft.definition options).methodsOf container (operation :: rest) state =
          (Context.of draft.definition options).methodsOf container rest
            { next with diagnostics := next.diagnostics.add failure.diagnostic } := by
  -- What is recorded is compared with the run, and what stays of a failure is read off a step.
  refine ⟨Context.clients_eq, fun package derived => ?_,
    fun failure fails => endsRun_of_error fails,
    fun container operation rest state next failure run structural =>
      Context.methodsOf_cons_error run structural⟩
  -- A package comes of a run, and what was recorded along it accounts for all operations.
  obtain ⟨clients, run, rfl⟩ := derivePackage_ok derived
  obtain ⟨records, recorded⟩ := recorded_run run
  exact ⟨records, recorded, accounts_of_run (Context.isSound_of made.isLinked options) recorded⟩

/-- A harbour whose ships take over an operation of the docks, and have one that goes nowhere. -/
def harbour : Draft :=
  let steps : Service.Drafting Unit := do
    let root ← Draft.addContainer "Harbour" false none
    Draft.setService root { apiVersions := ["1"] }
    let docks ← Draft.addContainer "Docks" true (some root)
    let ships ← Draft.addContainer "Ships" true (some root)
    let list ← Draft.operation docks "list" .get "/ships"
    Draft.customize fun all => all.setLocation list none ships
    let sail ← Draft.operation ships "sail" .post "/ships"
    let string ← Draft.scalar "string"
    let flag ← Draft.freeProperty "flag" string none
    Draft.addSlot sail { property := flag, location := none }
  (steps.run {}).2

/-- The harbour is constructed by declaration calls. -/
theorem harbour_isMade : harbour.IsMade := by
  -- Each step of the construction is one of the rules, in the same order.
  have root := Draft.IsMade.empty.container "Harbour" false none (by simp)
  have service := root.service ⟨0⟩ fun _ => { apiVersions := ["1"] }
  have docks := service.container "Docks" true (some ⟨0⟩) (by decide +kernel)
  have ships := docks.container "Ships" true (some ⟨0⟩) (by decide +kernel)
  have list := ships.operation ⟨1⟩ "list" .get "/ships" (by decide +kernel)
  have moved := list.location ⟨0⟩ none ⟨2⟩ (by decide +kernel)
  have sail := moved.operation ⟨2⟩ "sail" .post "/ships" (by decide +kernel)
  have string := sail.scalar "string"
  have flag := string.addProperty { name := "flag", type := ⟨0⟩ }
  exact flag.modifyOperation ⟨1⟩ (fun declared =>
    { declared with slots := declared.slots ++ [{ property := ⟨0⟩, location := none }] })
    fun _ => rfl

/-- In the harbour, which has an operation that was moved, all operations are accounted for. -/
theorem every_operation_is_accounted_for_harbour :
    harbour.IsMade ∧ ∃ package records, derivePackage harbour.definition {} = .ok package ∧
      Accounts (Context.of harbour.definition {}) package records := by
  -- The run is evaluated to see that there is a package at all.
  have isOk : (derivePackage harbour.definition {}).isOk = true := by decide +kernel
  obtain ⟨_, accounts, _⟩ := every_operation_is_accounted_for harbour_isMade {}
  cases derived : derivePackage harbour.definition {} with
  | error failure => simp [derived, Except.isOk, Except.toBool] at isOk
  | ok package =>
    obtain ⟨records, _, account⟩ := accounts package derived
    exact ⟨harbour_isMade, package, records, rfl, account⟩

end ClientModel.Derivation
