import ClientModel.Proofs.Polling

/-!
How the parameters of a request find their sources, and what becomes of a method where one does not.

What goes into a request is gathered first. Looking for sources then changes nothing that is known,
so that all parameters draw on one supply, and a method fails with the first one that finds nothing.
-/

namespace ClientModel.Derivation

/-! ## Steps without an effect -/

/-- Two steps that end well have a state between them. -/
theorem bind_eq_ok {α β : Type} {step : Derive α} {next : α → Derive β} {state last : State}
    {value : β} (run : (step >>= next) state = (.ok value, last)) :
    ∃ first between, step state = (.ok first, between) ∧
      next first between = (.ok value, last) := by
  -- A failure of the first step would be that of both.
  match begins : (step state : Except Failure α × State) with
  | (.ok first, between) =>
    rw [bind_ok begins] at run
    exact ⟨first, between, rfl, run⟩
  | (.error failure, between) =>
    rw [bind_error begins] at run
    cases run

/-- Steps that leave the state alone come to what they come to without one. -/
theorem mapM_run {α β : Type} {step : β → Derive α} {result : β → Except Failure α} {state : State}
    (each : ∀ entry, step entry state = (result entry, state)) (list : List β) :
    (list.mapM step) state = (list.mapM result, state) := by
  -- By induction on the list: the state is where it was when the rest begins.
  induction list with
  | nil => rfl
  | cons entry rest ih =>
    rw [List.mapM_cons, List.mapM_cons]
    cases isResult : result entry with
    | error failure =>
      rw [bind_error ((each entry).trans (by rw [isResult]))]
      rfl
    | ok value =>
      rw [bind_ok ((each entry).trans (by rw [isResult]))]
      cases others : rest.mapM result with
      | error failure =>
        rw [bind_error (ih.trans (by rw [others]))]
        rfl
      | ok values =>
        rw [bind_ok (ih.trans (by rw [others]))]
        rfl

/-- An optional step that leaves the state alone comes to what it comes to without one. -/
theorem optionMapM_run {α β : Type} {step : β → Derive α} {result : β → Except Failure α}
    {state : State} (each : ∀ entry, step entry state = (result entry, state))
    (option : Option β) : (option.mapM step) state = (option.mapM result, state) := by
  cases option with
  | none => rfl
  -- There is one entry to look at.
  | some entry =>
    have same := each entry
    rw [Option.mapM_some, Option.mapM_some, map_eq_pure_bind]
    cases isResult : result entry with
    | error failure =>
      rw [bind_error (same.trans (by rw [isResult]))]
      rfl
    | ok value =>
      rw [bind_ok (same.trans (by rw [isResult]))]
      rfl

/-- Either all entries of a list come to a value, or there is a first one that fails. -/
theorem mapM_eq_error_iff {α β : Type} {step : β → Except Failure α} {list : List β}
    {failure : Failure} :
    list.mapM step = .error failure ↔ ∃ before entry after, list = before ++ entry :: after ∧
      (∀ other ∈ before, ∀ reason, step other ≠ .error reason) ∧ step entry = .error failure := by
  -- The first entry either fails itself, or goes before whichever is the first to fail.
  induction list with
  | nil => simp [pure, Except.pure]
  | cons first rest ih =>
    rw [List.mapM_cons]
    cases isFirst : step first with
    | error reason =>
      simp only [bind, Except.bind, Except.error.injEq]
      constructor
      · -- The first entry fails, so that it is the first of all to do so.
        rintro rfl
        exact ⟨[], first, rest, rfl, nofun, isFirst⟩
      · rintro ⟨before, entry, after, same, works, fails⟩
        cases before with
        | nil =>
          obtain ⟨rfl, rfl⟩ := List.cons.inj same
          exact Except.error.inj (isFirst.symm.trans fails)
        | cons other before =>
          obtain ⟨rfl, rfl⟩ := List.cons.inj same
          exact absurd isFirst (works _ List.mem_cons_self reason)
    | ok value =>
      have others : ((do
          let value ← Except.ok value
          let values ← rest.mapM step
          return value :: values) : Except Failure (List α)) = .error failure ↔
          rest.mapM step = .error failure := by
        cases rest.mapM step <;> simp [bind, Except.bind, pure, Except.pure]
      rw [others, ih]
      constructor
      · rintro ⟨before, entry, after, rfl, works, fails⟩
        refine ⟨first :: before, entry, after, rfl, fun other listed => ?_, fails⟩
        rcases List.mem_cons.mp listed with rfl | later
        · simp [isFirst]
        · exact works other later
      · rintro ⟨before, entry, after, same, works, fails⟩
        cases before with
        | nil =>
          obtain ⟨rfl, rfl⟩ := List.cons.inj same
          exact nomatch isFirst.symm.trans fails
        | cons other before =>
          obtain ⟨rfl, rfl⟩ := List.cons.inj same
          exact ⟨before, entry, after, rfl,
            fun other listed => works other (List.mem_cons_of_mem _ listed), fails⟩

/-- A list comes to values just if its entries come to them one by one. -/
theorem mapM_eq_ok_iff {α β : Type} {step : β → Except Failure α} {list : List β}
    {values : List α} :
    list.mapM step = .ok values ↔ List.Forall₂ (fun entry value => step entry = .ok value) list
      values := by
  -- By induction on the list.
  induction list generalizing values with
  | nil => cases values <;> simp [pure, Except.pure]
  | cons first rest ih =>
    rw [List.mapM_cons]
    cases isFirst : step first with
    | error reason => cases values <;> simp [bind, Except.bind, isFirst]
    | ok value =>
      cases others : rest.mapM step with
      | error reason => cases values <;> simp [bind, Except.bind, isFirst, ← ih, others]
      | ok found =>
        cases values <;> simp [bind, Except.bind, pure, Except.pure, isFirst, ← ih, others]

/-- An optional value comes of the entry that there is. -/
theorem optionMapM_eq_ok {α β : Type} {step : β → Except Failure α} {option : Option β}
    {found : Option α} (all : option.mapM step = .ok found) :
    ∀ value ∈ found, ∃ entry ∈ option, step entry = .ok value := by
  cases option with
  | none =>
    cases all
    exact nofun
  | some entry =>
    rw [Option.mapM_some] at all
    cases isResult : step entry with
    | error failure =>
      rw [isResult] at all
      cases all
    | ok value =>
      rw [isResult] at all
      cases all
      intro other isOther
      cases isOther
      exact ⟨entry, rfl, isResult⟩

namespace Context

variable (context : Context)

/-! ## Sources -/

/-- The parameter that supplies the whole of a parameter of a request. -/
def supplier? (client : ContainerId) (supply : Supply) (wanted : Property) : Option Property :=
  (context.clientSupplier? client supply wanted).or
    (supply.methodParameters.find? (context.isSame wanted))

/-- Some parameter, of the client or of the method, is the same as the one wanted. -/
def HasSame (supply : Supply) (wanted : Property) : Prop :=
  ∃ parameter ∈ supply.clientParameters ++ supply.methodParameters,
    context.isSame wanted parameter = true

/-- Every member of the model that a body holds is the same as some parameter; there is one. -/
def CanAssemble (supply : Supply) (wanted : Property) : Prop :=
  bodyMembers supply wanted ≠ [] ∧
    ∀ member ∈ bodyMembers supply wanted, context.HasSame supply member

/-- A parameter of a request finds its sources. -/
inductive Resolves (client : ContainerId) (supply : Supply) (wanted : Property) : Prop where
  /-- A parameter supplies the whole of it. -/
  | whole (supplier : Property) (found : context.supplier? client supply wanted = some supplier)
  /-- It is a body that is put together from parameters for its members. -/
  | assembled (complete : context.CanAssemble supply wanted)
  /-- It is a member of what a method parameter holds. -/
  | held (source : Source) (found : context.holder? supply wanted = some source)

/-- Why a parameter that finds no sources ends the method. -/
def missing (operation : OperationId) (supply : Supply) (wanted : Property) : Failure :=
  let members := bodyMembers supply wanted
  let name := (context.definition.operationAt operation).name
  if members.isEmpty then .noCorrespondingParameter name wanted.serializedName operation
  else .spreadNotResolved name members.length (context.memberSuppliers supply members).length
    operation

section

variable {context} {operation : OperationId} {client : ContainerId} {supply : Supply}
  {wanted : Property}

/-- As many suppliers as members are found just if no member is left without one. -/
theorem length_memberSuppliers_eq_iff {members : List Property} :
    (context.memberSuppliers supply members).length = members.length ↔
      ∀ member ∈ members, context.HasSame supply member := by
  simp only [memberSuppliers, List.filterMap_length_eq_length, List.find?_isSome, HasSame]

/-- The suppliers of members that all have one are the same parameters as the members, in order. -/
theorem memberSuppliers_forall₂ {members : List Property}
    (each : ∀ member ∈ members, context.HasSame supply member) :
    List.Forall₂ (fun member supplier => context.isSame member supplier = true ∧
        supplier ∈ supply.clientParameters ++ supply.methodParameters) members
      (context.memberSuppliers supply members) := by
  -- By induction on the members, each of which has its supplier found.
  induction members with
  | nil => exact .nil
  | cons member rest ih =>
    obtain ⟨supplier, found⟩ := Option.isSome_iff_exists.mp
      (List.find?_isSome.mpr (each member List.mem_cons_self))
    rw [memberSuppliers, List.filterMap_cons, found]
    exact .cons ⟨List.find?_some found, List.mem_of_find?_eq_some found⟩
      (ih fun other listed => each other (List.mem_cons_of_mem _ listed))

/-- A supplier of the whole parameter is its only source. -/
theorem sources_of_supplier {supplier : Property}
    (found : context.supplier? client supply wanted = some supplier) :
    context.sources operation client supply wanted = .ok [.parameter supplier] := by
  -- A supplier is looked for before all else.
  rw [supplier?] at found
  simp only [sources, found]

/-- Without a supplier, a body is put together if all of its members have one. -/
theorem sources_of_assembled (fails : context.supplier? client supply wanted = none)
    (complete : context.CanAssemble supply wanted) :
    context.sources operation client supply wanted =
      .ok ((context.memberSuppliers supply (bodyMembers supply wanted)).map .parameter) := by
  -- As many suppliers as members are found just if each member has one.
  rw [supplier?] at fails
  have counted := length_memberSuppliers_eq_iff.mpr complete.2
  simp [sources, fails, counted, complete.1]

/-- What can be neither supplied nor put together is held by a parameter, or missing. -/
theorem sources_of_incomplete (fails : context.supplier? client supply wanted = none)
    (incomplete : ¬context.CanAssemble supply wanted) :
    context.sources operation client supply wanted =
      match context.holder? supply wanted with
      | some source => .ok [source]
      | none => .error (context.missing operation supply wanted) := by
  rw [supplier?] at fails
  -- Some member has no supplier, so that fewer are found than there are members.
  have counted : ¬(!(bodyMembers supply wanted).isEmpty &&
      (context.memberSuppliers supply (bodyMembers supply wanted)).length ==
        (bodyMembers supply wanted).length) = true := by
    rw [CanAssemble, ← length_memberSuppliers_eq_iff] at incomplete
    simpa using incomplete
  simp only [sources, fails, if_neg counted, missing]
  cases context.holder? supply wanted with
  | some source => rfl
  | none => dsimp only; split <;> rfl

/-- What does not resolve has none of the three kinds of sources. -/
theorem not_resolves_iff :
    ¬context.Resolves client supply wanted ↔
      context.supplier? client supply wanted = none ∧ ¬context.CanAssemble supply wanted ∧
        context.holder? supply wanted = none := by
  constructor
  · -- Each kind of source would be a way to resolve.
    intro lacks
    refine ⟨?_, fun complete => lacks (.assembled complete), ?_⟩
    · by_contra found
      obtain ⟨supplier, isFound⟩ := Option.ne_none_iff_exists'.mp found
      exact lacks (.whole supplier isFound)
    · by_contra found
      obtain ⟨source, isFound⟩ := Option.ne_none_iff_exists'.mp found
      exact lacks (.held source isFound)
  · intro lacks resolves
    obtain ⟨notWhole, incomplete, notHeld⟩ := lacks
    cases resolves with
    | whole supplier found => exact nomatch notWhole.symm.trans found
    | assembled complete => exact incomplete complete
    | held source found => exact nomatch notHeld.symm.trans found

/-- What resolves gets sources, and what does not is missing. -/
theorem sources_eq_error_iff {failure : Failure} :
    context.sources operation client supply wanted = .error failure ↔
      ¬context.Resolves client supply wanted ∧
        failure = context.missing operation supply wanted := by
  rw [not_resolves_iff]
  -- By the first of the three kinds that there is.
  cases found : context.supplier? client supply wanted with
  | some supplier =>
    rw [sources_of_supplier found]
    simp
  | none =>
    by_cases complete : context.CanAssemble supply wanted
    · rw [sources_of_assembled found complete]
      simp [complete]
    · rw [sources_of_incomplete found complete]
      cases holder : context.holder? supply wanted with
      | some source => simp
      | none => simp [complete, eq_comm]

/-- What has no members is missing as a parameter. -/
theorem missing_of_nil (bare : bodyMembers supply wanted = []) :
    context.missing operation supply wanted =
      .noCorrespondingParameter (context.definition.operationAt operation).name
        wanted.serializedName operation := by
  simp [missing, bare]

/-- What has members is missing as a body. -/
theorem missing_of_ne_nil (has : bodyMembers supply wanted ≠ []) :
    context.missing operation supply wanted =
      .spreadNotResolved (context.definition.operationAt operation).name
        (bodyMembers supply wanted).length
        (context.memberSuppliers supply (bodyMembers supply wanted)).length operation := by
  simp [missing, has]

/-- A holder is a parameter whose model has a property that is the same. -/
theorem holder?_isSome_iff :
    (context.holder? supply wanted).isSome ↔ ∃ parameter ∈ supply.methodParameters, ∃ model,
      supply.catalogue.model? parameter.type = some model ∧
        ∃ member ∈ model.properties, context.isSame wanted member = true := by
  rw [holder?, List.findSome?_isSome_iff]
  refine exists_congr fun parameter => and_congr_right fun _ => ?_
  -- A parameter without a model holds nothing.
  cases isModel : supply.catalogue.model? parameter.type with
  | none => simp
  | some model =>
    simp only [Option.bind_eq_bind, Option.bind_some, Option.some.injEq, exists_eq_left',
      ← List.find?_isSome]
    cases model.properties.find? (context.isSame wanted) <;> rfl

/-- There are four ways to find sources. -/
theorem resolves_iff :
    context.Resolves client supply wanted ↔
      (context.clientSupplier? client supply wanted).isSome ∨
        (∃ parameter ∈ supply.methodParameters, context.isSame wanted parameter = true) ∨
        context.CanAssemble supply wanted ∨ (context.holder? supply wanted).isSome := by
  -- A parameter is supplied as a whole by the client or by the method.
  have whole : (context.supplier? client supply wanted).isSome ↔
      (context.clientSupplier? client supply wanted).isSome ∨
        ∃ parameter ∈ supply.methodParameters, context.isSame wanted parameter = true := by
    rw [supplier?, Option.isSome_or, Bool.or_eq_true, List.find?_isSome]
  rw [← or_assoc, ← whole]
  constructor
  · intro resolves
    cases resolves with
    | whole supplier found => exact .inl (Option.isSome_of_eq_some found)
    | assembled complete => exact .inr (.inl complete)
    | held source found => exact .inr (.inr (Option.isSome_of_eq_some found))
  · intro found
    rcases found with whole | complete | held
    · obtain ⟨supplier, found⟩ := Option.isSome_iff_exists.mp whole
      exact .whole supplier found
    · exact .assembled complete
    · obtain ⟨source, found⟩ := Option.isSome_iff_exists.mp held
      exact .held source found

/-- What is missing fails the method alone. -/
theorem missing_structural : (context.missing operation supply wanted).endsRun = false := by
  unfold missing
  dsimp only
  split <;> rfl

end

/-! ## Requests -/

end Context

/-- What goes into the request of a method, before its sources are looked for. -/
structure Request where
  outcomes : Outcomes
  wire : List Property
  body : Option Property
  /-- The parameters of the method, and those for the headers that were added. -/
  parameters : List Property

/-- Everything that a request sends, the body last. -/
def Request.sent (request : Request) : List Property :=
  request.wire ++ request.body.toList

/-- What a run has found so far as a supply for the parameters of a request. -/
def State.supply (state : State) (context : Context) (client : ContainerId)
    (parameters : List Property) : Supply :=
  { clientParameters := state.scopeOf context client
    methodParameters := parameters
    catalogue := state.catalogue }

namespace Context

variable (context : Context)

/-- Gathers what goes into a request; the client takes its share. -/
def gatherRequest (operation : OperationId) (client : ContainerId) (access : Access)
    (parameters : List Property) : Derive Request := do
  let declared := context.definition.operationAt operation
  let outcomes ← context.outcomes operation access
  let wire ← declared.slots.filterMapM (context.slotParameter? operation client access)
  let body ← context.body? operation client access
  let (wire, parameters) ← context.negotiateBody operation body wire parameters
  let (wire, parameters) ← context.negotiateResponses operation outcomes wire parameters
  context.elevateAll client wire
  return { outcomes, wire, body, parameters }

/-- Gathers what goes into the request of a method, and the parameters that the method takes. -/
def gather (operation : OperationId) (client : ContainerId) : Derive Request := do
  let declared := context.definition.operationAt operation
  let access := (context.choices.access? (.operation operation)).getD .everyone
  let parameters ←
    declared.parameters.filterMapM (context.methodParameter? operation client access)
  context.gatherRequest operation client access parameters

/-- The parameters that are left to a method, beside the segments of the path that are sent. -/
def keptParameters (request : Request) : List Property :=
  context.dropUnusedSegments request.wire request.parameters

/-- Finds the sources of a parameter of a request in a supply. -/
def trace (operation : OperationId) (client : ContainerId) (supply : Supply)
    (parameter : Property) : Except Failure WireParameter :=
  (context.sources operation client supply parameter).map fun sources =>
    { property := parameter, sources }

/-- The HTTP operation of a request that all find their sources for in a supply. -/
def traceRequest (operation : OperationId) (client : ContainerId) (supply : Supply)
    (request : Request) : Except Failure (HttpOperation × List Property) := do
  let declared := context.definition.operationAt operation
  let parameters ← request.wire.mapM (context.trace operation client supply)
  let body ← request.body.mapM (context.trace operation client supply)
  return (
    { origin := operation
      verb := declared.verb
      path := declared.path
      parameters
      body
      responses := request.outcomes.successes
      exceptions := request.outcomes.errors },
    supply.methodParameters)

variable {context} {operation : OperationId} {client : ContainerId} {access : Access}
  {parameters : List Property} {state between : State} {request : Request}

/-- Looking for the sources of one parameter changes nothing. -/
theorem traceParameter_run (wanted : Property) :
    context.traceParameter operation client parameters wanted state =
      (context.trace operation client (state.supply context client parameters) wanted, state) := by
  have looked : (get : Derive State) state = (.ok state, state) := rfl
  have inScope : context.parametersInScope client state =
      (.ok (state.scopeOf context client), state) := rfl
  -- Only what is in scope and in the catalogue is looked at.
  unfold traceParameter trace
  rw [bind_ok inScope, bind_ok looked]
  unfold State.supply
  cases context.sources operation client _ wanted <;> rfl

/-- A request is gathered first, and traced then. -/
theorem httpOperation_eq :
    context.httpOperation operation client access parameters = (do
      let request ← context.gatherRequest operation client access parameters
      let declared := context.definition.operationAt operation
      let kept := context.keptParameters request
      let traced ← request.wire.mapM (context.traceParameter operation client kept)
      let body ← request.body.mapM (context.traceParameter operation client kept)
      return (
        { origin := operation
          verb := declared.verb
          path := declared.path
          parameters := traced
          body
          responses := request.outcomes.successes
          exceptions := request.outcomes.errors },
        kept)) := by
  unfold httpOperation gatherRequest keptParameters
  simp only [bind_assoc, pure_bind]

/-- Once a request is gathered, what comes of it depends on the supply alone. -/
theorem httpOperation_run
    (run : context.gatherRequest operation client access parameters state =
      (.ok request, between)) :
    context.httpOperation operation client access parameters state =
      (context.traceRequest operation client
        (between.supply context client (context.keptParameters request)) request, between) := by
  have each (wanted : Property) := @traceParameter_run context operation client
    (context.keptParameters request) between wanted
  have wire := mapM_run each request.wire
  -- Tracing leaves the state alone, so that the supply is the same for whatever is traced.
  rw [httpOperation_eq, bind_ok run]
  unfold traceRequest
  dsimp only
  cases sent : request.wire.mapM (context.trace operation client
      (between.supply context client (context.keptParameters request))) with
  | error failure =>
    rw [bind_error (wire.trans (by rw [sent]))]
    rfl
  | ok traced =>
    rw [bind_ok (wire.trans (by rw [sent]))]
    -- The body comes after the parameters, and is traced with the same supply.
    have body := optionMapM_run each request.body
    cases inBody : request.body.mapM (context.trace operation client
        (between.supply context client (context.keptParameters request))) with
    | error failure =>
      rw [bind_error (body.trans (by rw [inBody]))]
      rfl
    | ok tracedBody =>
      rw [bind_ok (body.trans (by rw [inBody]))]
      rfl

/-- What comes of a request is what comes of tracing what was gathered for it. -/
theorem requestOf_run (run : context.gather operation client state = (.ok request, between)) :
    context.requestOf operation client state =
      (context.traceRequest operation client
        (between.supply context client (context.keptParameters request)) request, between) := by
  -- The first steps are those of gathering, in either form.
  obtain ⟨parameters, taken, takes, gathers⟩ := bind_eq_ok run
  unfold requestOf
  rw [bind_ok takes]
  exact httpOperation_run gathers

/-- An HTTP operation comes of a request that was gathered, all of which found its sources. -/
theorem httpOperation_ok {result : HttpOperation × List Property} {last : State}
    (run : context.httpOperation operation client access parameters state = (.ok result, last)) :
    ∃ request, context.gatherRequest operation client access parameters state =
        (.ok request, last) ∧
      context.traceRequest operation client
        (last.supply context client (context.keptParameters request)) request = .ok result := by
  -- The request is gathered on the way, and nothing changes after that.
  have parts := run
  rw [httpOperation_eq] at parts
  obtain ⟨request, between, gathers, -⟩ := bind_eq_ok parts
  rw [httpOperation_run gathers] at run
  obtain ⟨traces, rfl⟩ := Prod.ext_iff.mp run
  exact ⟨request, gathers, traces⟩

/-- What is traced are the parameters and the body; the responses are as they were gathered. -/
theorem traceRequest_ok {supply : Supply} {result : HttpOperation × List Property}
    (traces : context.traceRequest operation client supply request = .ok result) :
    request.wire.mapM (context.trace operation client supply) = .ok result.1.parameters ∧
      request.body.mapM (context.trace operation client supply) = .ok result.1.body ∧
      result.1.responses = request.outcomes.successes ∧
      result.1.exceptions = request.outcomes.errors ∧ result.2 = supply.methodParameters := by
  unfold traceRequest at traces
  dsimp only at traces
  -- Both must have been traced, or the request would have failed.
  cases wire : request.wire.mapM (context.trace operation client supply) with
  | error failure =>
    rw [wire] at traces
    cases traces
  | ok traced =>
    cases body : request.body.mapM (context.trace operation client supply) with
    | error failure =>
      rw [wire, body] at traces
      cases traces
    | ok tracedBody =>
      rw [wire, body] at traces
      cases traces
      exact ⟨rfl, rfl, rfl, rfl, rfl⟩

/-- What is traced is what is wanted, with the sources that the supply has for it. -/
theorem trace_ok {supply : Supply} {wanted : Property} {wire : WireParameter}
    (traces : context.trace operation client supply wanted = .ok wire) :
    wire.property = wanted ∧
      context.sources operation client supply wanted = .ok wire.sources := by
  unfold trace at traces
  -- Nothing is traced without sources.
  cases found : context.sources operation client supply wanted with
  | error failure =>
    rw [found] at traces
    cases traces
  | ok sources =>
    rw [found] at traces
    cases traces
    exact ⟨rfl, rfl⟩

/-- Whatever goes into a request is traced, and nothing else. -/
theorem properties_of_traceRequest {supply : Supply} {result : HttpOperation × List Property}
    (traces : context.traceRequest operation client supply request = .ok result) :
    result.1.parameters.map WireParameter.property = request.wire := by
  have each := mapM_eq_ok_iff.mp (traceRequest_ok traces).1
  -- Side by side, a parameter that is traced is the one that was wanted.
  rw [← List.forall₂_eq_eq_eq, List.forall₂_map_left_iff]
  exact each.flip.imp fun wire wanted isTraced => (trace_ok isTraced).1

/-- Tracing fails just for what does not resolve, and tells that it is missing. -/
theorem trace_eq_error_iff {supply : Supply} {wanted : Property} {failure : Failure} :
    context.trace operation client supply wanted = .error failure ↔
      ¬context.Resolves client supply wanted ∧
        failure = context.missing operation supply wanted := by
  -- Tracing is to look for sources, and to fail with a failure made for their absence.
  rw [← sources_eq_error_iff, trace]
  cases context.sources operation client supply wanted <;> simp [Except.map]

/-- The body is traced after everything else that is sent. -/
theorem traceRequest_eq_error_iff {supply : Supply} {failure : Failure} :
    context.traceRequest operation client supply request = .error failure ↔
      request.sent.mapM (context.trace operation client supply) = .error failure := by
  unfold traceRequest Request.sent
  dsimp only
  rw [List.mapM_append]
  -- The body comes last, so that it is looked at if nothing before it fails.
  cases request.wire.mapM (context.trace operation client supply) with
  | error reason => simp [bind, Except.bind]
  | ok traced =>
    cases request.body with
    | none => simp [bind, Except.bind, pure, Except.pure]
    | some wanted =>
      cases isTraced : context.trace operation client supply wanted <;>
        simp [bind, Except.bind, pure, Except.pure, Functor.map, Except.map, isTraced]

variable (context) in
/-- Of what a request sends, this is the first parameter that finds no sources in a supply. -/
def IsFirstMissing (client : ContainerId) (supply : Supply) (sent : List Property)
    (wanted : Property) : Prop :=
  ∃ before after, sent = before ++ wanted :: after ∧
    (∀ other ∈ before, context.Resolves client supply other) ∧
    ¬context.Resolves client supply wanted

/-- Once its request is gathered, a method fails with the first parameter without sources. -/
theorem method_error_iff_missing
    (run : context.gather operation client state = (.ok request, between)) {failure : Failure}
    (structural : failure.endsRun = false) :
    (context.method operation client state).1 = .error failure ↔
      ∃ wanted, context.IsFirstMissing client
          (between.supply context client (context.keptParameters request)) request.sent wanted ∧
        failure = context.missing operation
          (between.supply context client (context.keptParameters request)) wanted := by
  rw [method_error_iff operation client state structural, requestOf_run run]
  dsimp only
  rw [traceRequest_eq_error_iff, mapM_eq_error_iff]
  -- The first to fail is the first that does not resolve.
  constructor
  · intro fails
    obtain ⟨before, wanted, after, split, works, fails⟩ := fails
    obtain ⟨lacks, rfl⟩ := trace_eq_error_iff.mp fails
    refine ⟨wanted, ⟨before, after, split, fun other listed => ?_, lacks⟩, rfl⟩
    exact not_not.mp fun lacks => works other listed _ (trace_eq_error_iff.mpr ⟨lacks, rfl⟩)
  · intro missing
    obtain ⟨wanted, ⟨before, after, split, works, lacks⟩, rfl⟩ := missing
    refine ⟨before, wanted, after, split, fun other listed reason fails => ?_,
      trace_eq_error_iff.mpr ⟨lacks, rfl⟩⟩
    exact (trace_eq_error_iff.mp fails).1 (works other listed)

/-- Some of what is sent is the first without sources unless all of it resolves. -/
theorem exists_isFirstMissing {supply : Supply} {sent : List Property} :
    (∃ wanted, context.IsFirstMissing client supply sent wanted) ↔
      ∃ wanted ∈ sent, ¬context.Resolves client supply wanted := by
  constructor
  · intro missing
    obtain ⟨wanted, before, after, rfl, -, lacks⟩ := missing
    exact ⟨wanted, by simp, lacks⟩
  -- By induction on what is sent: whatever resolves goes before the first that does not.
  · induction sent with
    | nil => simp
    | cons first rest ih =>
      intro missing
      obtain ⟨wanted, listed, lacks⟩ := missing
      by_cases resolves : context.Resolves client supply first
      · -- The first one resolves, so that it is in the rest that one is missing.
        have later : wanted ∈ rest := (List.mem_cons.mp listed).resolve_left (by
          rintro rfl
          exact lacks resolves)
        obtain ⟨other, before, after, split, works, fails⟩ := ih ⟨wanted, later, lacks⟩
        exact ⟨other, first :: before, after, by rw [split, List.cons_append],
          List.forall_mem_cons.mpr ⟨resolves, works⟩, fails⟩
      · exact ⟨first, [], rest, rfl, List.forall_mem_nil _, resolves⟩

/-! ## Methods -/

variable (context) in
/-- A parameter is one that an operation declares, and has the name that it is declared with. -/
def IsDeclaredFor (operation : OperationId) (parameter : Property) : Prop :=
  ∃ id ∈ (context.definition.operationAt operation).parameters,
    parameter.origin = some id ∧ parameter.name = (context.definition.propertyAt id).name

/-- A parameter that a method takes was declared for its operation. -/
theorem methodParameter?_isDeclared {id : PropertyId}
    (listed : id ∈ (context.definition.operationAt operation).parameters) :
    Yields (context.methodParameter? operation client access id) fun found _ =>
      ∀ parameter ∈ found, context.IsDeclaredFor operation parameter := by
  have none : Yields (Pure.pure none : Derive (Option Property)) fun found _ =>
      ∀ parameter ∈ found, context.IsDeclaredFor operation parameter :=
    .pure fun _ _ nothing => by cases nothing
  unfold methodParameter?
  dsimp only
  -- Of the branches only the last one hands out a parameter.
  split
  · exact none
  · refine .after fun type => ?_
    split
    · exact .after fun _ => none
    · refine .after fun scope => ?_
      split
      · exact none
      · refine .after fun _ => .pure fun _ parameter same => ?_
        cases same
        exact ⟨id, listed, origin_parameterOf .., name_parameterOf ..⟩

/--
What is told of HTTP operations, and lasts, is told of the methods that they stand behind.

The parameters that a method has before its request is gathered are declared for the operation.
-/
theorem method_of_declared {told : HttpOperation × List Property → State → Prop}
    (lasting : ∀ result, Lasting (told result))
    (each : ∀ access parameters,
      (∀ parameter ∈ parameters, context.IsDeclaredFor operation parameter) →
        Yields (context.httpOperation operation client access parameters) told) :
    Yields (context.method operation client) fun method state =>
      ∀ http, method.operation? = some http → told (http, method.parameters) state := by
  have builds : Yields (context.buildMethod operation client) fun method state =>
      ∀ http, method.operation? = some http → told (http, method.parameters) state := by
    unfold buildMethod
    refine .bind_told (Yields.filterMapM_told _ fun id listed =>
      methodParameter?_isDeclared listed) fun parameters declared => ?_
    refine Ensures.bind (each _ parameters declared) fun result => ?_
    have robust := (lasting result).robust context
    -- Neither the response nor polling changes the operation or the parameters.
    have done {method : Method} (service : ServiceMethod) (pages : Option Paging)
        (progress : Option Polling) (isBuilt : method.kind = methodKind service pages progress)
        (operates : service.operation = result.1) (takes : method.parameters = result.2) :
        Ensures (told result) (Pure.pure method : Derive Method) (fun method state =>
          ∀ http, method.operation? = some http → told (http, method.parameters) state)
          fun _ _ => True := by
      apply Ensures.pure
      intro state holds http behind
      rw [Method.operation?, isBuilt, service?_methodKind, Option.map_some, operates] at behind
      cases behind
      rw [takes]
      exact holds
    -- A method that does not poll is done with its response.
    dsimp only
    refine Keeps.told ((robust.accruing client).methodResponse operation _ _) fun response => ?_
    refine Ensures.look fun current => ?_
    split
    · exact Keeps.told ((robust.accruing client).polling? operation _ _ _) fun progress =>
        done _ _ progress rfl rfl rfl
    · exact done _ _ none rfl rfl rfl
  refine method_yields (fun method before after held grown http behind => ?_) builds
    fun _ _ _ _ held => held
  exact lasting _ before after (held http behind) grown

/-- What is told of requests, whatever parameters they have, is told of methods. -/
theorem method_of_httpOperation {told : HttpOperation × List Property → State → Prop}
    (lasting : ∀ result, Lasting (told result))
    (each : ∀ access parameters,
      Yields (context.httpOperation operation client access parameters) told) :
    Yields (context.method operation client) fun method state =>
      ∀ http, method.operation? = some http → told (http, method.parameters) state :=
  method_of_declared lasting fun access parameters _ => each access parameters

end Context

end ClientModel.Derivation
