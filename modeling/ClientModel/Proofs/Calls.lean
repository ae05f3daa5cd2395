import ClientModel.Proofs.Growth

/-!
Which parameters are given to a client, and which to every call of a method.

A client takes the parameter for the version of its service and, under resource management, that for
the subscription. Whatever is left to a method is given to every call.
-/

namespace ClientModel.Derivation

variable {α β : Type} {kept : State → Prop} {allowed : Failure → Prop} {context : Context}

namespace Keeps

/-- What is told of the result of a step is known beside what is kept. -/
theorem bind_yields {step : Derive α} {next : α → Derive β} {told : α → State → Prop}
    (first : Keeps kept allowed step) (tells : Yields step told)
    (rest : ∀ value, Ensures (fun state => kept state ∧ told value state) (next value)
      (fun _ => kept) fun failure state => allowed failure ∧
        (failure.endsRun = false → kept state)) :
    Keeps kept allowed (step >>= next) := by
  -- What the step keeps and what is told of its result are known of one and the same run.
  have both := (Ensures.both first tells).weaken (fun _ start => ⟨start, trivial⟩)
    (fun _ _ ends => ends) fun _ _ fails => fails.1
  exact Ensures.bind both rest

/-- What is told of a value, whatever the state, may be used to tell what follows. -/
theorem bind_told {step : Derive α} {next : α → Derive β} {told : α → Prop}
    (first : Keeps kept allowed step) (tells : Yields step fun value _ => told value)
    (rest : ∀ value, told value → Keeps kept allowed (next value)) :
    Keeps kept allowed (step >>= next) :=
  first.bind_yields tells fun value => Ensures.given (rest value)

end Keeps

namespace Yields

/-- What is told of a value, whatever the state, may be used to tell what follows. -/
theorem bind_told {step : Derive α} {next : α → Derive β} {told : α → Prop}
    {after : β → State → Prop} (tells : Yields step fun value _ => told value)
    (rest : ∀ value, told value → Yields (next value) after) : Yields (step >>= next) after := by
  -- The value is all that the first step tells of, so the second may start anywhere.
  refine Ensures.bind tells fun value => ?_
  exact (Ensures.given (rest value)).starting fun _ holds => ⟨trivial, holds⟩

/-- Where each entry has its values, whatever the state, the list has those of all its entries. -/
theorem filterMapM_forall₂ {step : β → Derive (Option α)} {chosen : β → Bool} {told : β → α → Prop}
    (each : ∀ entry, Yields (step entry) fun found _ =>
      List.Forall₂ told ([entry].filter chosen) found.toList) (list : List β) :
    Yields (list.filterMapM step) fun values _ =>
      List.Forall₂ told (list.filter chosen) values := by
  -- Along the list: an entry adds its own values in front of those of the rest.
  induction list with
  | nil =>
    rw [List.filterMapM_nil]
    exact pure fun _ => .nil
  | cons entry rest ih =>
    rw [List.filterMapM_cons]
    refine bind_told (each entry) fun found first => ?_
    -- The entry is chosen along with those after it, and so is its value.
    have split : (entry :: rest).filter chosen = [entry].filter chosen ++ rest.filter chosen :=
      List.filter_append [entry] rest
    rw [split]
    cases found with
    | none => exact Ensures.ending ih fun _ _ later => List.rel_append first later
    | some value =>
      refine bind_told ih fun values later => pure fun _ => ?_
      exact List.rel_append first later

/-- What is told of each value, whatever the state, is told of all of them. -/
theorem mapM_told {step : β → Derive α} {told : α → Prop} (list : List β)
    (each : ∀ entry ∈ list, Yields (step entry) fun value _ => told value) :
    Yields (list.mapM step) fun values _ => ∀ value ∈ values, told value := by
  refine (Ensures.mapM (fun values _ => ∀ value ∈ values, told value) list ?_ []).weaken
    (fun _ _ => by simp) (fun _ _ ends => by simpa using ends) fun _ _ fails => fails
  intro entry member done
  -- What was told of the values so far names no state, and is true in the next one as well.
  refine Ensures.intro (fun state value next start run => ?_) fun _ _ _ _ _ => trivial
  have new := (each entry member).ok trivial run
  intro other listed
  rcases List.mem_append.mp listed with old | last
  · exact start other old
  · rw [List.mem_singleton.mp last]
    exact new

/-- Where every entry yields a value of which something is told, it is told of the whole list. -/
theorem filterMapM_told {step : β → Derive (Option α)} {told : α → Prop} (list : List β)
    (each : ∀ entry ∈ list, Yields (step entry) fun found _ => ∀ value ∈ found, told value) :
    Yields (list.filterMapM step) fun values _ => ∀ value ∈ values, told value := by
  refine (Ensures.filterMapM (fun values _ => ∀ value ∈ values, told value) list ?_ []).weaken
    (fun _ _ => by simp) (fun _ _ ends => by simpa using ends) fun _ _ fails => fails
  intro entry member done
  refine Ensures.intro (fun state found next start run => ?_) fun _ _ _ _ _ => trivial
  have new := (each entry member).ok trivial run
  intro value listed
  -- A value that is there was there before or is the new one.
  rcases List.mem_append.mp listed with old | last
  · exact start value old
  · exact new value (Option.mem_toList.mp last)

end Yields

namespace Context

variable (context)

/-- Parameters of a name are given to a client: those for its version, or for its subscription. -/
def isForClient (client : ContainerId) (name : String) : Bool :=
  (isVersionName name && (context.definition.service? client).any (!·.apiVersions.isEmpty)) ||
    (context.isResourceManaged client && isSubscriptionName name)

/-- No parameter that an operation declares, and none of its request, is given to the client. -/
def KeepsParameters (operation : OperationId) (client : ContainerId) : Prop :=
  ∀ id ∈ (context.definition.operationAt operation).parameters ++
      (context.definition.operationAt operation).slots.map (·.property),
    context.isForClient client (context.definition.propertyAt id).name = false

/-- None of the parameters is given to a client. -/
def OnCalls (parameters : List Property) : Prop :=
  ∀ parameter ∈ parameters, parameter.onClient = false

variable {context}

/-- What is known of a client tells the versions of a parameter, and whether the client takes it. -/
theorem withClientFacts_eq (client : ContainerId) (parameter : Property) :
    ∃ apiVersions isApiVersion onClient clientDefault,
      context.withClientFacts client parameter =
        { parameter with apiVersions, isApiVersion, onClient, clientDefault } := by
  -- Whatever service the client is of, no other field is set.
  unfold withClientFacts
  cases context.definition.service? client with
  | none => dsimp only; split <;> exact ⟨_, _, _, _, rfl⟩
  | some service => dsimp only; split <;> split <;> exact ⟨_, _, _, _, rfl⟩

/-- A parameter is handed over to the client for its name alone. -/
theorem onClient_withClientFacts (client : ContainerId) (parameter : Property) :
    (context.withClientFacts client parameter).onClient =
      (parameter.onClient || context.isForClient client parameter.name) := by
  unfold withClientFacts isForClient
  cases context.definition.service? client with
  | none =>
    by_cases subscription :
        (context.isResourceManaged client && isSubscriptionName parameter.name) = true <;>
      simp [subscription]
  | some service =>
    -- Neither the versions nor the mark of a version bear on whether it is a subscription.
    by_cases version : (isVersionName parameter.name && !service.apiVersions.isEmpty) = true <;>
      by_cases subscription :
          (context.isResourceManaged client && isSubscriptionName parameter.name) = true <;>
        simp [version, subscription]

/--
A parameter that is made from a property is on the client exactly when its name is handed over.
-/
theorem onClient_parameterOf (id : PropertyId) (type : NodeId) (role : Role) (ownerId : String)
    (client : ContainerId) :
    (context.parameterOf id type role ownerId client).onClient =
      context.isForClient client (context.definition.propertyAt id).name := by
  rw [parameterOf, onClient_withClientFacts, Bool.false_or]

/-- A parameter remembers the property it was made from. -/
@[simp] theorem origin_parameterOf (id : PropertyId) (type : NodeId) (role : Role)
    (ownerId : String) (client : ContainerId) :
    (context.parameterOf id type role ownerId client).origin = some id := by
  -- Facts of the client are written into fields of their own and leave the others alone.
  unfold parameterOf
  obtain ⟨_, _, _, _, same⟩ := @withClientFacts_eq context client _
  rw [same]

/-- A parameter has the name of the property it was made from. -/
@[simp] theorem name_parameterOf (id : PropertyId) (type : NodeId) (role : Role) (ownerId : String)
    (client : ContainerId) :
    (context.parameterOf id type role ownerId client).name =
      (context.definition.propertyAt id).name := by
  -- The facts of a client leave the name alone, and the parameter takes it from its declaration.
  unfold parameterOf
  obtain ⟨_, _, _, _, same⟩ := @withClientFacts_eq context client _
  rw [same]

/-- Two lists that are given to calls make one that is. -/
theorem OnCalls.append {left right : List Property} (first : OnCalls left)
    (second : OnCalls right) : OnCalls (left ++ right) := by
  intro parameter member
  rcases List.mem_append.mp member with inLeft | inRight
  · exact first parameter inLeft
  · exact second parameter inRight

/-! ## Requests -/

/-- The parameter of a slot is on the client exactly when its name is handed over. -/
theorem slotParameter?_onClient (operation : OperationId) (client : ContainerId) (access : Access)
    (slot : Service.WireSlot) :
    Yields (context.slotParameter? operation client access slot) fun found _ =>
      ∀ parameter ∈ found, parameter.onClient =
        context.isForClient client (context.definition.propertyAt slot.property).name := by
  unfold slotParameter?
  dsimp only
  split
  · exact Yields.pure fun _ _ none => by cases none
  · -- Whether it is given to the client is decided where the parameter is made.
    have requested : Yields
        (context.requestParameter operation slot.property slot.location client)
        fun parameter _ => parameter.onClient =
          context.isForClient client (context.definition.propertyAt slot.property).name := by
      unfold requestParameter
      dsimp only
      split
      · exact Ensures.throw fun _ _ => trivial
      · exact Yields.after fun type => Yields.pure fun _ => onClient_parameterOf ..
    -- Nothing that follows changes the parameter.
    refine Yields.bind_told requested fun parameter isFor => ?_
    split
    · exact Ensures.throw_bind fun _ _ => trivial
    · refine Yields.after fun _ => Yields.pure fun _ other same => ?_
      cases same
      exact isFor

/-- A header that is added to a request is given to every call. -/
theorem negotiationHeader_onClient (operation : OperationId) (negotiation : Negotiation)
    (contentTypes : List String) (optional : Bool) :
    Yields (context.negotiationHeader operation negotiation contentTypes optional) fun header _ =>
      header.onClient = false := by
  -- A header is made without a look at the client, whichever way the content types come out.
  unfold negotiationHeader
  dsimp only
  split
  · -- Each of the headers is made anew, and none of them from a property that a client could hold.
    split
    · exact Yields.after fun _ => Yields.pure fun _ => rfl
    · exact Yields.after fun _ => Yields.pure fun _ => rfl
  · exact Yields.after fun _ => Yields.pure fun _ => rfl

/-- To negotiate adds headers to both lists, neither of which is on the client. -/
theorem negotiate_onCalls (operation : OperationId) (negotiation : Negotiation)
    (contentTypes : List String) (optional : Bool) (wire method : List Property) :
    Yields (context.negotiate operation negotiation contentTypes optional wire method)
      fun result _ => (OnCalls wire → OnCalls result.1) ∧ (OnCalls method → OnCalls result.2) := by
  unfold negotiate
  dsimp only
  split
  · exact Yields.pure fun _ => ⟨id, id⟩
  · refine Yields.bind_told (negotiationHeader_onClient _ _ _ _) fun header given => ?_
    refine Yields.pure fun _ => ⟨fun sent => sent.append (by simp [OnCalls, given]), ?_⟩
    intro own
    -- A header whose name is taken already is not added to the method.
    unfold withHeaderParameter
    split
    · exact own
    · exact own.append (by simp [OnCalls, given])

/-- What a body has negotiated leaves both lists to the calls. -/
theorem negotiateBody_onCalls (operation : OperationId) (body : Option Property)
    (wire method : List Property) :
    Yields (context.negotiateBody operation body wire method) fun result _ =>
      (OnCalls wire → OnCalls result.1) ∧ (OnCalls method → OnCalls result.2) := by
  -- Without a body there is nothing to negotiate.
  cases body with
  | none => exact Yields.pure fun _ => ⟨id, id⟩
  | some body => exact negotiate_onCalls _ _ _ _ _ _

/-- What the responses have negotiated leaves both lists to the calls. -/
theorem negotiateResponses_onCalls (operation : OperationId) (outcomes : Outcomes)
    (wire method : List Property) :
    Yields (context.negotiateResponses operation outcomes wire method) fun result _ =>
      (OnCalls wire → OnCalls result.1) ∧ (OnCalls method → OnCalls result.2) := by
  -- Without content types there is nothing to negotiate, and the lists are left as they were.
  unfold negotiateResponses
  split
  · exact negotiate_onCalls _ _ _ _ _ _
  · exact Yields.pure fun _ => ⟨id, id⟩

/-- To drop unused segments leaves a list to the calls, as it only leaves some out. -/
theorem dropUnusedSegments_onCalls {wire method : List Property} (own : OnCalls method) :
    OnCalls (context.dropUnusedSegments wire method) :=
  fun parameter member => own parameter (List.mem_filter.mp member).1

/-! ## Methods -/

/-- A parameter that is left to a method is given to every call. -/
theorem methodParameter?_onClient (operation : OperationId) (client : ContainerId)
    (access : Access) (id : PropertyId) :
    Yields (context.methodParameter? operation client access id) fun found _ =>
      ∀ parameter ∈ found, parameter.onClient = false := by
  unfold methodParameter?
  dsimp only
  split
  · exact Yields.pure fun _ _ none => by cases none
  · -- Only a parameter that is not the client's comes to the end, and it is made with what was
    -- decided.
    refine Yields.after fun type => ?_
    split
    · exact Yields.after fun _ => Yields.pure fun _ _ none => by cases none
    · -- What was not handed over to the client is left to the method.
      rename_i onCall
      refine Yields.after fun scope => ?_
      split
      · exact Yields.pure fun _ _ none => by cases none
      · refine Yields.after fun _ => Yields.pure fun _ parameter same => ?_
        cases same
        simpa using onCall

/-- What the request of an operation leaves to a method is given to every call. -/
theorem httpOperation_onCalls (operation : OperationId) (client : ContainerId) (access : Access)
    {parameters : List Property} (own : OnCalls parameters) :
    Yields (context.httpOperation operation client access parameters) fun result _ =>
      OnCalls result.2 := by
  unfold httpOperation
  refine Yields.after fun outcomes => Yields.after fun wire => Yields.after fun body => ?_
  -- Two headers may join the parameters of the method, and some that are unused are dropped.
  refine Yields.bind_told (negotiateBody_onCalls operation body wire parameters)
    fun negotiated first => ?_
  refine Yields.bind_told (negotiateResponses_onCalls operation outcomes negotiated.1 negotiated.2)
    fun accepted second => ?_
  have final : OnCalls (context.dropUnusedSegments accepted.1 accepted.2) :=
    dropUnusedSegments_onCalls (second.2 (first.2 own))
  exact Yields.after fun _ => Yields.after fun _ => Yields.after fun _ => Yields.pure fun _ => final

/-- All parameters of a method are given to every call of it. -/
theorem buildMethod_onCalls (operation : OperationId) (client : ContainerId) :
    Yields (context.buildMethod operation client) fun method _ => OnCalls method.parameters := by
  unfold buildMethod
  dsimp only
  -- The parameters of the method are made first, and only headers join them.
  refine Yields.bind_told (Yields.filterMapM_told _ fun id _ =>
    methodParameter?_onClient operation client _ id) fun parameters own => ?_
  refine Yields.bind_told (httpOperation_onCalls operation client _ own) fun result final => ?_
  refine Yields.after fun response => Yields.after fun current => ?_
  split
  · exact Yields.after fun _ => Yields.pure fun _ => final
  · exact Yields.after fun _ => Yields.pure fun _ => final

/-- What is told of a method that is built, and lasts, is told of it in whatever forms it has. -/
theorem method_yields {operation : OperationId} {client : ContainerId}
    {told : Method → State → Prop} (lasting : ∀ method, Lasting (told method))
    (builds : Yields (context.buildMethod operation client) told)
    (forms : ∀ (method : Method) state isConvenient isProtocol, told method state →
      told { method with isConvenient, isProtocol } state) :
    Yields (context.method operation client) told := by
  intro state _
  have ends := builds state trivial
  -- The forms of a method are set once it is built.
  rw [method_run]
  cases run : context.buildMethod operation client state with
  | mk outcome built =>
    rw [run] at ends
    cases outcome with
    | error failure => trivial
    | ok method =>
      have formed := forms method built (context.isConvenient operation)
        ((context.choices.protocolMethod? operation).getD context.options.protocolMethods) ends
      dsimp only [Except.map]
      -- Notes on usage may be taken back, which does not touch anything that lasts.
      split
      · exact formed
      · exact lasting _ built _ formed ((Grown.refl built).noted _ _ _ _)

/--
What is told of a method that is built, in whatever form, is told of the method that is derived.
-/
theorem method_told {operation : OperationId} {client : ContainerId} {told : Method → Prop}
    (builds : Yields (context.buildMethod operation client) fun method _ => told method)
    (forms : ∀ (method : Method) isConvenient isProtocol, told method →
      told { method with isConvenient, isProtocol }) :
    Yields (context.method operation client) fun method _ => told method :=
  method_yields (fun method => Lasting.const (told method)) builds fun method _ => forms method

/-- The parameters of a method are given to every call. -/
theorem method_onCalls (operation : OperationId) (client : ContainerId) :
    Yields (context.method operation client) fun method _ => OnCalls method.parameters :=
  method_told (buildMethod_onCalls operation client) fun _ _ _ own => own

end Context

end ClientModel.Derivation
