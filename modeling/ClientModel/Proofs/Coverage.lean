import ClientModel.Proofs.Calls
import ClientModel.Proofs.Methods
import ClientModel.Proofs.Usage

/-!
Every type in the signature of a method is noted to be used.

A type that a method takes or hands back is noted where it is derived; only texts and constants, to
which nothing is left to be used, are not. The notes last, unless the method is not wanted on typed
values.
-/

namespace ClientModel

/-! ## Signatures -/

/-- The types that a response carries: that of its payload, and those of its headers. -/
def HttpResponse.types (response : HttpResponse) : List NodeId :=
  response.type.toList ++ response.headers.map ResponseHeader.type

/-- The types that are sent and received: those of parameters, the body, and all responses. -/
def HttpOperation.types (operation : HttpOperation) : List NodeId :=
  operation.wireParameters.map (·.property.type) ++
    (operation.responses.values.flatMap HttpResponse.types ++
      operation.exceptions.values.flatMap HttpResponse.types)

/-- The types that a method refers to, its status monitor last. -/
def Method.signature (method : Method) : List NodeId :=
  method.parameters.map Property.type ++
    ((method.operation?.map HttpOperation.types).getD [] ++
      method.kind.polling?.toList.map fun progress => progress.monitor.type)

namespace Derivation

open Service (ResponseDecl WireSlot)

variable {α β : Type} {context : Context}

/-! ## Covered types -/

/-- A type is noted to be used, or else is a text or a constant. -/
inductive State.Covers (state : State) (type : NodeId) : Prop
  | seeded {seed : Seed} (noted : seed ∈ state.seeds) (starts : seed.type = type)
      (passed : seed.usage.IsPassedOn)
  | builtin {kind : BuiltinKind} (known : state.builtins.get? kind = some type)
  | constant (inside : type.index < state.catalogue.size)
      (isConstant : (state.catalogue.nodeAt type).kind.label = "constant")

/-- All of some types are covered. -/
def State.Covered (state : State) (types : List NodeId) : Prop :=
  ∀ type ∈ types, state.Covers type

/-- A type that is covered stays covered as usage and nodes are added. -/
theorem covers_enduring (type : NodeId) : Enduring fun state => state.Covers type := by
  intro before after covers accrued
  -- Notes are only appended, builtins are never forgotten, and a node stays of its sort.
  cases covers with
  | seeded noted starts passed => exact .seeded (accrued.seeds.subset noted) starts passed
  | builtin known => exact .builtin (accrued.builtins _ _ known)
  | constant inside isConstant =>
    refine .constant (Nat.lt_of_lt_of_le inside accrued.size) ?_
    rw [← Node.label_plain, accrued.nodes type inside, Node.label_plain]
    exact isConstant

/-- So it is with several types. -/
theorem covered_enduring (types : List NodeId) : Enduring fun state => state.Covered types :=
  -- Each type is covered by itself, so they may be taken one by one.
  fun before after covered accrued type member =>
    covers_enduring type before after (covered type member) accrued

/-- Two lists of types that are covered are covered together. -/
theorem State.Covered.append {state : State} {types more : List NodeId}
    (first : state.Covered types) (second : state.Covered more) : state.Covered (types ++ more) :=
  fun type member => (List.mem_append.mp member).elim (first type) (second type)

/-- Where some types are covered, a step that ends well covers those that it leads to. -/
def Covering (types : List NodeId) (step : Derive α) (covered : α → List NodeId) : Prop :=
  Ensures (·.Covered types) step (fun value state => state.Covered (covered value)) fun _ _ => True

/-- A step only adds to what is there. -/
def Accrues (step : Derive α) : Prop :=
  ∀ start, Keeps (Accrued (fun _ => True) start) (fun _ => True) step

/-- Nothing is taken back by what may be noted of types. -/
theorem noting (context : Context) (start : State) :
    Noting context (Accrued (fun _ => True) start) fun _ => True :=
  Accrued.noting context start

/-- Nor is it by what may be noted of the parameters of a client. -/
theorem accruing (context : Context) (client : ContainerId) (start : State) :
    Accruing context client (Accrued (fun _ => True) start) fun _ => True :=
  Accrued.accruing context start trivial

namespace Covering

variable {types : List NodeId} {covered : α → List NodeId}

/-- To return a value covers its types if they were covered before. -/
theorem pure {value : α} (among : covered value ⊆ types) : Covering types (pure value) covered :=
  Ensures.pure fun _ start type member => start type (among member)

/-- A failure covers whatever one likes. -/
theorem throw_bind {failure : Failure} {next : β → Derive α} :
    Covering types ((MonadExcept.throw failure : Derive β) >>= next) covered :=
  Ensures.throw_bind fun _ _ => trivial

/-- A look at the state covers nothing and uncovers nothing. -/
theorem look {next : State → Derive α} (rest : ∀ current, Covering types (next current) covered) :
    Covering types (get >>= next) covered :=
  Ensures.look rest

/-- What a step covers is covered beside what was covered before. -/
theorem bind_of {step : Derive β} {next : β → Derive α} {needed : List NodeId}
    {new : β → List NodeId} (accrues : Accrues step) (first : Covering needed step new)
    (among : needed ⊆ types) (rest : ∀ value, Covering (types ++ new value) (next value) covered) :
    Covering types (step >>= next) covered := by
  -- The step runs on what it needs, while all that was covered before is carried beside it.
  have both := Ensures.beside first (covered_enduring types) accrues
  refine Ensures.bind (both.weaken ?_ ?_ fun _ _ fails => fails) rest
  · exact fun state start => ⟨start, fun type member => start type (among member)⟩
  · exact fun value state ends => ends.1.append ends.2

/-- Two steps cover what the second one does, with the types of the first one's result. -/
theorem bind {step : Derive β} {next : β → Derive α} {new : β → List NodeId}
    (accrues : Accrues step) (first : Covering [] step new)
    (rest : ∀ value, Covering (types ++ new value) (next value) covered) :
    Covering types (step >>= next) covered :=
  bind_of accrues first (List.nil_subset _) rest

/-- What is covered stays covered, and what is told of a value may be used for what follows. -/
theorem skip_told {step : Derive β} {next : β → Derive α} {told : β → Prop}
    (accrues : Accrues step) (tells : Yields step fun value _ => told value)
    (rest : ∀ value, told value → Covering types (next value) covered) :
    Covering types (step >>= next) covered := by
  -- The step adds nothing here, and takes nothing away.
  refine Ensures.bind ((tells.beside (covered_enduring types) accrues)) fun value => ?_
  exact Ensures.given (rest value)

/-- A step that covers nothing may be skipped. -/
theorem skip {step : Derive β} {next : β → Derive α} (accrues : Accrues step)
    (rest : ∀ value, Covering types (next value) covered) :
    Covering types (step >>= next) covered :=
  Keeps.told ((covered_enduring types).keeps accrues) rest

/-- What is covered without any condition is told of each result. -/
theorem yields {step : Derive α} (covering : Covering [] step covered) :
    Yields step fun value state => state.Covered (covered value) :=
  Ensures.starting covering fun _ _ => by simp [State.Covered]

/-- The types of a list are covered where each entry covers its own. -/
theorem filterMapM {step : β → Derive (Option α)} {type : α → NodeId}
    (accrues : ∀ entry, Accrues (step entry))
    (each : ∀ entry, Covering [] (step entry) fun found => found.toList.map type) (list : List β) :
    Covering [] (list.filterMapM step) fun values => values.map type := by
  have one (entry : β) : Yields (step entry) fun found state =>
      ∀ value ∈ found, state.Covers (type value) := by
    refine (each entry).yields.ending ?_
    intro found state ends value isFound
    exact ends _ (List.mem_map_of_mem (Option.mem_toList.mpr isFound))
  -- What one entry covers stays covered while the later ones are met.
  have all := Yields.filterMapM (fun value => covers_enduring (type value)) accrues one list
  refine all.weaken (fun _ _ => trivial) ?_ fun _ _ fails => fails
  intro values state ends type member
  obtain ⟨value, listed, rfl⟩ := List.mem_map.mp member
  exact ends value listed

/-! ## Notes -/

/-- A seed covers its type. -/
theorem addSeed {usage : Usage} (passed : usage.IsPassedOn) (type : NodeId) (access : Access) :
    Covering [] (addSeed type usage access) fun _ => [type] := by
  -- The new seed is the last one.
  refine Ensures.modify fun state _ other member => ?_
  rw [List.mem_singleton.mp member]
  exact .seeded (List.mem_append_right _ (List.mem_singleton_self _)) rfl passed

/-- The node for texts is covered, for it is a builtin type. -/
theorem stringNode : Covering [] stringNode fun type => [type] := by
  -- The node for texts is there already, or is kept as it is made.
  refine Ensures.builtinNode (fun state node _ known other member => ?_)
    fun state _ _ other member => ?_
  · rw [List.mem_singleton.mp member]
    exact .builtin known
  · rw [List.mem_singleton.mp member]
    exact .builtin (OrderedMap.get?_insert_self _ _ _)

/-- The node of a constant is covered, for it is made at once. -/
theorem addConstant (value : Service.Literal) (name : Option String) :
    Covering [] (addConstant value name) fun type => [type] := by
  -- The node is in range as soon as it is added, and is a constant.
  refine Ensures.addNode fun state _ other member => ?_
  rw [List.mem_singleton.mp member]
  refine .constant (by simp) ?_
  rw [Catalogue.nodeAt_push_self]
  rfl

end Covering

namespace Context

/-! ## Responses -/

/-- The header of a response covers its type. -/
theorem responseHeader?_covering (access : Access) (id : PropertyId) :
    Covering [] (context.responseHeader? access id) fun found =>
      found.toList.map ResponseHeader.type := by
  unfold responseHeader?
  dsimp only
  split
  · -- A header without a value is left out.
    exact .pure (List.nil_subset _)
  · refine .skip (fun start => (noting context start).node _) fun type => ?_
    -- The type is noted as soon as it is derived.
    refine .bind (fun start => (noting context start).addSeed _ _ _)
      (.addSeed Usage.isPassedOn_output _ _) fun _ => .pure ?_
    simp

/-- A response covers its types. -/
theorem response_covering (access : Access) (declared : ResponseDecl) :
    Covering [] (context.response access declared) HttpResponse.types := by
  have headers (id : PropertyId) : Accrues (context.responseHeader? access id) :=
    fun start => (noting context start).responseHeader? access id
  unfold response
  refine .bind (fun start => .filterMapM _ fun id => headers id start)
    (.filterMapM headers (responseHeader?_covering access) _) fun headers => ?_
  dsimp only
  split
  · -- Without a payload, the headers are all.
    exact .pure (by simp [HttpResponse.types])
  -- The type of the payload is noted beside those of the headers.
  · refine .skip (fun start => (noting context start).node _) fun type => ?_
    refine .bind (fun start => (noting context start).addSeed _ _ _)
      (.addSeed ((Usage.isPassedOn_output.union _).union _) _ _) fun _ => ?_
    exact .pure (by simp [HttpResponse.types])

/-- The types that outcomes carry. -/
def typesOf (outcomes : Outcomes) : List NodeId :=
  outcomes.successes.values.flatMap HttpResponse.types ++
    outcomes.errors.values.flatMap HttpResponse.types

/-- A response that is added brings its own types. -/
theorem types_insert (responses : ResponseMap) (status : Service.Statuses)
    (response : HttpResponse) :
    (responses.insert status response).values.flatMap HttpResponse.types ⊆
      responses.values.flatMap HttpResponse.types ++ response.types := by
  intro type member
  obtain ⟨other, listed, carried⟩ := List.mem_flatMap.mp member
  -- A value of the new table is the new one or was there before.
  rcases OrderedMap.mem_values_insert listed with rfl | earlier
  · exact List.mem_append_right _ carried
  · exact List.mem_append_left _ (List.mem_flatMap.mpr ⟨other, earlier, carried⟩)

/-- A response that is added to the outcomes covers its types beside theirs. -/
theorem addResponse_covering (operation : OperationId) (access : Access) (outcomes : Outcomes)
    (declared : ResponseDecl) :
    Covering (typesOf outcomes) (context.addResponse operation access outcomes declared)
      typesOf := by
  unfold addResponse
  -- The response covers its own types; the rest is where they are put.
  refine .bind (fun start => (noting context start).response access declared)
    (response_covering access declared) fun response => ?_
  dsimp only
  split
  · -- The first response for a status is kept.
    split
    · exact .skip (fun start => (noting context start).reportWarning _ (by decide) _) fun _ =>
        .pure (List.subset_append_left _ _)
    · exact .pure (List.subset_append_left _ _)
  · -- A new one goes to the errors or to the successes; the other side stays what it is.
    split
    · refine .pure fun type member => ?_
      rcases List.mem_append.mp member with success | error
      · exact List.mem_append_left _ (List.mem_append_left _ success)
      · rcases List.mem_append.mp (types_insert _ _ _ error) with earlier | new
        · exact List.mem_append_left _ (List.mem_append_right _ earlier)
        · exact List.mem_append_right _ new
    · refine .pure fun type member => ?_
      rcases List.mem_append.mp member with success | error
      · rcases List.mem_append.mp (types_insert _ _ _ success) with earlier | new
        · exact List.mem_append_left _ (List.mem_append_left _ earlier)
        · exact List.mem_append_right _ new
      · exact List.mem_append_left _ (List.mem_append_right _ error)

/-- The outcomes of an operation cover all their types. -/
theorem outcomes_covering (operation : OperationId) (access : Access) :
    Covering [] (context.outcomes operation access) typesOf :=
  -- By induction on the responses: each adds its types to those that are covered.
  Ensures.foldlM (fun outcomes state => state.Covered (typesOf outcomes)) _
    (fun declared _ outcomes => addResponse_covering operation access outcomes declared) {}

/-! ## Requests -/

/-- The facts of a client leave the type of a parameter alone. -/
@[simp] theorem type_withClientFacts (client : ContainerId) (parameter : Property) :
    (context.withClientFacts client parameter).type = parameter.type := by
  -- Client names and marks are put beside the type.
  obtain ⟨_, _, _, _, same⟩ := @withClientFacts_eq context client parameter
  rw [same]

/-- The parameter of a slot covers its type. -/
theorem slotParameter?_covering (operation : OperationId) (client : ContainerId)
    (access : Access) (slot : WireSlot) :
    Covering [] (context.slotParameter? operation client access slot) fun found =>
      found.toList.map Property.type := by
  unfold slotParameter?
  dsimp only
  split
  · exact .pure (List.nil_subset _)
  · refine .skip (fun start => (noting context start).requestParameter .all _ _ _)
      fun parameter => ?_
    split
    · -- A slot that turns out to be the body is an error.
      exact .throw_bind
    -- What is sent is noted as input.
    · refine .bind (fun start => (noting context start).addSeed _ _ _)
        (.addSeed Usage.isPassedOn_input _ _) fun _ => .pure ?_
      simp

/-- The parameter for a body holds the type of the body. -/
theorem bodyParameter_type (operation : OperationId) (client : ContainerId)
    (declared : Option PropertyId) (type : NodeId) (role : Role) :
    Yields (context.bodyParameter operation client declared type role) fun body _ =>
      body.type = type := by
  cases declared with
  | some property => exact Yields.after fun parameter => Yields.pure fun _ => rfl
  -- A body that is unnamed gets a name of its own, but no type.
  | none =>
    unfold bodyParameter unnamedBody
    refine Yields.after fun model => Yields.pure fun _ => ?_
    rw [type_withClientFacts]

/-- The body of a request covers its type. -/
theorem body?_covering (operation : OperationId) (client : ContainerId) (access : Access) :
    Covering [] (context.body? operation client access) fun found =>
      found.toList.map Property.type := by
  unfold body?
  -- Without a body nothing is to be covered, and bodies of different types end the run.
  dsimp only
  split
  · exact .pure (List.nil_subset _)
  · split
    · exact .throw_bind
    · split
      · exact .pure (List.nil_subset _)
      · refine .skip (fun start => (noting context start).node _) fun type => ?_
        -- Of the parameter only its type is needed, which is the one that is noted.
        refine .skip_told (fun start => (noting context start).bodyParameter .all _ _ _ _)
          (bodyParameter_type _ _ _ type _) fun body isType => ?_
        refine .skip (fun start => .modelAt? type) fun model => ?_
        refine .bind (fun start => (noting context start).addSeed _ _ _)
          (.addSeed ((Usage.isPassedOn_input.union _).union _) _ _) fun _ => ?_
        refine .skip (fun start => (noting context start).addBodyFormat _ _) fun _ => .pure ?_
        simp [isType]

/-- The header that is negotiated covers its type. -/
theorem negotiationHeader_covering (operation : OperationId) (negotiation : Negotiation)
    (contentTypes : List String) (optional : Bool) :
    Covering [] (context.negotiationHeader operation negotiation contentTypes optional)
      fun header => [header.type] := by
  -- Both kinds of header are made here, and both bring their own type.
  have constant (value candidate : String) : Covering []
      (claimName candidate >>= fun name => addConstant (.text value) (some name))
      fun type => [type] :=
    .skip (fun start => (noting context start).claimName _) fun name => .addConstant _ _
  have string (start : State) : Keeps (Accrued (fun _ => True) start) (fun _ => True) stringNode :=
    (noting context start).stringNode
  unfold negotiationHeader
  dsimp only
  split
  · -- Where nothing is left to choose the content type is a constant, and else a text.
    split
    · refine .bind (fun start => ((noting context start).claimName _).bind fun _ =>
        (noting context start).addConstant _ _) (constant _ _) fun type => .pure ?_
      simp
    · exact .bind string .stringNode fun type => .pure (by simp)
  · exact .bind string .stringNode fun type => .pure (by simp)

/-- Among the parameters a header is put, no type appears but theirs and its own. -/
theorem withHeaderParameter_types (parameters : List Property) (header : Property) :
    (withHeaderParameter parameters header).map Property.type ⊆
      parameters.map Property.type ++ [header.type] := by
  -- The header is put to the end, unless one of its name is there already.
  unfold withHeaderParameter
  split
  · exact List.subset_append_left _ _
  · simp

/-- What is negotiated leaves the types covered, with that of the header. -/
theorem negotiate_covering (operation : OperationId) (negotiation : Negotiation)
    (contentTypes : List String) (optional : Bool) (wire method : List Property) :
    Covering ((wire ++ method).map Property.type)
      (context.negotiate operation negotiation contentTypes optional wire method)
      fun result => (result.1 ++ result.2).map Property.type := by
  unfold negotiate
  dsimp only
  -- Either there is nothing to negotiate, or a header is made.
  split
  · exact .pure (List.Subset.refl _)
  · refine .bind (fun start => (noting context start).negotiationHeader _ _ _ _)
      (negotiationHeader_covering _ _ _ _) fun header => .pure ?_
    -- The header goes into the request, and among the parameters unless one of its name is there.
    intro type member
    rw [List.map_append, List.map_append, List.append_assoc, List.mem_append] at member
    rw [List.map_append, List.append_assoc, List.mem_append]
    rcases member with sent | later
    · exact Or.inl sent
    · refine Or.inr ?_
      rcases List.mem_append.mp later with new | taken
      · exact List.mem_append_right _ new
      · exact withHeaderParameter_types method header taken

/-- So does what is negotiated for a body. -/
theorem negotiateBody_covering (operation : OperationId) (body : Option Property)
    (wire method : List Property) :
    Covering ((wire ++ method).map Property.type)
      (context.negotiateBody operation body wire method)
      fun result => (result.1 ++ result.2).map Property.type := by
  cases body with
  | none => exact .pure (List.Subset.refl _)
  | some body => exact negotiate_covering _ _ _ _ _ _

/-- So does what is negotiated for the responses. -/
theorem negotiateResponses_covering (operation : OperationId) (outcomes : Outcomes)
    (wire method : List Property) :
    Covering ((wire ++ method).map Property.type)
      (context.negotiateResponses operation outcomes wire method)
      fun result => (result.1 ++ result.2).map Property.type := by
  unfold negotiateResponses
  split
  · exact negotiate_covering _ _ _ _ _ _
  · exact .pure (List.Subset.refl _)

/-- A parameter is traced as it is. -/
theorem traceParameter_property (operation : OperationId) (client : ContainerId)
    (method : List Property) (parameter : Property) :
    Yields (context.traceParameter operation client method parameter) fun wire _ =>
      wire.property = parameter := by
  unfold traceParameter
  exact Yields.after fun scope => Yields.after fun current => Yields.after fun sources =>
    Yields.pure fun _ => rfl

/-- Nothing is traced but the parameters that are wanted. -/
theorem traceParameters_property (operation : OperationId) (client : ContainerId)
    (method wanted : List Property) :
    Yields (wanted.mapM (context.traceParameter operation client method)) fun traced _ =>
      ∀ wire ∈ traced, wire.property ∈ wanted := by
  -- Tracing looks at one parameter at a time, and does not change it.
  refine Yields.mapM_told _ fun parameter member => ?_
  refine (traceParameter_property operation client method parameter).ending ?_
  exact fun _ _ same => same ▸ member

/-- The body that is traced is the one there was. -/
theorem traceBody_property (operation : OperationId) (client : ContainerId)
    (method : List Property) (body : Option Property) :
    Yields (body.mapM (context.traceParameter operation client method)) fun traced _ =>
      ∀ wire ∈ traced, wire.property ∈ body := by
  -- Without a body there is nothing to trace.
  cases body with
  | none => exact Yields.pure fun _ _ none => by cases none
  | some wanted =>
    refine Ensures.map ((traceParameter_property operation client method wanted).ending ?_)
    intro wire _ same other isOther
    cases isOther
    rw [same]
    rfl

/-- The request of an operation covers its types, and those of the parameters it leaves. -/
theorem httpOperation_covering (operation : OperationId) (client : ContainerId) (access : Access)
    (parameters : List Property) :
    Covering (parameters.map Property.type)
      (context.httpOperation operation client access parameters)
      fun result => result.2.map Property.type ++ result.1.types := by
  have slots (slot : WireSlot) : Accrues (context.slotParameter? operation client access slot) :=
    fun start => (noting context start).slotParameter? .all operation access slot
  unfold httpOperation
  -- Responses, slots and the body bring types of their own.
  refine .bind (fun start => (noting context start).outcomes operation access)
    (outcomes_covering operation access) fun outcomes => ?_
  refine .bind (fun start => .filterMapM _ fun slot => slots slot start)
    (.filterMapM slots (slotParameter?_covering operation client access) _) fun wire => ?_
  refine .bind (fun start => (noting context start).body? .all operation access)
    (body?_covering operation client access) fun body => ?_
  -- The headers that say which content is sent and accepted come to wire and method alike.
  refine .bind_of (fun start => (noting context start).negotiateBody operation body wire parameters)
    (negotiateBody_covering operation body wire parameters) ?_ fun negotiated => ?_
  · intro type
    simp only [List.map_append, List.mem_append]
    tauto
  refine .bind_of (fun start => (noting context start).negotiateResponses operation outcomes _ _)
    (negotiateResponses_covering operation outcomes negotiated.1 negotiated.2)
    (List.subset_append_right _ _) fun accepted => ?_
  refine .skip (fun start => (accruing context client start).elevateAll _) fun _ => ?_
  generalize isFinal : context.dropUnusedSegments accepted.1 accepted.2 = final
  -- Tracing tells where a parameter comes from, and leaves its type as it is.
  have traces (wanted : Property) :
      Accrues (context.traceParameter operation client final wanted) :=
    fun _ => Tolerant.all.searching.traceParameter operation client final wanted
  refine .skip_told (fun start => .mapM _ fun wanted => traces wanted start)
    (traceParameters_property operation client final accepted.1) fun traced sent => ?_
  refine .skip_told (fun start => .optionMapM _ fun wanted => traces wanted start)
    (traceBody_property operation client final body) fun tracedBody sentBody => .pure ?_
  intro type member
  -- Nothing is in the request or among the parameters but what was covered on the way.
  simp only [HttpOperation.types, HttpOperation.wireParameters, List.map_append,
    List.mem_append] at member ⊢
  rcases member with taken | (inRequest | inBody) | inResponses
  · obtain ⟨parameter, listed, rfl⟩ := List.mem_map.mp taken
    rw [← isFinal] at listed
    exact Or.inr (Or.inr (List.mem_map_of_mem (List.mem_filter.mp listed).1))
  · obtain ⟨wire, listed, rfl⟩ := List.mem_map.mp inRequest
    exact Or.inr (Or.inl (List.mem_map_of_mem (sent wire listed)))
  · obtain ⟨wire, listed, rfl⟩ := List.mem_map.mp inBody
    have isBody := sentBody wire (Option.mem_toList.mp listed)
    exact Or.inl (Or.inl (Or.inr (List.mem_map_of_mem (Option.mem_toList.mpr isBody))))
  · rw [typesOf, List.mem_append]
    tauto

/-! ## Methods -/

/-- The parameter that is left to a method covers its type. -/
theorem methodParameter?_covering (operation : OperationId) (client : ContainerId)
    (access : Access) (id : PropertyId) :
    Covering [] (context.methodParameter? operation client access id) fun found =>
      found.toList.map Property.type := by
  unfold methodParameter?
  dsimp only
  -- A parameter that is not sent has no type to be covered.
  split
  · exact .pure (List.nil_subset _)
  · refine .skip (fun start => (noting context start).node _) fun type => ?_
    split
    · -- A parameter that is given to the client is none of the method's.
      exact .skip (fun start => (accruing context client start).elevate _) fun _ =>
        .pure (List.nil_subset _)
    · refine .skip (fun start => .parametersInScope context client) fun scope => ?_
      split
      · exact .pure (List.nil_subset _)
      -- What is left to the method is noted as input.
      · refine .bind (fun start => (noting context start).addSeed _ _ _)
          (.addSeed Usage.isPassedOn_input _ _) fun _ => .pure ?_
        simp [parameterOf]

/-- The monitor of a polled operation covers its type. -/
theorem statusMonitor?_covering (polling : OperationId) (access : Access) :
    Covering [] (context.statusMonitor? polling access) fun found =>
      found.toList.map StatusMonitor.type := by
  unfold statusMonitor?
  dsimp only
  refine .skip (fun start => (noting context start).search _) fun found => ?_
  split
  · exact .pure (List.nil_subset _)
  · refine .skip (fun start => (noting context start).node _) fun type => ?_
    -- Only the monitor itself is in the signature; its properties hang on it.
    refine .bind (fun start => (noting context start).addSeed _ _ _)
      (.addSeed (Usage.isPassedOn_output.union _) _ _) fun _ => ?_
    have property (id : PropertyId) : Accrues (context.monitorProperty id) :=
      fun start => (noting context start).monitorProperty id
    refine .skip (property _) fun status => ?_
    refine .skip (fun start => .optionMapM _ fun id => property id start) fun success => ?_
    exact .skip (fun start => .optionMapM _ fun id => property id start) fun error =>
      .pure (by simp)

/-- The type of the monitor that a link has, if it has one. -/
def linkTypes (found : Option Link) : List NodeId :=
  (found.bind Link.monitor).toList.map StatusMonitor.type

/-- The link to a polling operation covers the type of its monitor. -/
theorem link?_covering (operation : OperationId) (declared : Service.PollingDecl)
    (access : Access) :
    Covering [] (context.link? operation declared access) linkTypes := by
  unfold link?
  refine .skip (fun start => (noting context start).linkMap? operation declared)
    fun parameters => ?_
  split
  · exact .pure (List.nil_subset _)
  -- The parameters bring no types, and the monitor brings its own.
  · exact .bind (fun start => (noting context start).statusMonitor? _ access)
      (statusMonitor?_covering _ access) fun monitor => .pure (by simp [linkTypes])

/-- Polling covers the type of what it monitors. -/
theorem polling?_covering (operation : OperationId) (declared : Service.PollingDecl)
    (access : Access) (response : MethodResponse) :
    Covering [] (context.polling? operation declared access response) fun found =>
      found.toList.map fun progress => progress.monitor.type := by
  unfold polling?
  refine .bind (fun start => (noting context start).link? operation declared access)
    -- No link, no polling; a link without a monitor is reported, and one with it tells the type.
    (link?_covering operation declared access) fun link => ?_
  split
  · exact .pure (List.nil_subset _)
  · split
    · exact .skip (fun start => (noting context start).reportWarning _ (by decide) _) fun _ =>
        .pure (List.nil_subset _)
    · rename_i isMonitor
      exact .pure (by simp [linkTypes, isMonitor])

/-- The types of a built method are those of its parameters, its request and its polling. -/
theorem signature_of_kind {method : Method} {service : ServiceMethod} {pages : Option Paging}
    {progress : Option Polling} (isBuilt : method.kind = methodKind service pages progress) :
    method.signature = method.parameters.map Property.type ++
      (service.operation.types ++
        progress.toList.map fun progress => progress.monitor.type) := by
  simp [Method.signature, Method.operation?, isBuilt, service?_methodKind, polling?_methodKind]

/-- To build a method covers all types of its signature. -/
theorem buildMethod_covering (operation : OperationId) (client : ContainerId) :
    Covering [] (context.buildMethod operation client) Method.signature := by
  have parameters (access : Access) (id : PropertyId) :
      Accrues (context.methodParameter? operation client access id) :=
    fun start => (accruing context client start).methodParameter? operation access id
  unfold buildMethod
  dsimp only
  refine .bind (fun start => .filterMapM _ fun id => parameters _ id start)
    (.filterMapM (parameters _) (methodParameter?_covering operation client _) _) fun taken => ?_
  -- From here on, the parameters are those that the operation hands back.
  refine .bind_of (fun start => (accruing context client start).httpOperation .all operation _
    taken) (httpOperation_covering operation client _ taken) (List.subset_append_right _ _)
    fun result => ?_
  refine .skip (fun start => (noting context start).methodResponse operation _ _) fun response => ?_
  refine .look fun current => ?_
  -- A method that is not long-running has no monitor to cover.
  have nothing : Covering [] (Pure.pure none : Derive (Option Polling)) fun found =>
      found.toList.map fun progress => progress.monitor.type :=
    .pure (List.nil_subset _)
  split
  · refine .bind (fun start => (noting context start).polling? operation _ _ _)
      (polling?_covering operation _ _ _) fun progress => .pure fun type => ?_
    rw [signature_of_kind rfl]
    simp only [List.mem_append]
    tauto
  · refine .bind (fun start => .pure _) nothing fun progress => .pure fun type => ?_
    rw [signature_of_kind rfl]
    simp only [List.mem_append]
    tauto

/-- The signature of a method that is wanted on typed values is covered when it is derived. -/
theorem method_covered (operation : OperationId) (client : ContainerId) :
    Yields (context.method operation client) fun method state =>
      method.isConvenient = true → state.Covered method.signature := by
  intro state _
  have ends := (@buildMethod_covering context operation client).yields state trivial
  rw [method_run]
  cases run : context.buildMethod operation client state with
  | mk outcome built =>
    rw [run] at ends
    cases outcome with
    | error failure => trivial
    | ok method =>
      intro wanted
      -- Only a method that is not wanted takes its notes back.
      dsimp only [Except.map] at wanted ⊢
      rw [if_pos wanted]
      exact ends

end Context

/-- Of all methods that are wanted on typed values, it is told that their signatures are covered. -/
theorem telling_covered : Telling context fun _ method state =>
    method.isConvenient = true → state.Covered method.signature where
  lasting _ method := fun before after covered accrued wanted =>
    covered_enduring method.signature before after (covered wanted) accrued
  method container operation := Context.method_covered operation container
  accessor _ _ _ _ _ wanted := by cases wanted

end Derivation

end ClientModel
