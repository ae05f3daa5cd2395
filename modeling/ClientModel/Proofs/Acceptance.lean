import Mathlib.Data.List.Induction
import ClientModel.Proofs.Completeness
import ClientModel.Proofs.DeclaredTypes
import ClientModel.Proofs.Exports
import ClientModel.Proofs.Tracing

/-!
What decides on the Accept header that is added to a request.

Of the responses for each status the first one is kept, successes and errors apart. The first kept
response that carries something, successes before errors, decides on the header alone: it is a
constant if that response declares one content type, whatever other responses declare.
-/

namespace ClientModel

/-- A parameter of a request is a header for the content types that are accepted. -/
def Property.isAccept (parameter : Property) : Bool :=
  parameter.isHeader && Text.sameIgnoringCase parameter.serializedName "Accept"

namespace Derivation

open Service (Definition ResponseDecl WireSlot)

/-- Of some responses, the first one for each status. -/
def firstOfEach (responses : List ResponseDecl) : List ResponseDecl :=
  responses.foldl (fun kept response =>
    if kept.any fun earlier => earlier.status == response.status then kept
    else kept ++ [response]) []

namespace Context

variable (context : Context)

/-- The content types in which a response may come; one that carries nothing has none. -/
def declaredTypes (response : ResponseDecl) : List String :=
  ((context.payload? response).map fun body => ContentType.orJson body.contentTypes).getD []

/-- The responses of an operation that are kept, successes before errors. -/
def keptResponses (operation : OperationId) : List ResponseDecl :=
  let declared := (context.definition.operationAt operation).responses
  firstOfEach (declared.filter fun response => !context.isErrorResponse response) ++
    firstOfEach (declared.filter context.isErrorResponse)

/-- The response that decides on the Accept header: the first one kept that carries something. -/
def decidingResponse? (operation : OperationId) : Option ResponseDecl :=
  (context.keptResponses operation).find? fun response => (context.payload? response).isSome

/-- An operation declares a header of a name for its request, and the header has a value. -/
def DeclaresHeader (operation : OperationId) (name : String) : Prop :=
  ∃ slot ∈ (context.definition.operationAt operation).slots,
    let declared := context.definition.propertyAt slot.property
    context.definition.isVoidLike declared.type = false ∧
      slot.location.or (declared.binding.bind (·.location?)) = some .header ∧
      Text.sameIgnoringCase (wireName declared) name = true

/-- An entry of a map of responses is what was declared. -/
structure IsKept (declared : ResponseDecl) (entry : Service.Statuses × HttpResponse) : Prop where
  status : entry.1 = declared.status
  carries : entry.2.type.isSome = (context.payload? declared).isSome
  contentTypes : entry.2.contentTypes = context.declaredTypes declared

/-- A map has the responses that are kept, in order. -/
def Retains (kept : List ResponseDecl) (found : ResponseMap) : Prop :=
  List.Forall₂ context.IsKept kept found.entries

/-- Outcomes have the responses of an operation that are kept. -/
structure RetainsAll (declared : List ResponseDecl) (outcomes : Outcomes) : Prop where
  successes : context.Retains
    (firstOfEach (declared.filter fun response => !context.isErrorResponse response))
    outcomes.successes
  errors : context.Retains (firstOfEach (declared.filter context.isErrorResponse)) outcomes.errors

/-- The type of an Accept header: a constant if there is a single content type, and else a text. -/
inductive IsAcceptType (contentTypes : List String) (type : NodeId) (state : State) : Prop where
  | constant {value : String} {constant : ConstantNode} (single : contentTypes = [value])
      (isConstant : (state.catalogue.nodeAt type).kind = .constant constant)
      (isValue : constant.value = .text value)
  | text (several : ∀ value, contentTypes ≠ [value])
      (isString : state.builtins.get? .string = some type)

/-- What an operation sends to say what it accepts, if it does not declare a header for that. -/
structure Accepts (operation : OperationId) (sent : List Property) (state : State) : Prop where
  exists_iff : (∃ parameter ∈ sent, parameter.isAccept = true) ↔
    (context.decidingResponse? operation).isSome
  typed : ∀ parameter ∈ sent, parameter.isAccept = true →
    ∀ deciding ∈ context.decidingResponse? operation,
      IsAcceptType (context.declaredTypes deciding) parameter.type state

variable {context} {operation : OperationId} {client : ContainerId} {access : Access}

/-! ## Responses -/

/-- A response at the end is kept unless an earlier one is for the same status. -/
theorem firstOfEach_concat (responses : List ResponseDecl) (last : ResponseDecl) :
    firstOfEach (responses ++ [last]) =
      if (firstOfEach responses).any fun earlier => earlier.status == last.status then
        firstOfEach responses
      else firstOfEach responses ++ [last] := by
  -- The last response is the last step of the fold.
  rw [firstOfEach, List.foldl_append]
  rfl

/-- A status has a response just if one of those that are kept is for it. -/
theorem Retains.get?_isSome {kept : List ResponseDecl} {found : ResponseMap}
    (retains : context.Retains kept found) (status : Service.Statuses) :
    (found.get? status).isSome = kept.any fun earlier => earlier.status == status := by
  unfold Retains at retains
  rw [OrderedMap.get?]
  generalize found.entries = entries at retains
  -- Both lists are searched side by side.
  induction retains with
  | nil => rfl
  | @cons response entry kept entries same _ ih =>
    rw [List.lookup_cons, List.any_cons, ← ih, same.status]
    by_cases met : status = response.status
    · subst met
      simp
    · have other : (status == response.status) = false := beq_false_of_ne met
      have later : (response.status == status) = false := beq_false_of_ne fun same => met same.symm
      simp [other, later]

/-- A response that is added goes to the end, unless its status had one before. -/
theorem Retains.insert {declared : List ResponseDecl} {found : ResponseMap} {last : ResponseDecl}
    {response : HttpResponse} (retains : context.Retains (firstOfEach declared) found)
    (fresh : found.get? last.status = none) (isKept : context.IsKept last (last.status, response)) :
    context.Retains (firstOfEach (declared ++ [last])) (found.insert last.status response) := by
  -- No response of that status was kept before, so that the last one is.
  have absent := retains.get?_isSome last.status
  rw [fresh, Option.isSome_none] at absent
  rw [firstOfEach_concat, ← absent, if_neg Bool.false_ne_true, Retains,
    OrderedMap.entries_insert_of_get? _ fresh]
  exact List.rel_append retains (.cons isKept .nil)

/-- A response whose status has one already changes nothing. -/
theorem Retains.keep {declared : List ResponseDecl} {found : ResponseMap} {last : ResponseDecl}
    {earlier : HttpResponse} (retains : context.Retains (firstOfEach declared) found)
    (known : found.get? last.status = some earlier) :
    context.Retains (firstOfEach (declared ++ [last])) found := by
  -- The map has the status, and so the list of what is declared has it too.
  have present := retains.get?_isSome last.status
  rw [known, Option.isSome_some] at present
  rwa [firstOfEach_concat, ← present, if_pos rfl]

/-- By its payload and its content types, a response is what was declared. -/
theorem response_isKept (declared : ResponseDecl) :
    Yields (context.response access declared) fun response _ =>
      context.IsKept declared (declared.status, response) := by
  -- A response without a body carries nothing, and has no content types of its own.
  unfold response
  refine .after fun headers => ?_
  dsimp only
  split
  · rename_i empty
    apply Yields.pure
    intro state
    exact ⟨rfl, by simp [empty], by simp [declaredTypes, empty]⟩
  · rename_i body carried
    refine .after fun type => .after fun _ => .pure fun _ => ?_
    exact ⟨rfl, by simp [carried], by simp [declaredTypes, carried]⟩

/-- A response is added to the successes or to the errors, and the others stay what they are. -/
theorem addResponse_retains {before : List ResponseDecl} {outcomes : Outcomes}
    (retains : context.RetainsAll before outcomes) (last : ResponseDecl) :
    Yields (context.addResponse operation access outcomes last) fun outcomes _ =>
      context.RetainsAll (before ++ [last]) outcomes := by
  unfold addResponse
  refine .bind_told (response_isKept last) fun response isKept => ?_
  dsimp only
  -- On the other side, the list of what is declared does not get longer.
  -- By the kind of the response: an error joins the errors, and any other one the successes.
  cases isError : context.isErrorResponse last with
  | true =>
    have successes : context.Retains
        (firstOfEach ((before ++ [last]).filter fun response => !context.isErrorResponse response))
        outcomes.successes := by
      simpa [isError] using retains.successes
    have errors : (before ++ [last]).filter context.isErrorResponse =
        before.filter context.isErrorResponse ++ [last] := by
      simp [isError]
    rw [if_pos rfl]
    split
    · rename_i earlier known
      have kept : context.RetainsAll (before ++ [last]) outcomes :=
        ⟨successes, errors ▸ retains.errors.keep known⟩
      split
      · exact .after fun _ => .pure fun _ => kept
      · exact .pure fun _ => kept
    · rename_i fresh
      rw [if_pos rfl]
      exact .pure fun _ => ⟨successes, errors ▸ retains.errors.insert fresh isKept⟩
  | false =>
    have errors : context.Retains (firstOfEach ((before ++ [last]).filter context.isErrorResponse))
        outcomes.errors := by
      simpa [isError] using retains.errors
    have successes : ((before ++ [last]).filter fun response => !context.isErrorResponse response) =
        (before.filter fun response => !context.isErrorResponse response) ++ [last] := by
      simp [isError]
    rw [if_neg Bool.false_ne_true]
    split
    · -- The status has its response already: whatever is told about that, the map stays.
      rename_i earlier known
      have kept : context.RetainsAll (before ++ [last]) outcomes :=
        ⟨successes ▸ retains.successes.keep known, errors⟩
      split
      · exact .after fun _ => .pure fun _ => kept
      · exact .pure fun _ => kept
    · rename_i fresh
      rw [if_neg Bool.false_ne_true]
      exact .pure fun _ => ⟨successes ▸ retains.successes.insert fresh isKept, errors⟩

/-- The responses of a run are those that were declared first for their status. -/
theorem outcomes_retain :
    Yields (context.outcomes operation access) fun outcomes _ =>
      context.RetainsAll (context.definition.operationAt operation).responses outcomes := by
  unfold outcomes
  -- By induction on the responses from the last one: each is added to those before it.
  induction (context.definition.operationAt operation).responses using List.reverseRecOn with
  | nil => exact .pure fun _ => ⟨.nil, .nil⟩
  | append_singleton front last ih =>
    rw [List.foldlM_append]
    -- The last response meets what has become of those before it.
    refine .bind_told ih fun outcomes retains => ?_
    rw [List.foldlM_cons]
    refine .bind_told (addResponse_retains retains last) fun longer all => ?_
    exact .pure fun _ => all

/-- Among the entries of a map, the first one that carries something was declared to. -/
theorem find?_of_isKept {kept : List ResponseDecl}
    {entries : List (Service.Statuses × HttpResponse)}
    (same : List.Forall₂ context.IsKept kept entries) :
    ((entries.map Prod.snd).find? fun response => response.type.isSome).map
        HttpResponse.contentTypes =
      (kept.find? fun response => (context.payload? response).isSome).map
        context.declaredTypes := by
  -- Side by side, an entry carries something just if what was declared does.
  induction same with
  | nil => rfl
  | @cons declared entry kept entries isKept _ ih =>
    rw [List.map_cons, List.find?_cons, List.find?_cons, isKept.carries]
    cases (context.payload? declared).isSome with
    | true => exact congrArg some isKept.contentTypes
    | false => exact ih

/-- The response that decides on Accept is the same among what was declared. -/
theorem acceptedTypes?_eq {outcomes : Outcomes}
    (retains : context.RetainsAll (context.definition.operationAt operation).responses outcomes) :
    acceptedTypes? outcomes =
      (context.decidingResponse? operation).map context.declaredTypes := by
  -- Successes come before errors in both lists.
  have all := find?_of_isKept (List.rel_append retains.successes retains.errors)
  rw [List.map_append] at all
  exact all

/-- What carries something comes in some content type, and without a declared one as JSON. -/
theorem orJson_declaredTypes {deciding : ResponseDecl}
    (decides : context.decidingResponse? operation = some deciding) :
    ContentType.orJson (context.declaredTypes deciding) = context.declaredTypes deciding := by
  have carries := List.find?_some decides
  obtain ⟨body, carried⟩ := Option.isSome_iff_exists.mp carries
  rw [declaredTypes, carried, Option.map_some, Option.getD_some]
  -- What took the place of an empty list is not empty itself.
  cases empty : body.contentTypes.isEmpty with
  | true => simp [ContentType.orJson, empty]
  | false => simp [ContentType.orJson, empty]

/-! ## Headers -/

/-- What a client adds to a parameter leaves its name on the wire. -/
@[simp] theorem serializedName_withClientFacts (client : ContainerId) (parameter : Property) :
    (context.withClientFacts client parameter).serializedName = parameter.serializedName := by
  -- A parameter that the client knows about gets marks and a client name; of its other parts none
  -- is written anew.
  obtain ⟨_, _, _, _, same⟩ := @withClientFacts_eq context client parameter
  rw [same]

/-- A parameter is an Accept header just if it is a header of that name. -/
theorem isAccept_parameterOf (id : PropertyId) (type : NodeId) (role : Role) (ownerId : String) :
    (context.parameterOf id type role ownerId client).isAccept =
      (role == .header &&
        Text.sameIgnoringCase (wireName (context.definition.propertyAt id)) "Accept") := by
  simp [Property.isAccept, Property.isHeader, parameterOf]

/-- A header of the name is one that the operation declares. -/
theorem slotParameter?_isAccept {slot : WireSlot}
    (listed : slot ∈ (context.definition.operationAt operation).slots)
    (undeclared : ¬context.DeclaresHeader operation "Accept") :
    Yields (context.slotParameter? operation client access slot) fun found _ =>
      ∀ parameter ∈ found, parameter.isAccept = false := by
  unfold slotParameter?
  dsimp only
  -- A void parameter is left out, and one that is refused fails the method.
  split
  · exact .pure fun _ => by simp
  · rename_i valued
    have requested : Yields (context.requestParameter operation slot.property slot.location client)
        fun parameter _ => parameter.isAccept = false := by
      unfold requestParameter
      dsimp only
      split
      · exact Ensures.throw fun _ _ => trivial
      · rename_i location placed
        refine .after fun type => .pure fun _ => ?_
        rw [isAccept_parameterOf, Bool.eq_false_iff]
        intro accepts
        apply undeclared
        obtain ⟨isHeader, isNamed⟩ := Bool.and_eq_true_iff.mp accepts
        -- Of all places, only that of headers makes one.
        cases location with
        | header => exact ⟨slot, listed, by simpa using valued, placed, isNamed⟩
        | _ => simp [roleAt] at isHeader
    refine .bind_told requested fun parameter other => ?_
    split
    · exact Ensures.throw_bind fun _ _ => trivial
    · refine .after fun _ => .pure fun _ found isFound => ?_
      cases isFound
      exact other

/-- A header that is added has the name that was asked for. -/
theorem negotiationHeader_isAccept (negotiation : Negotiation) (contentTypes : List String)
    (optional : Bool) :
    Yields (context.negotiationHeader operation negotiation contentTypes optional) fun header _ =>
      header.isAccept = Text.sameIgnoringCase negotiation.serializedName "Accept" := by
  unfold negotiationHeader
  dsimp only
  -- Of whatever type it is, the rest of the header is the same.
  split
  · split
    · exact .after fun type => .pure fun _ => Bool.true_and _
    · exact .after fun type => .pure fun _ => Bool.true_and _
  · exact .after fun type => .pure fun _ => Bool.true_and _

/-- The header for the content type of a body is another one. -/
theorem negotiateBody_isAccept {wire : List Property} (body : Option Property)
    (others : ∀ parameter ∈ wire, parameter.isAccept = false) (method : List Property) :
    Yields (context.negotiateBody operation body wire method) fun result _ =>
      ∀ parameter ∈ result.1, parameter.isAccept = false := by
  -- A body that brings no header leaves the parameters as they are.
  cases body with
  | none => exact .pure fun _ => others
  | some body =>
    unfold negotiateBody negotiate
    dsimp only
    split
    · exact .pure fun _ => others
    · refine .bind_told (negotiationHeader_isAccept _ _ _) fun header isNamed =>
        .pure fun _ parameter listed => ?_
      rcases List.mem_append.mp listed with earlier | new
      · exact others parameter earlier
      · rw [List.mem_singleton.mp new, isNamed]
        decide +kernel

/-- What tells the type of an Accept header lasts. -/
theorem lasting_isAcceptType (contentTypes : List String) (type : NodeId) :
    Lasting (IsAcceptType contentTypes type) := by
  intro before after known grown
  cases known with
  | text several isString => exact .text several (grown.builtins _ _ isString)
  -- A constant is no model, so that nothing about it is changed any more.
  | @constant value constant single isConstant isValue =>
    exact .constant single (grown.kind isConstant (by simp [NodeKind.label])) isValue

/-- The type of an Accept header follows from the content types that it asks for. -/
theorem negotiationHeader_isAcceptType (contentTypes : List String) (optional : Bool) :
    Yields (context.negotiationHeader operation acceptHeader contentTypes optional)
      fun header state => IsAcceptType (ContentType.orJson contentTypes) header.type state := by
  have constant (value candidate : String) : Yields
      (claimName candidate >>= fun name => addConstant (.text value) (some name))
      (IsAcceptType [value]) := by
    refine .after fun name => Ensures.addNode fun state _ => ?_
    exact .constant rfl (congrArg Node.kind (Catalogue.nodeAt_push_self _ _)) rfl
  have text (several : ∀ value, ContentType.orJson contentTypes ≠ [value]) : Yields stringNode
      (IsAcceptType (ContentType.orJson contentTypes)) := by
    -- The node for texts is there already, or is kept as it is made.
    refine Ensures.builtinNode (fun state node _ known => ?_) fun state _ _ => ?_
    · exact .text several known
    · exact .text several (OrderedMap.get?_insert_self _ _ _)
  unfold negotiationHeader
  dsimp only
  split
  · rename_i only isOnly
    rw [isOnly]
    -- Whatever it is, a single content type makes a constant of this header.
    exact Ensures.bind (constant only _) fun type => Ensures.pure fun _ isType => isType
  · rename_i several
    exact Ensures.bind (text several) fun type => Ensures.pure fun _ isType => isType

/-- Where no header is declared, one is added just if a response carries something. -/
theorem negotiateResponses_accepts {outcomes : Outcomes} {wire : List Property}
    (retains : context.RetainsAll (context.definition.operationAt operation).responses outcomes)
    (others : ∀ parameter ∈ wire, parameter.isAccept = false) (method : List Property) :
    Yields (context.negotiateResponses operation outcomes wire method) fun result state =>
      context.Accepts operation result.1 state := by
  unfold negotiateResponses
  rw [acceptedTypes?_eq retains]
  -- A response decides on the header, or none carries anything.
  cases decides : context.decidingResponse? operation with
  | none =>
    refine .pure fun _ => ⟨?_, by simp [decides]⟩
    rw [decides, Option.isSome_none]
    constructor
    · -- No parameter was an Accept header, and none is added.
      intro sends
      obtain ⟨parameter, listed, accepts⟩ := sends
      rwa [others parameter listed] at accepts
    · exact nofun
  | some deciding =>
    -- No header of the name is there yet, so that one is added.
    have absent : ¬(wire.any fun parameter => parameter.isAccept) = true := by
      rw [List.any_eq_true]
      intro sends
      obtain ⟨parameter, listed, accepts⟩ := sends
      rw [others parameter listed] at accepts
      cases accepts
    unfold negotiate
    dsimp only [Option.map_some]
    rw [if_neg (by exact absent)]
    have header := (@negotiationHeader_isAccept context operation acceptHeader
      (context.declaredTypes deciding) false).both (negotiationHeader_isAcceptType _ _)
    refine Ensures.bind header fun header => Ensures.pure ?_
    rintro state ⟨isNamed, isType⟩
    have isAccept : header.isAccept = true := by
      rw [isNamed]
      decide +kernel
    rw [orJson_declaredTypes decides] at isType
    refine ⟨?_, fun parameter listed accepts other isOther => ?_⟩
    · rw [decides, Option.isSome_some]
      exact iff_of_true ⟨header, List.mem_append_right _ (List.mem_singleton_self _), isAccept⟩ rfl
    · obtain rfl := Option.some.inj (decides.symm.trans isOther)
      -- The header is the only one of its name.
      rcases List.mem_append.mp listed with earlier | new
      · rw [others parameter earlier] at accepts
        cases accepts
      · rw [List.mem_singleton.mp new]
        exact isType

/-! ## Requests -/

/-- Once its header is told by its responses, a request stays so. -/
theorem lasting_accepts (operation : OperationId) (sent : List Property) :
    Lasting (context.Accepts operation sent) :=
  -- The parameter is there already, so only its type could change, and types are lasting.
  fun _ _ known grown => ⟨known.exists_iff, fun parameter listed accepts deciding decides =>
    lasting_isAcceptType _ _ _ _ (known.typed parameter listed accepts deciding decides) grown⟩

/-- The request that is gathered has an Accept header as its responses want it. -/
theorem gatherRequest_accepts (undeclared : ¬context.DeclaresHeader operation "Accept")
    (parameters : List Property) :
    Yields (context.gatherRequest operation client access parameters) fun request state =>
      context.Accepts operation request.wire state := by
  unfold gatherRequest
  dsimp only
  refine .bind_told outcomes_retain fun outcomes retains => ?_
  refine .bind_told (Yields.filterMapM_told _ fun slot listed =>
    slotParameter?_isAccept listed undeclared) fun wire declared => .after fun body => ?_
  refine .bind_told (negotiateBody_isAccept body declared parameters) fun sent others => ?_
  refine Ensures.bind (negotiateResponses_accepts retains others sent.2) fun accepted => ?_
  -- A client that takes its share takes nothing away.
  have lasting := @lasting_accepts context operation accepted.1
  have keeps := ((lasting.robust context).accruing client).elevateAll accepted.1
  exact Keeps.told keeps fun _ => Ensures.pure fun _ accepts => accepts

/-- Tracing what is sent changes none of it, so that the header stays. -/
theorem httpOperation_accepts (undeclared : ¬context.DeclaresHeader operation "Accept")
    (parameters : List Property) :
    Yields (context.httpOperation operation client access parameters) fun result state =>
      context.Accepts operation (result.1.parameters.map WireParameter.property) state := by
  -- What is sent is what the request has, each with its sources.
  refine Ensures.intro (fun state result last _ run => ?_) fun _ _ _ _ _ => trivial
  obtain ⟨request, gathers, traces⟩ := httpOperation_ok run
  rw [properties_of_traceRequest traces]
  exact (gatherRequest_accepts undeclared parameters).ok trivial gathers

end Context

/-! ## Packages -/

section

variable {context : Context}

variable (context) in
/-- Every method with an operation tells its Accept header by its responses. -/
theorem accepts_telling : Telling context fun _ method state =>
    ∀ operation, method.origin = some operation → ¬context.DeclaresHeader operation "Accept" →
      ∀ http, method.operation? = some http →
        context.Accepts operation (http.parameters.map WireParameter.property) state where
  lasting _ method := Lasting.enduring fun before after told grown operation isOrigin undeclared
      http behind =>
    Context.lasting_accepts operation _ before after
      (told operation isOrigin undeclared http behind) grown
  method container operation := by
    refine Context.method_of_origin ?_
    -- Whether the operation declares the header itself is settled once for all.
    by_cases declares : context.DeclaresHeader operation "Accept"
    · -- Of an operation that declares the header itself, nothing is told.
      exact Ensures.intro (fun _ _ _ _ _ undeclared => absurd declares undeclared)
        fun _ _ _ _ _ => trivial
    · -- Of the others, what is told of their requests is told of the methods.
      have accepts := @Context.method_of_httpOperation context operation container
        (fun result => context.Accepts operation (result.1.parameters.map WireParameter.property))
        (fun result => Context.lasting_accepts operation _)
        fun access parameters => Context.httpOperation_accepts declares parameters
      exact accepts.ending fun method state told _ => told
  accessor container crossId apiVersions child state operation isOrigin := by cases isOrigin

/-- In a package, the type of an Accept header is a constant just if there is one content type. -/
theorem isConstant_iff {contentTypes : List String} {type : NodeId} {state : State}
    (isType : Context.IsAcceptType contentTypes type state) (keeps : state.KeepsBuiltins)
    {catalogue : Catalogue} (cores : SameCores state.catalogue catalogue) (value : String) :
    (∃ constant, (catalogue.nodeAt type).kind = .constant constant ∧
        constant.value = .text value) ↔ contentTypes = [value] := by
  -- Either way, the catalogue that is handed out has the node unchanged but for usage.
  cases isType with
  | @constant only constant single isConstant isValue =>
    have same := NodeKind.eq_of_core (cores.core type) (by simp [isConstant, NodeKind.label])
    rw [same, isConstant, single]
    simp [isValue]
  | text several isString =>
    have same := NodeKind.eq_of_core (cores.core type) (by simp [(keeps _ _ isString).2])
    refine iff_of_false ?_ (several value)
    rintro ⟨constant, isConstant, -⟩
    -- A text is primitive, and no constant.
    have isBuiltin := (keeps _ _ isString).2
    rw [← same, isConstant] at isBuiltin
    simp [NodeKind.label] at isBuiltin

end

/--
One response decides on the Accept header of an operation that declares none.

It is the first response kept that carries something, where the first one for each status is kept
and successes go before errors. There is a header just if there is such a response, and the header
is a constant just if that response declares a single content type. What any other response
declares does not matter.
-/
theorem accept_is_constant_iff_deciding {definition : Definition} {options : Options}
    {package : Package} (derived : derivePackage definition options = .ok package) :
    let context := Context.of definition options
    ∀ client ∈ Client.walkAll package.clients, ∀ method ∈ client.methods, ∀ operation,
      method.origin = some operation → ¬context.DeclaresHeader operation "Accept" →
      ∀ http, method.operation? = some http →
        ((∃ wire ∈ http.parameters, wire.property.isAccept = true) ↔
          (context.decidingResponse? operation).isSome) ∧
        ∀ wire ∈ http.parameters, wire.property.isAccept = true → ∀ value,
          (∃ constant,
            (package.catalogue.nodeAt wire.property.type).kind = .constant constant ∧
              constant.value = .text value) ↔
            (context.decidingResponse? operation).map context.declaredTypes = some [value] := by
  intro context client below method member operation isOrigin undeclared http behind
  obtain ⟨clients, run, rfl⟩ := derivePackage_ok derived
  have accepts := (accepts_telling context).clients.ok trivial run client below method member
    operation isOrigin undeclared http behind
  have keeps : (finalState definition options).KeepsBuiltins :=
    ((State.KeepsBuiltins.robust _).stable.clients fun _ _ _ _ => trivial).ok .start run
  have sends : (∃ parameter ∈ http.parameters.map WireParameter.property,
      parameter.isAccept = true) ↔ ∃ wire ∈ http.parameters, wire.property.isAccept = true := by
    simp
  -- What the run says of parameters holds of what is on the wire.
  refine ⟨sends.symm.trans accepts.exists_iff, fun wire listed isAccept value => ?_⟩
  have sent := List.mem_map_of_mem (f := WireParameter.property) listed
  -- There is a header, so that some response decides on it.
  obtain ⟨deciding, decides⟩ := Option.isSome_iff_exists.mp
    (accepts.exists_iff.mp ⟨_, sent, isAccept⟩)
  rw [decides, Option.map_some, Option.some.injEq]
  exact isConstant_iff (accepts.typed _ sent isAccept deciding decides) keeps sameCores_spread value

/-- An archive answers with a record in JSON, or else with a scan. -/
def archive : Definition where
  types := #[{ shape := .model { name := some "Record" } },
    { shape := .model { name := some "Scan" } }]
  operations := #[
    { name := "get", container := ⟨0⟩, verb := .get, path := "/record"
      responses := [
        { status := .code 200, body := some { type := ⟨0⟩, contentTypes := ["application/json"] } },
        { status := .code 203
          body := some { type := ⟨1⟩, contentTypes := ["application/pdf"] } }] }]
  containers := #[{ name := "Archive", operations := [⟨0⟩], service := some {} }]

/-- In the archive the first response decides, and the header is a constant. -/
theorem accept_is_constant_iff_deciding_archive :
    ∃ package, derivePackage archive {} = .ok package ∧
      (∃ client ∈ Client.walkAll package.clients, ∃ method ∈ client.methods,
        method.origin = some ⟨0⟩ ∧ method.operation?.isSome) ∧
      ¬(Context.of archive {}).DeclaresHeader ⟨0⟩ "Accept" ∧
      ∀ client ∈ Client.walkAll package.clients, ∀ method ∈ client.methods,
        method.origin = some ⟨0⟩ → ∀ http, method.operation? = some http →
          (∃ wire ∈ http.parameters, wire.property.isAccept = true) ∧
          ∀ wire ∈ http.parameters, wire.property.isAccept = true →
            ∃ constant,
              (package.catalogue.nodeAt wire.property.type).kind = .constant constant ∧
                constant.value = .text "application/json" := by
  have undeclared : ¬(Context.of archive {}).DeclaresHeader ⟨0⟩ "Accept" := by
    rintro ⟨slot, listed, -⟩
    cases listed
  -- The deciding response declares one content type, whatever the other one does.
  have decides : ((Context.of archive {}).decidingResponse? ⟨0⟩).map
      (Context.of archive {}).declaredTypes = some ["application/json"] := by decide +kernel
  have has : (derivePackage archive {}).toOption.any fun package =>
      (Client.walkAll package.clients).any fun client => client.methods.any fun method =>
        method.origin == some ⟨0⟩ && method.operation?.isSome := by decide +kernel
  -- The package is there, with a method for the one operation.
  cases derived : derivePackage archive {} with
  | error failure => simp [derived, Except.toOption] at has
  | ok package =>
    rw [derived] at has
    simp only [Except.toOption, Option.any_some, List.any_eq_true, Bool.and_eq_true,
      beq_iff_eq] at has
    refine ⟨package, rfl, has, undeclared, ?_⟩
    intro client below method member isOrigin http behind
    have told := accept_is_constant_iff_deciding derived client below method member ⟨0⟩ isOrigin
      undeclared http behind
    refine ⟨told.1.mpr ?_, fun wire listed isAccept => (told.2 wire listed isAccept _).mpr decides⟩
    rw [← Option.isSome_map, decides]
    rfl

/-- The header is a constant, though the other success comes in another content type. -/
theorem constant_may_leave_out_a_success :
    ∃ package, derivePackage archive {} = .ok package ∧
      ∃ client ∈ package.clients, ∃ method ∈ client.methods, ∃ http ∈ method.operation?,
        ∃ wire ∈ http.parameters, wire.property.isAccept = true ∧ ∃ constant,
          (package.catalogue.nodeAt wire.property.type).kind = .constant constant ∧
            ∃ response ∈ (archive.operationAt http.origin).responses,
              (Context.of archive {}).isErrorResponse response = false ∧
                ((Context.of archive {}).payload? response).isSome ∧
                ∀ value, constant.value = .text value →
                  (Context.of archive {}).declaredTypes response ≠ [value] := by
  have found : ((Context.of archive {}).clients.run {}).1.toOption.any fun clients =>
      clients.any fun client => client.methods.any fun method => method.operation?.any fun http =>
        ((archive.operationAt http.origin).responses.any fun response =>
          !(Context.of archive {}).isErrorResponse response &&
            ((Context.of archive {}).payload? response).isSome &&
            (Context.of archive {}).declaredTypes response != ["application/json"]) &&
        http.parameters.any fun wire => wire.property.isAccept &&
          match ((finalState archive {}).catalogue.nodeAt wire.property.type).kind with
          | .constant constant => constant.value == .text "application/json"
          | _ => false := by
    decide +kernel
  -- That there is such a header is decided for the run, and carried over to the package.
  obtain ⟨clients, run, derived⟩ :=
    derivePackage_of_isOk (by decide +kernel : (derivePackage archive {}).isOk = true)
  rw [run] at found
  simp only [Except.toOption, Option.any_some, Bool.and_eq_true, List.any_eq_true,
    Option.any_eq_true, Bool.not_eq_true', bne_iff_ne] at found
  obtain ⟨client, isClient, method, isMethod, http, behind,
    ⟨response, isResponse, ⟨success, carries⟩, differs⟩, wire, listed, isAccept, told⟩ := found
  split at told
  · rename_i constant isConstant
    -- A constant is in the package what it was at the end of the run.
    have simple : ((finalState archive {}).catalogue.nodeAt wire.property.type).kind.label ∈
        ["builtin", "constant", "array", "dict"] := by simp [isConstant, NodeKind.label]
    refine ⟨_, derived, client, isClient, method, isMethod, http, behind, wire, listed, isAccept,
      constant, (NodeKind.eq_of_core (sameCores_spread.core _) simple).trans isConstant, response,
      isResponse, success, carries, fun value isValue => ?_⟩
    rw [beq_iff_eq.mp told] at isValue
    cases isValue
    exact differs
  · cases told

end Derivation

end ClientModel
