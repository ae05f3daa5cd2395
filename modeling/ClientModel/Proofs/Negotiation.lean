import ClientModel.Proofs.Acceptance
import ClientModel.Proofs.Bodies

/-!
What the headers for content types are fed by, where an operation does not declare them.

A header that is added to a request takes its value from whatever goes by its name, as any other
parameter does. A parameter for it joins those of the method unless one of them has its name; where
nothing else goes by the name, the header is fed by this parameter alone, and so is nothing else but
what has the name of the header itself.
-/

namespace ClientModel.Derivation

open Service (Definition Draft WireSlot)

/-- The type of a header that is added to a request: a constant, or the text. -/
def IsHeaderType (type : NodeId) (state : State) : Prop :=
  (∃ constant, (state.catalogue.nodeAt type).kind = .constant constant) ∨
    state.builtins.get? .string = some type

/-- A parameter of a request is one of the headers that are added for content types. -/
structure IsNegotiated (header : Property) : Prop where
  role : header.role = .header
  version : header.isApiVersion = false
  named : ∃ negotiation ∈ [contentTypeHeader, acceptHeader],
    header.name = negotiation.name ∧ header.serializedName = negotiation.serializedName

/-- A method parameter was made for such a header. -/
structure IsMadeFor (own : Property) (state : State) : Prop where
  origin : own.origin = none
  version : own.isApiVersion = false
  named : ∃ negotiation ∈ [contentTypeHeader, acceptHeader], own.name = negotiation.name
  typed : IsHeaderType own.type state

/-- A parameter of a request goes by a name, or it is a body of a model with a member that does. -/
def GoesBy (catalogue : Catalogue) (name : String) (wanted : Property) : Prop :=
  wanted.name = name ∨
    wanted.isBody = true ∧ ∃ model, catalogue.model? wanted.type = some model ∧
      ∃ member ∈ model.properties, member.name = name

/-- Some parameters of a request and of its method, as far as headers have joined them. -/
structure Negotiates (declared wire method : List Property) (state : State) : Prop where
  headers : ∀ header ∈ wire, header.origin = none →
    IsNegotiated header ∧ ∃ own ∈ method, own.name = header.name
  made : ∀ own ∈ method, own ∈ declared ∨ IsMadeFor own state

/-! ## What lasts -/

variable {state before after : State} {own : Property}

/-- The type of a header stays one. -/
theorem lasting_isHeaderType (type : NodeId) : Lasting (IsHeaderType type) := by
  -- A constant keeps its kind, and the type for texts is remembered.
  rintro before after (⟨constant, isConstant⟩ | isString) grown
  · exact .inl ⟨constant, grown.kind isConstant (by simp [NodeKind.label])⟩
  · exact .inr (grown.builtins _ _ isString)

/-- What was made for a header stays so. -/
theorem IsMadeFor.grown (made : IsMadeFor own before) (grown : Grown before after) :
    IsMadeFor own after :=
  { made with typed := lasting_isHeaderType own.type before after made.typed grown }

/-- A header holds no members. -/
theorem IsHeaderType.model?_eq_none {type : NodeId} (isType : IsHeaderType type state)
    (keeps : state.KeepsBuiltins) : state.catalogue.model? type = none := by
  -- A constant and a builtin type are no models.
  rcases isType with ⟨constant, isConstant⟩ | isString
  · rw [Catalogue.model?, Node.model?, isConstant]
  · have isBuiltin := (keeps _ _ isString).2
    rw [Catalogue.model?, Node.model?]
    split
    · rename_i model isModel
      simp [isModel, NodeKind.label] at isBuiltin
    · rfl

/-- What was negotiated lasts. -/
theorem lasting_negotiates (declared wire method : List Property) :
    Lasting (Negotiates declared wire method) :=
  -- Which headers there are was settled when they were made; only their types could change.
  fun _ _ known grown => ⟨known.headers, fun own listed =>
    (known.made own listed).imp_right fun made => made.grown grown⟩

/-- What goes by a name does so ever after, when models are marked. -/
theorem GoesBy.mono {catalogue larger : Catalogue} {name : String} {wanted : Property}
    (goesBy : GoesBy catalogue name wanted)
    -- Only what goes by the name of a member depends on the catalogue.
    (models : catalogue.KeepsMembers larger) :
    GoesBy larger name wanted := by
  refine goesBy.imp_right fun ⟨isBody, model, isModel, member, listed, named⟩ => ⟨isBody, ?_⟩
  obtain ⟨later, isLater, same⟩ := models _ model isModel
  obtain ⟨other, isOther, alike⟩ := ModelNode.exists_member same listed
  have sameName : other.name = member.name :=
    (congrArg Property.name alike : other.unmarked.name = member.unmarked.name)
  exact ⟨later, isLater, other, isOther, sameName.trans named⟩

namespace Context

variable (context : Context)

/-- Neither a declared parameter of an operation nor one that its client has goes by a name. -/
structure IsFree (operation : OperationId) (inScope : List Property) (name : String) : Prop where
  declared : ∀ id ∈ (context.definition.operationAt operation).parameters,
    (context.definition.propertyAt id).name ≠ name ∧ context.choices.alias? id ≠ some name
  inScope : ∀ parameter ∈ inScope,
    parameter.name ≠ name ∧ context.hasAlias parameter name = false

/-- A header has a parameter of its own, which supplies nothing else but what goes by its name. -/
def HasOwn (catalogue : Catalogue) (http : HttpOperation) (parameters : List Property)
    (header : WireParameter) : Prop :=
  ∃ own ∈ parameters, own.origin = none ∧ own.name = header.property.name ∧
    header.sources = [.parameter own] ∧
    ∀ other ∈ http.wireParameters, ∀ source ∈ other.sources, source.root = own →
      GoesBy catalogue header.property.name other.property

/-- What is known of such a parameter during a run: it may still turn out to hold members. -/
def HasMade (http : HttpOperation) (parameters : List Property) (header : WireParameter)
    (state : State) : Prop :=
  ∃ own ∈ parameters, IsMadeFor own state ∧ own.name = header.property.name ∧
    header.sources = [.parameter own] ∧
    ∀ other ∈ http.wireParameters, ∀ source ∈ other.sources, source.root = own →
      GoesBy state.catalogue header.property.name other.property ∨
        (state.catalogue.model? own.type).isSome

/-- Every header that was added to a request has its own parameter, if nothing goes by its name. -/
def Negotiated (operation : OperationId) (client : ContainerId)
    (result : HttpOperation × List Property) (state : State) : Prop :=
  ∀ header ∈ result.1.parameters, header.property.origin = none →
    IsNegotiated header.property ∧
      (context.IsFree operation (state.scopeOf context client) header.property.name →
        HasMade result.1 result.2 header state)

variable {context} {operation : OperationId} {client : ContainerId} {access : Access}
  {supply : Supply} {wanted : Property}

/-! ## Headers -/

/-- The header that is negotiated has the name of one of the two, and a type of a header. -/
theorem negotiationHeader_isNegotiated {negotiation : Negotiation}
    (known : negotiation ∈ [contentTypeHeader, acceptHeader]) (contentTypes : List String)
    (optional : Bool) :
    Yields (context.negotiationHeader operation negotiation contentTypes optional)
      fun header state => header.origin = none ∧ IsNegotiated header ∧
        IsHeaderType header.type state := by
  -- Its type is a constant or that of texts.
  have constant (value candidate : String) : Yields
      (claimName candidate >>= fun name => addConstant (.text value) (some name))
      IsHeaderType :=
    .after fun name => Ensures.addNode fun state _ =>
      .inl ⟨_, congrArg Node.kind (Catalogue.nodeAt_push_self _ _)⟩
  have text : Yields stringNode IsHeaderType :=
    Ensures.builtinNode (fun state node _ isString => .inr isString) fun state _ _ =>
      .inr (OrderedMap.get?_insert_self _ _ _)
  have named (type : NodeId) : IsNegotiated
      { name := negotiation.name
        serializedName := negotiation.serializedName
        type
        optional
        role := .header
        isGeneratedName := true
        crossId := context.definition.operationCrossId operation ++ "." ++ negotiation.name } :=
    ⟨rfl, rfl, negotiation, known, rfl, rfl⟩
  unfold negotiationHeader
  dsimp only
  -- Of whatever type it is, the rest of the header is the same.
  split
  · split
    · exact Ensures.bind (constant _ _) fun type => Ensures.pure fun _ isType =>
        ⟨rfl, named type, isType⟩
    · exact Ensures.bind text fun type => Ensures.pure fun _ isType => ⟨rfl, named type, isType⟩
  · exact Ensures.bind text fun type => Ensures.pure fun _ isType => ⟨rfl, named type, isType⟩

/-- Where a header is added to some parameters, one of them has its name. -/
theorem exists_mem_withHeaderParameter (parameters : List Property) (header : Property) :
    ∃ own ∈ withHeaderParameter parameters header, own.name = header.name := by
  unfold withHeaderParameter
  -- One of that name was there, or the header is added itself.
  split
  · rename_i has
    obtain ⟨own, listed, named⟩ := List.any_eq_true.mp has
    exact ⟨own, listed, beq_iff_eq.mp named⟩
  · exact ⟨_, List.mem_append_right _ (List.mem_singleton_self _), rfl⟩

/-- Of the parameters with a header, each was there or is made for it. -/
theorem mem_withHeaderParameter {parameters : List Property} {header : Property}
    (listed : own ∈ withHeaderParameter parameters header) :
    own ∈ parameters ∨ own = { header with role := .method, serializedName := header.name } := by
  -- The header is put to the end, unless one of its name is there already.
  unfold withHeaderParameter at listed
  split at listed
  · exact .inl listed
  · exact (List.mem_append.mp listed).imp_right List.mem_singleton.mp

/-- All parameters are there still when a header is added. -/
theorem subset_withHeaderParameter (parameters : List Property) (header : Property) :
    parameters ⊆ withHeaderParameter parameters header := by
  -- Nothing is taken out in either case.
  unfold withHeaderParameter
  split
  · exact List.Subset.refl _
  · exact List.subset_append_left _ _

/-! ## Requests -/

variable {declared wire method : List Property}

/-- A header joins the parameters of the request, and one for it those of the method. -/
theorem negotiate_negotiates {negotiation : Negotiation}
    (known : negotiation ∈ [contentTypeHeader, acceptHeader]) (contentTypes : List String)
    (optional : Bool) :
    Ensures (Negotiates declared wire method)
      (context.negotiate operation negotiation contentTypes optional wire method)
      (fun result => Negotiates declared result.1 result.2) fun _ _ => True := by
  unfold negotiate
  dsimp only
  split
  · -- What was told of earlier headers lasts while one more is made.
    exact Ensures.pure fun _ before => before
  · refine Ensures.bind ((negotiationHeader_isNegotiated known contentTypes optional).beside
      (lasting_negotiates declared wire method) fun start =>
        (Grown.robust context start).toSteady.negotiationHeader operation negotiation contentTypes
          optional) fun header => Ensures.pure ?_
    rintro state ⟨before, bare, negotiated, typed⟩
    -- Of the headers that are sent, and of what was made for them, only the last is new.
    refine ⟨fun other listed isBare => ?_, fun own listed => ?_⟩
    · rcases List.mem_append.mp listed with earlier | new
      · obtain ⟨isNegotiated, own, taken, named⟩ := before.headers other earlier isBare
        exact ⟨isNegotiated, own, subset_withHeaderParameter _ _ taken, named⟩
      · rw [List.mem_singleton.mp new]
        exact ⟨negotiated, exists_mem_withHeaderParameter method header⟩
    · rcases mem_withHeaderParameter listed with earlier | rfl
      · exact before.made own earlier
      · obtain ⟨_, isKnown, named, -⟩ := negotiated.named
        exact .inr ⟨bare, negotiated.version, ⟨_, isKnown, named⟩, typed⟩

/-- The parameter of a slot comes from a declaration. -/
theorem slotParameter?_origin (slot : WireSlot) :
    Yields (context.slotParameter? operation client access slot) fun found _ =>
      ∀ parameter ∈ found, parameter.origin.isSome := by
  -- It is made from its property where the request is put together.
  have requested : Yields (context.requestParameter operation slot.property slot.location client)
      fun parameter _ => parameter.origin.isSome := by
    unfold requestParameter
    dsimp only
    split
    · exact Ensures.throw fun _ _ => trivial
    · exact .after fun type => .pure fun _ => by rw [origin_parameterOf]; rfl
  unfold slotParameter?
  dsimp only
  split
  · exact .pure fun _ _ nothing => by cases nothing
  · refine .bind_told requested fun parameter isDeclared => ?_
    split
    · exact Ensures.throw_bind fun _ _ => trivial
    · refine .after fun _ => .pure fun _ found isFound => ?_
      cases isFound
      exact isDeclared

/-- Of all that a request sends beside its body, what has no declaration was negotiated. -/
theorem gatherRequest_negotiates (parameters : List Property) :
    Yields (context.gatherRequest operation client access parameters) fun request state =>
      Negotiates parameters request.wire request.parameters state := by
  unfold gatherRequest
  dsimp only
  refine .after fun outcomes => .bind_told (Yields.filterMapM_told _ fun slot _ =>
    slotParameter?_origin slot) fun wire declared => .after fun body => ?_
  -- Up to here, everything that is sent was declared.
  have start (state : State) : Negotiates parameters wire parameters state :=
    ⟨fun header listed bare => by simpa [bare] using declared header listed,
      fun own listed => .inl listed⟩
  have ofBody : Yields (context.negotiateBody operation body wire parameters) fun result state =>
      Negotiates parameters result.1 result.2 state := by
    cases body with
    | none => exact .pure fun state => start state
    | some body => exact (negotiate_negotiates (by simp) _ _).starting fun state _ => start state
  refine Ensures.bind ofBody fun sent => ?_
  have ofResponses : Ensures (Negotiates parameters sent.1 sent.2)
      (context.negotiateResponses operation outcomes sent.1 sent.2)
      (fun result => Negotiates parameters result.1 result.2) fun _ _ => True := by
    unfold negotiateResponses
    split
    · exact negotiate_negotiates (by simp) _ _
    · exact Ensures.pure fun _ known => known
  refine Ensures.bind ofResponses fun accepted => ?_
  -- A client that takes its share takes nothing away.
  have lasting := lasting_negotiates parameters accepted.1 accepted.2
  have keeps := ((lasting.robust context).accruing client).elevateAll accepted.1
  exact Keeps.told keeps fun _ => Ensures.pure fun _ negotiates => negotiates

/-! ## Sources -/

/-- What was made up is the same as something else by its name alone. -/
theorem isSame_of_origin (bare : own.origin = none) (wanted : Property) :
    context.isSame wanted own = (own.name == wanted.name) := by
  simp [isSame, sameDeclaration, hasAlias, bare]

/-- A header is the same as a parameter just if that has its name or is called so. -/
theorem isSame_header (bare : wanted.origin = none) (candidate : Property) :
    context.isSame wanted candidate =
      (candidate.name == wanted.name || context.hasAlias candidate wanted.name) := by
  cases isOrigin : candidate.origin <;> simp [isSame, sameDeclaration, bare, isOrigin]

/-- Neither header has the name of a subscription. -/
theorem not_isSubscriptionName {name : String}
    (named : ∃ negotiation ∈ [contentTypeHeader, acceptHeader], name = negotiation.name) :
    isSubscriptionName name = false := by
  -- There are but two headers, and their names are written out.
  obtain ⟨negotiation, known, rfl⟩ := named
  simp only [List.mem_cons, List.not_mem_nil, or_false] at known
  rcases known with rfl | rfl <;> decide +kernel

/-- A parameter that was made for a header supplies what has its name; it holds nothing. -/
theorem goesBy_of_source {sources : List Source} {source : Source} (made : IsMadeFor own state)
    (found : context.sources operation client supply wanted = .ok sources)
    (listed : source ∈ sources) (isRoot : source.root = own) :
    GoesBy supply.catalogue own.name wanted ∨ (supply.catalogue.model? own.type).isSome := by
  -- By the three ways in which sources are found: a supplier, a body put together, a holder.
  cases isSupplied : context.supplier? client supply wanted with
  | some supplier =>
    rw [sources_of_supplier isSupplied] at found
    cases found
    obtain rfl := List.mem_singleton.mp listed
    obtain rfl : supplier = own := isRoot
    -- It is neither a version nor a subscription.
    rcases (supplier?_eq_some isSupplied).2 with same | ⟨-, isVersion⟩ | ⟨-, -, isSubscription⟩
    · rw [isSame_of_origin made.origin] at same
      exact .inl (.inl (beq_iff_eq.mp same).symm)
    · rw [made.version] at isVersion
      cases isVersion
    · rw [not_isSubscriptionName made.named] at isSubscription
      cases isSubscription
  | none =>
    by_cases complete : context.CanAssemble supply wanted
    · rw [sources_of_assembled isSupplied complete] at found
      cases found
      obtain ⟨supplier, isSupplier, rfl⟩ := List.mem_map.mp listed
      obtain rfl : supplier = own := isRoot
      obtain ⟨member, isMember, isFound⟩ := List.mem_filterMap.mp isSupplier
      have same := List.find?_some isFound
      rw [isSame_of_origin made.origin] at same
      obtain ⟨model, isModel, members⟩ := model?_of_bodyMembers complete.1
      refine .inl (.inr ⟨?_, model, isModel, member, members ▸ isMember, (beq_iff_eq.mp same).symm⟩)
      by_contra other
      exact complete.1 (if_neg other)
    · rw [sources_of_incomplete isSupplied complete] at found
      cases holder : context.holder? supply wanted with
      | none =>
        rw [holder] at found
        cases found
      | some other =>
        rw [holder] at found
        cases found
        obtain rfl := List.mem_singleton.mp listed
        obtain ⟨parent, -, model, isModel, member, -, -, rfl⟩ := holder?_eq_some holder
        obtain rfl : parent = own := isRoot
        exact .inr (Option.isSome_of_eq_some isModel)

/-- A header is fed by the first method parameter that goes by its name, if no client has one. -/
theorem sources_of_free (negotiated : IsNegotiated wanted) (bare : wanted.origin = none)
    (free : ∀ parameter ∈ supply.clientParameters,
      parameter.name ≠ wanted.name ∧ context.hasAlias parameter wanted.name = false)
    (found : supply.methodParameters.find? (context.isSame wanted) = some own) :
    context.sources operation client supply wanted = .ok [.parameter own] := by
  -- No parameter in scope of the client goes by its name, so the method's own are searched.
  have ofClient : supply.clientParameters.find? (context.isSame wanted) = none := by
    refine List.find?_eq_none.mpr fun parameter listed => ?_
    obtain ⟨other, noAlias⟩ := free parameter listed
    simp [isSame_header bare, other, noAlias]
  have subscription : isSubscriptionName wanted.name = false := by
    obtain ⟨negotiation, known, named, -⟩ := negotiated.named
    exact not_isSubscriptionName ⟨negotiation, known, named⟩
  apply sources_of_supplier
  simp [supplier?, clientSupplier?, ofClient, negotiated.version, subscription, found]

/-- Without a declared parameter of its name, a header is the same as the one made for it alone. -/
theorem find?_of_free {request : Request} {parameters : List Property}
    (negotiates : Negotiates parameters request.wire request.parameters state)
    (declared : ∀ parameter ∈ parameters, context.IsDeclaredFor operation parameter)
    (listed : wanted ∈ request.wire) (bare : wanted.origin = none)
    (free : context.IsFree operation (state.scopeOf context client) wanted.name) :
    ∃ own ∈ context.keptParameters request, IsMadeFor own state ∧ own.name = wanted.name ∧
      (context.keptParameters request).find? (context.isSame wanted) = some own := by
  -- By assumption no declared parameter goes by the name, so whatever does was made for it.
  have isMade (own : Property) (taken : own ∈ request.parameters)
      (same : context.isSame wanted own = true) : IsMadeFor own state := by
    refine (negotiates.made own taken).resolve_left fun early => ?_
    obtain ⟨id, isDeclared, isOrigin, named⟩ := declared own early
    obtain ⟨otherName, noAlias⟩ := free.declared id isDeclared
    rw [isSame_header bare, Bool.or_eq_true, beq_iff_eq, named] at same
    rcases same with isName | isAlias
    · exact otherName isName
    · simp [hasAlias, isOrigin, noAlias] at isAlias
  -- The one that was made for it is not dropped, for it is no segment of the path.
  obtain ⟨own, taken, named⟩ := (negotiates.headers wanted listed bare).2
  have same : context.isSame wanted own = true := by simp [isSame_header bare, named]
  have kept : own ∈ context.keptParameters request := by
    refine List.mem_filter.mpr ⟨taken, ?_⟩
    rw [(isMade own taken same).origin]
  cases isFirst : (context.keptParameters request).find? (context.isSame wanted) with
  | none => exact absurd same (List.find?_eq_none.mp isFirst own kept)
  | some first =>
    have member := List.mem_of_find?_eq_some isFirst
    have made := isMade first (List.mem_filter.mp member).1 (List.find?_some isFirst)
    have named := List.find?_some isFirst
    rw [isSame_of_origin made.origin] at named
    exact ⟨first, member, made, beq_iff_eq.mp named, rfl⟩

/-- An added header has a parameter of its own, where nothing else goes by its name. -/
theorem httpOperation_negotiated {parameters : List Property}
    (declared : ∀ parameter ∈ parameters, context.IsDeclaredFor operation parameter) :
    Yields (context.httpOperation operation client access parameters)
      (context.Negotiated operation client) := by
  refine Ensures.intro (fun state result last _ run => ?_) fun _ _ _ _ _ => trivial
  obtain ⟨request, gathers, traces⟩ := httpOperation_ok run
  obtain ⟨inWire, inBody, -, -, kept⟩ := traceRequest_ok traces
  have negotiates := (gatherRequest_negotiates parameters).ok trivial gathers
  -- Whatever is sent was traced in the supply that the request had in the end.
  have traced (other : WireParameter) (sent : other ∈ result.1.wireParameters) :
      context.sources operation client
        (last.supply context client (context.keptParameters request)) other.property =
          .ok other.sources := by
    rcases List.mem_append.mp sent with ofWire | ofBody
    · obtain ⟨wanted, -, isTraced⟩ := partner_of_mem (mapM_eq_ok_iff.mp inWire).flip ofWire
      obtain ⟨rfl, found⟩ := trace_ok isTraced
      exact found
    · obtain ⟨wanted, -, isTraced⟩ := optionMapM_eq_ok inBody other (Option.mem_toList.mp ofBody)
      obtain ⟨rfl, found⟩ := trace_ok isTraced
      exact found
  -- Now to any header without a declaration, which was negotiated.
  intro header listed bare
  have inRequest : header.property ∈ request.wire := by
    rw [← properties_of_traceRequest traces]
    exact List.mem_map_of_mem listed
  have negotiated := (negotiates.headers _ inRequest bare).1
  refine ⟨negotiated, fun free => ?_⟩
  obtain ⟨own, taken, made, named, found⟩ := find?_of_free negotiates declared inRequest bare free
  have sources : context.sources operation client
      (last.supply context client (context.keptParameters request)) header.property =
        .ok [.parameter own] := sources_of_free negotiated bare free.inScope found
  rw [traced header (List.mem_append_left _ listed)] at sources
  refine ⟨own, kept ▸ taken, made, named, Except.ok.inj sources, ?_⟩
  intro other sent source isSource isRoot
  rw [← named]
  exact goesBy_of_source made (traced other sent) isSource isRoot

/-! ## Methods -/

/-- What is told of added headers lasts. -/
theorem lasting_negotiated (operation : OperationId) (client : ContainerId)
    (result : HttpOperation × List Property) :
    Lasting (context.Negotiated operation client result) := by
  intro before after negotiated grown header listed bare
  obtain ⟨isNegotiated, owns⟩ := negotiated header listed bare
  refine ⟨isNegotiated, fun free => ?_⟩
  -- What is free in the end was free before, since parameters in scope stay there.
  obtain ⟨own, taken, made, named, sources, others⟩ := owns
    ⟨free.declared, fun parameter inScope => free.inScope parameter
      (grown.scopeOf client parameter inScope)⟩
  refine ⟨own, taken, made.grown grown, named, sources, fun other sent source isSource isRoot => ?_⟩
  refine (others other sent source isSource isRoot).imp
    (fun goesBy => goesBy.mono grown.keepsMembers) fun holds => ?_
  obtain ⟨model, isModel⟩ := Option.isSome_iff_exists.mp holds
  obtain ⟨later, isLater, -⟩ := grown.model? isModel
  exact Option.isSome_of_eq_some isLater

end Context

/-! ## Packages -/

section

variable {context : Context}

variable (context) in
/-- What is told of added headers is told throughout a run. -/
theorem negotiated_telling : Telling context fun container method state =>
    ∀ operation, method.origin = some operation → ∀ http, method.operation? = some http →
      context.Negotiated operation container (http, method.parameters) state where
  -- What is told of a state without usage is told of all later ones; and of methods it is told as
  -- they are made.
  lasting container method := Lasting.enduring fun before after told grown operation isOrigin http
      behind =>
    Context.lasting_negotiated operation container _ before after
      (told operation isOrigin http behind) grown
  method container operation := by
    refine Context.method_of_origin ?_
    exact Context.method_of_declared (Context.lasting_negotiated operation container)
      fun access parameters declared => Context.httpOperation_negotiated declared
  accessor container crossId apiVersions child state operation isOrigin := by cases isOrigin

end

/--
A header that is added to a request has a parameter of its own, if nothing else goes by its name.

Of all that a request sends beside its body, the headers for content types are all that no
declaration is for. If neither a declared parameter of the operation nor one in scope of the client
goes by the name of such a header, it is fed by the method parameter that was made for it, which
supplies nothing else but what has this name as well.
-/
theorem added_header_has_own_parameter {definition : Definition} {options : Options}
    {package : Package} (derived : derivePackage definition options = .ok package) :
    let context := Context.of definition options
    ∀ client ∈ Client.walkAll package.clients, ∀ method ∈ client.methods, ∀ operation,
      method.origin = some operation → ∀ http, method.operation? = some http →
        ∀ header ∈ http.parameters, header.property.origin = none →
          IsNegotiated header.property ∧
            (context.IsFree operation
                ((finalState definition options).parametersInScope definition client.origin)
                header.property.name →
              Context.HasOwn package.catalogue http method.parameters header) := by
  intro context client below method member operation isOrigin http behind header listed bare
  -- The run tells it of the state at its end, whose nodes the package has with their usage.
  obtain ⟨clients, run, rfl⟩ := derivePackage_ok derived
  obtain ⟨negotiated, owns⟩ := (negotiated_telling context).clients.ok trivial run client below
    method member operation isOrigin http behind header listed bare
  have keeps : (finalState definition options).KeepsBuiltins :=
    ((State.KeepsBuiltins.robust _).stable.clients fun _ _ _ _ => trivial).ok .start run
  refine ⟨negotiated, fun free => ?_⟩
  obtain ⟨own, taken, made, named, sources, others⟩ := owns free
  -- A header has a primitive type, so nothing is looked up in it.
  refine ⟨own, taken, made.origin, named, sources, fun other sent source isSource isRoot => ?_⟩
  have goesBy := (others other sent source isSource isRoot).resolve_right (by
    rw [made.typed.model?_eq_none keeps]
    exact Bool.false_ne_true)
  exact goesBy.mono (keepsMembers_spread _ _ _ _)

/--
A planetarium lists its stars by the page, and watches one through a dome.

The client for the dome is made with a parameter that goes by the name of a header, and so does a
query parameter of its operation.
-/
def planetarium : Definition where
  types := #[{ shape := .scalar { name := "string" } },
    { shape := .model { name := some "Star" } }]
  properties := #[{ name := "page", type := ⟨0⟩ }, { name := "accept", type := ⟨0⟩ },
    { name := "accept", type := ⟨0⟩ }]
  operations := #[
    { name := "list", container := ⟨0⟩, verb := .get, path := "/stars"
      parameters := [⟨0⟩], slots := [⟨⟨0⟩, some .query⟩]
      responses := [{ status := .code 200, body := some { type := ⟨1⟩ } }] },
    { name := "watch", container := ⟨1⟩, verb := .get, path := "/watch"
      slots := [⟨⟨1⟩, some .query⟩]
      responses := [{ status := .code 200, body := some { type := ⟨1⟩ } }] }]
  containers := #[
    { name := "Planetarium", operations := [⟨0⟩], children := [⟨1⟩], service := some {} },
    { name := "Dome", isInterface := true, parent := some ⟨0⟩, operations := [⟨1⟩] }]
  customizations := Service.Customizations.setSetup {} ⟨1⟩ none { parameters := [⟨2⟩] }

/-- In the planetarium a header is added that nothing else goes by the name of. -/
theorem added_header_has_own_parameter_planetarium :
    ∃ package, derivePackage planetarium {} = .ok package ∧
      ∃ client ∈ package.clients, ∃ method ∈ client.methods, method.origin = some ⟨0⟩ ∧
        ∃ http ∈ method.operation?, ∃ header ∈ http.parameters,
          header.property.origin = none ∧
          (Context.of planetarium {}).IsFree ⟨0⟩
            ((finalState planetarium {}).parametersInScope planetarium client.origin)
            header.property.name ∧
          Context.HasOwn package.catalogue http method.parameters header := by
  -- That there is such a header is evaluated.
  have found : ((Context.of planetarium {}).clients.run {}).1.toOption.any fun clients =>
      clients.any fun client => client.methods.any fun method => method.origin == some ⟨0⟩ &&
        method.operation?.any fun http => http.parameters.any fun header =>
          header.property.origin == none &&
          ((planetarium.operationAt ⟨0⟩).parameters.all fun id =>
            (planetarium.propertyAt id).name != header.property.name &&
              (Context.of planetarium {}).choices.alias? id != some header.property.name) &&
          ((finalState planetarium {}).parametersInScope planetarium client.origin).all
            fun parameter => parameter.name != header.property.name &&
              !(Context.of planetarium {}).hasAlias parameter header.property.name := by
    decide +kernel
  obtain ⟨clients, run, derived⟩ :=
    derivePackage_of_isOk (by decide +kernel : (derivePackage planetarium {}).isOk = true)
  rw [run] at found
  simp only [Except.toOption, Option.any_some, Bool.and_eq_true, List.any_eq_true,
    Option.any_eq_true, List.all_eq_true, beq_iff_eq, bne_iff_ne, Bool.not_eq_true'] at found
  -- What was evaluated is all that the theorem asks for.
  obtain ⟨client, isClient, method, isMethod, isOrigin, http, behind, header, listed,
    ⟨bare, declared⟩, inScope⟩ := found
  have free : (Context.of planetarium {}).IsFree ⟨0⟩
      ((finalState planetarium {}).parametersInScope planetarium client.origin)
      header.property.name := ⟨declared, inScope⟩
  refine ⟨_, derived, client, isClient, method, isMethod, isOrigin, http, behind, header, listed,
    bare, free, ?_⟩
  exact (added_header_has_own_parameter derived client
    (mem_walkAll.mpr ⟨client, isClient, mem_walk_self client⟩) method isMethod ⟨0⟩ isOrigin http
    behind header listed bare).2 free

/-- The header is fed by the parameter of the dome, and so is the query that has its name. -/
theorem added_header_may_share_its_source :
    ∃ package, derivePackage planetarium {} = .ok package ∧
      ∃ client ∈ Client.walkAll package.clients, ∃ method ∈ client.methods,
        ∃ http ∈ method.operation?, ∃ header ∈ http.parameters, header.property.origin = none ∧
          ∃ other ∈ http.parameters, other.property.isHeader = false ∧
            ∃ source ∈ header.sources, ∃ also ∈ other.sources, also.root = source.root := by
  -- Both parameters and their common source are found by evaluation.
  have found : ((Context.of planetarium {}).clients.run {}).1.toOption.any fun clients =>
      (Client.walkAll clients).any fun client => client.methods.any fun method =>
        method.operation?.any fun http => http.parameters.any fun header =>
          header.property.origin == none && http.parameters.any fun other =>
            !other.property.isHeader && header.sources.any fun source => other.sources.any
              fun also => also.root == source.root := by
    decide +kernel
  obtain ⟨clients, run, derived⟩ :=
    derivePackage_of_isOk (by decide +kernel : (derivePackage planetarium {}).isOk = true)
  rw [run] at found
  simp only [Except.toOption, Option.any_some, Bool.and_eq_true, List.any_eq_true,
    Option.any_eq_true, beq_iff_eq, Bool.not_eq_true'] at found
  obtain ⟨client, below, method, isMethod, http, behind, header, listed, bare, other, isOther,
    apart, source, isSource, also, isAlso, same⟩ := found
  exact ⟨_, derived, client, below, method, isMethod, http, behind, header, listed, bare, other,
    isOther, apart, source, isSource, also, isAlso, same⟩

end ClientModel.Derivation
