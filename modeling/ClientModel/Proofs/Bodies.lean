import ClientModel.Proofs.Completeness
import ClientModel.Proofs.DeclaredTypes
import ClientModel.Proofs.Tracing

/-!
How the body of a request is put together from parameters.

A body that no parameter supplies as a whole is put together from parameters for the members that
its model declares itself. Members that the model inherits are not looked for: they come with the
others only if a parameter for one of these happens to stand for them as well.
-/

namespace ClientModel

/-- A property is a member of a model, be it of its own or inherited from its base. -/
inductive Catalogue.HasMember (catalogue : Catalogue) (member : Property) : NodeId → Prop where
  | own {id : NodeId} {model : ModelNode} (isModel : catalogue.model? id = some model)
      (listed : member ∈ model.properties) : catalogue.HasMember member id
  | inherited {id base : NodeId} {model : ModelNode} (isModel : catalogue.model? id = some model)
      (isBase : model.base = some base) (ofBase : catalogue.HasMember member base) :
      catalogue.HasMember member id

/-- The members of a model are its own ones and those of its base. -/
theorem Catalogue.hasMember_iff {catalogue : Catalogue} {member : Property} {id : NodeId}
    {model : ModelNode} (isModel : catalogue.model? id = some model) :
    catalogue.HasMember member id ↔
      member ∈ model.properties ∨ ∃ base ∈ model.base, catalogue.HasMember member base := by
  -- A member is had in one of two ways, and each of them is about the one model there is.
  constructor
  · intro has
    cases has with
    | own isOther listed =>
      rw [isModel] at isOther
      cases isOther
      exact .inl listed
    | inherited isOther isBase ofBase =>
      rw [isModel] at isOther
      cases isOther
      exact .inr ⟨_, isBase, ofBase⟩
  · intro has
    rcases has with listed | ⟨base, isBase, ofBase⟩
    · exact .own isModel listed
    · exact .inherited isModel isBase ofBase

section

variable {before after : Catalogue}

/-- A model with the same core has the same properties and the same base. -/
theorem SameCores.model? (cores : SameCores before after) {id : NodeId} {model : ModelNode}
    (isModel : before.model? id = some model) :
    ∃ later, after.model? id = some later ∧ later.properties = model.properties ∧
      later.base = model.base := by
  have same := cores.core id
  rw [Node.kind_of_model? isModel] at same
  -- The core of a node holds its properties and its base.
  obtain ⟨later, isLater, properties, base, -, -⟩ := NodeKind.model_of_core same
  refine ⟨later, ?_, properties, base⟩
  rw [Catalogue.model?, Node.model?, isLater]

/-- Where the cores are the same, a model keeps its members. -/
theorem SameCores.hasMember (cores : SameCores before after) {id : NodeId} {member : Property}
    (has : before.HasMember member id) : after.HasMember member id := by
  -- By induction on how the member is had: of the model itself, or through its base.
  induction has with
  | own isModel listed =>
    obtain ⟨later, isLater, properties, -⟩ := cores.model? isModel
    exact .own isLater (properties ▸ listed)
  | inherited isModel isBase _ ofBase =>
    obtain ⟨later, isLater, -, base⟩ := cores.model? isModel
    exact .inherited isLater (base.trans isBase) ofBase

/-- Each model has the same members in both catalogues, but for marks. -/
def Catalogue.KeepsMembers (before after : Catalogue) : Prop :=
  ∀ id model, before.model? id = some model → ∃ later, after.model? id = some later ∧
    later.properties.map Property.unmarked = model.properties.map Property.unmarked

/-- Marks take no member from a model. -/
theorem ModelNode.exists_member {model later : ModelNode}
    (same : later.properties.map Property.unmarked = model.properties.map Property.unmarked)
    {member : Property} (listed : member ∈ model.properties) :
    ∃ other ∈ later.properties, other.unmarked = member.unmarked := by
  -- Without marks, the list of properties is the same, so that the member is among them.
  have marked : member.unmarked ∈ later.properties.map Property.unmarked := by
    rw [same]
    exact List.mem_map_of_mem listed
  exact List.mem_map.mp marked

end

namespace Derivation

open Service (Definition)

/-! ## Members -/

/-- What a run adds leaves the members of models. -/
theorem Grown.keepsMembers {before after : State} (grown : Grown before after) :
    before.catalogue.KeepsMembers after.catalogue := by
  -- A node that grows keeps its core, and the members of a model are in it.
  intro id model isModel
  obtain ⟨later, isLater, plain⟩ := grown.model? isModel
  exact ⟨later, isLater, congrArg ModelNode.properties plain⟩

/-- Between the end of a run and its package, members stay what they are. -/
theorem keepsMembers_spread (catalogue : Catalogue) (choices : Service.Choices) (sparesBase : Bool)
    (seeds : List Seed) : catalogue.KeepsMembers (spread catalogue choices sparesBase seeds) := by
  intro id model isModel
  have same := properties_spread catalogue choices sparesBase seeds id
  -- Usage is spread over marks, and prunes subtypes, but leaves properties.
  rw [isModel] at same
  obtain ⟨later, isLater, properties⟩ := Option.map_eq_some_iff.mp same
  exact ⟨later, isLater, congrArg (List.map Property.unmarked) properties⟩

namespace Context

variable (context : Context)

/-- A parameter serves as another one: it is the same, or the version or subscription as well. -/
def ServesAs (client : ContainerId) (wanted supplier : Property) : Prop :=
  context.isSame wanted supplier = true ∨
    (wanted.isApiVersion = true ∧ supplier.isApiVersion = true) ∨
    (context.isResourceManaged client = true ∧ isSubscriptionName wanted.name = true ∧
      isSubscriptionName supplier.name = true)

/-- The suppliers are parameters at hand, one for each member that a model declares, in order. -/
def Assembles (available : List Property) (model : ModelNode) (suppliers : List Property) : Prop :=
  model.properties ≠ [] ∧ List.Forall₂ (fun member supplier =>
    context.isSame member supplier = true ∧ supplier ∈ available) model.properties suppliers

/-- How the sources of a body supply it. -/
inductive SuppliesBody (client : ContainerId) (method inScope : List Property)
    (catalogue : Catalogue) (body : WireParameter) : Prop where
  /-- A parameter is handed over as the whole body. -/
  | whole (supplier : Property) (available : supplier ∈ method ++ inScope)
      (serves : context.ServesAs client body.property supplier)
      (sources : body.sources = [.parameter supplier])
  /-- The body is put together from parameters for the members of its model. -/
  | assembled (model : ModelNode) (suppliers : List Property)
      (isModel : catalogue.model? body.property.type = some model)
      (assembles : context.Assembles (method ++ inScope) model suppliers)
      (sources : body.sources = suppliers.map .parameter)
  /-- The body is a member of what a method parameter holds. -/
  | held (parent : Property) (model : ModelNode) (member : Property) (taken : parent ∈ method)
      (isModel : catalogue.model? parent.type = some model) (listed : member ∈ model.properties)
      (same : context.isSame body.property member = true)
      (sources : body.sources = [.member parent member.name])

variable {context} {operation : OperationId} {client : ContainerId} {supply : Supply}
  {wanted : Property} {state : State}

/-! ## Sources -/

/-- A parameter of a client supplies what is the same, or what serves the same purpose. -/
theorem clientSupplier?_serves {supplier : Property}
    (found : context.clientSupplier? client supply wanted = some supplier) :
    context.ServesAs client wanted supplier := by
  unfold clientSupplier? at found
  dsimp only at found
  rcases Option.or_eq_some_iff.mp found with same | ⟨_, other⟩
  · exact .inl (List.find?_some same)
  · -- A parameter that only serves the same purpose is the version or the subscription.
    rcases Option.or_eq_some_iff.mp other with version | ⟨_, subscription⟩
    · split at version
      · rename_i isVersion
        exact .inr (.inl ⟨isVersion, List.find?_some version⟩)
      · cases version
    · split at subscription
      · rename_i both
        obtain ⟨managed, isSubscription⟩ := Bool.and_eq_true_iff.mp both
        exact .inr (.inr ⟨managed, isSubscription, by simpa using List.find?_some subscription⟩)
      · cases subscription

/-- What supplies a parameter is at hand, and serves as that parameter. -/
theorem supplier?_eq_some {supplier : Property}
    (found : context.supplier? client supply wanted = some supplier) :
    supplier ∈ supply.methodParameters ++ supply.clientParameters ∧
      context.ServesAs client wanted supplier := by
  -- Parameters of clients are asked first, and those of the method after them.
  rcases Option.or_eq_some_iff.mp found with ofClient | ⟨_, ofMethod⟩
  · exact ⟨List.mem_append_right _ (clientSupplier?_mem ofClient), clientSupplier?_serves ofClient⟩
  · exact ⟨List.mem_append_left _ (List.mem_of_find?_eq_some ofMethod),
      .inl (List.find?_some ofMethod)⟩

/-- A body with members holds a model, and its members are those that the model declares. -/
theorem model?_of_bodyMembers (has : bodyMembers supply wanted ≠ []) :
    ∃ model, supply.catalogue.model? wanted.type = some model ∧
      bodyMembers supply wanted = model.properties := by
  -- Without a model there would be no members, and neither for what is no body.
  unfold bodyMembers at has ⊢
  split at has
  · rename_i isBody
    rw [if_pos isBody]
    cases isModel : supply.catalogue.model? wanted.type with
    | none => simp [isModel] at has
    | some model => exact ⟨model, rfl, rfl⟩
  · exact absurd rfl has

/-- What holds a parameter is a method parameter whose model has a member that is the same. -/
theorem holder?_eq_some {source : Source} (found : context.holder? supply wanted = some source) :
    ∃ parent ∈ supply.methodParameters, ∃ model,
      supply.catalogue.model? parent.type = some model ∧ ∃ member ∈ model.properties,
        context.isSame wanted member = true ∧ source = .member parent member.name := by
  -- The search goes through the parents and, in each, through the members, and stops at the first
  -- that is the same.
  obtain ⟨parent, taken, held⟩ := List.exists_of_findSome?_eq_some found
  simp only [Option.bind_eq_bind, Option.bind_eq_some_iff] at held
  obtain ⟨model, isModel, member, isMember, made⟩ := held
  cases made
  exact ⟨parent, taken, model, isModel, member, List.mem_of_find?_eq_some isMember,
    List.find?_some isMember, rfl⟩

/-- Whatever sources are found for a body supply it. -/
theorem suppliesBody_of_sources {sources : List Source}
    (found : context.sources operation client supply wanted = .ok sources) :
    context.SuppliesBody client supply.methodParameters supply.clientParameters supply.catalogue
      { property := wanted, sources } := by
  -- In the order in which sources are looked for: a supplier, suppliers of members, a holder.
  cases isSupplied : context.supplier? client supply wanted with
  | some supplier =>
    rw [sources_of_supplier isSupplied] at found
    cases found
    obtain ⟨available, serves⟩ := supplier?_eq_some isSupplied
    exact .whole supplier available serves rfl
  | none =>
    by_cases complete : context.CanAssemble supply wanted
    · rw [sources_of_assembled isSupplied complete] at found
      cases found
      -- One supplier was found for each member, and all of them are at hand.
      obtain ⟨model, isModel, members⟩ := model?_of_bodyMembers complete.1
      have pairs := memberSuppliers_forall₂ complete.2
      rw [members] at pairs ⊢
      refine .assembled model _ isModel ⟨members ▸ complete.1, pairs.imp ?_⟩ rfl
      intro member supplier pair
      exact ⟨pair.1, List.mem_append.mpr (List.mem_append.mp pair.2).symm⟩
    · rw [sources_of_incomplete isSupplied complete] at found
      cases holder : context.holder? supply wanted with
      | none =>
        rw [holder] at found
        cases found
      | some source =>
        rw [holder] at found
        cases found
        obtain ⟨parent, taken, model, isModel, member, listed, isSame, rfl⟩ :=
          holder?_eq_some holder
        exact .held parent model member taken isModel listed isSame rfl

/-! ## What lasts -/

/-- That two parameters are the same depends neither on their roles nor on their types. -/
theorem isSame_unmarked (wanted candidate : Property) :
    context.isSame wanted.unmarked candidate = context.isSame wanted candidate ∧
      context.isSame candidate wanted.unmarked = context.isSame candidate wanted :=
  ⟨rfl, rfl⟩

/-- A model that is marked is still put together from the same parameters. -/
theorem Assembles.mono {available more : List Property} {model later : ModelNode}
    {suppliers : List Property} (assembles : context.Assembles available model suppliers)
    (still : ∀ parameter ∈ available, parameter ∈ more)
    (same : later.properties.map Property.unmarked = model.properties.map Property.unmarked) :
    context.Assembles more later suppliers := by
  obtain ⟨has, pairs⟩ := assembles
  refine ⟨fun none => has (List.map_eq_nil_iff.mp (by rw [← same, none, List.map_nil])), ?_⟩
  -- Both lists of members are the same list without marks.
  have wider : List.Forall₂ (fun member supplier => context.isSame member supplier = true ∧
      supplier ∈ more) (model.properties.map Property.unmarked) suppliers :=
    List.forall₂_map_left_iff.mpr (pairs.imp fun _ _ pair => ⟨pair.1, still _ pair.2⟩)
  rw [← same] at wider
  exact List.forall₂_map_left_iff.mp wider

/-- A body is supplied ever after, when models are marked and more parameters are in scope. -/
theorem SuppliesBody.mono {method inScope more : List Property} {catalogue larger : Catalogue}
    {body : WireParameter} (supplies : context.SuppliesBody client method inScope catalogue body)
    (still : ∀ parameter ∈ inScope, parameter ∈ more)
    (models : catalogue.KeepsMembers larger) :
    context.SuppliesBody client method more larger body := by
  -- The parameters of the method are the same, and those in scope are still there.
  have within (parameter : Property) (available : parameter ∈ method ++ inScope) :
      parameter ∈ method ++ more :=
    List.mem_append.mpr ((List.mem_append.mp available).imp_right (still parameter))
  -- By the three ways to supply a body, of which the last two speak of models.
  cases supplies with
  | whole supplier available serves sources =>
    exact .whole supplier (within supplier available) serves sources
  | assembled model suppliers isModel assembles sources =>
    obtain ⟨later, isLater, same⟩ := models _ model isModel
    exact .assembled later suppliers isLater (assembles.mono within same) sources
  | held parent model member taken isModel listed isSame sources =>
    obtain ⟨later, isLater, same⟩ := models _ model isModel
    obtain ⟨other, isOther, alike⟩ := ModelNode.exists_member same listed
    have name : other.name = member.name :=
      (congrArg Property.name alike : other.unmarked.name = member.unmarked.name)
    refine .held parent later other taken isLater isOther ?_ (name ▸ sources)
    rw [← (isSame_unmarked other _).2, alike, (isSame_unmarked member _).2]
    exact isSame

/-! ## Methods -/

/-- The body of an operation is supplied when the operation is made. -/
theorem httpOperation_suppliesBody (access : Access) (parameters : List Property) :
    Yields (context.httpOperation operation client access parameters) fun result state =>
      ∀ body ∈ result.1.body, context.SuppliesBody client result.2 (state.scopeOf context client)
        state.catalogue body := by
  refine Ensures.intro (fun state result last _ run => ?_) fun _ _ _ _ _ => trivial
  obtain ⟨request, -, traces⟩ := httpOperation_ok run
  obtain ⟨-, inBody, -, -, kept⟩ := traceRequest_ok traces
  intro body isBody
  -- The body that is sent was traced in the supply that the request had in the end.
  obtain ⟨wanted, -, isTraced⟩ := optionMapM_eq_ok inBody body isBody
  obtain ⟨rfl, found⟩ := trace_ok isTraced
  rw [kept]
  exact suppliesBody_of_sources found

/-- Bodies that are supplied stay so. -/
theorem lasting_suppliesBody (client : ContainerId) (result : HttpOperation × List Property) :
    Lasting fun state => ∀ body ∈ result.1.body, context.SuppliesBody client result.2
      (state.scopeOf context client) state.catalogue body := by
  -- What supplies a body is in the scope of the client or in a model, and neither loses anything.
  intro before after supplies grown body isBody
  exact (supplies body isBody).mono (grown.scopeOf client) grown.keepsMembers

/-- Of all methods, it is told how their bodies are supplied; an accessor sends none. -/
theorem telling_suppliesBody : Telling context fun container method state =>
    ∀ http, method.operation? = some http → ∀ body ∈ http.body, context.SuppliesBody container
      method.parameters (state.scopeOf context container) state.catalogue body where
  lasting container method := by
    refine Lasting.enduring fun before after supplies grown http behind => ?_
    exact lasting_suppliesBody container (http, method.parameters) before after
      (supplies http behind) grown
  method container operation :=
    method_of_httpOperation (lasting_suppliesBody container) httpOperation_suppliesBody
  accessor _ _ _ _ _ http behind := by cases behind

/-! ## Failures -/

/-- What is made for the body of a request has the role of one. -/
theorem body?_isBody (access : Access) :
    Yields (context.body? operation client access) fun found _ =>
      ∀ body ∈ found, body.isBody = true := by
  -- The parameter is made with the role of a body, from a property or without one.
  have bodyParameter (declared : Option PropertyId) (type : NodeId) (contentTypes : List String)
      (usual : String) :
      Yields (context.bodyParameter operation client declared type (.body contentTypes usual))
        fun body _ => body.isBody = true := by
    cases declared with
    | some property => exact .after fun parameter => .pure fun _ => rfl
    | none =>
      unfold Context.bodyParameter unnamedBody
      refine .after fun model => .pure fun _ => ?_
      rw [Property.isBody, role_withClientFacts]
  have none : Yields (Pure.pure none : Derive (Option Property)) fun found _ =>
      ∀ body ∈ found, body.isBody = true :=
    .pure fun _ _ isBody => by cases isBody
  unfold body?
  dsimp only
  -- Whatever is handed over as a body was given the role of one.
  split
  · exact none
  · split
    · exact Ensures.throw_bind fun _ _ => trivial
    · split
      · exact none
      · refine .after fun type => .bind_told (bodyParameter _ _ _ _) fun body isBody => ?_
        refine .after fun model => .after fun _ => .after fun _ => .pure fun _ other isOther => ?_
        cases isOther
        exact isBody

/-- In a request that is gathered, the body has the role of one. -/
theorem gather_isBody :
    Yields (context.gather operation client) fun request _ =>
      ∀ body ∈ request.body, body.isBody = true := by
  -- Whatever is gathered before and after it, the body is made in one step.
  unfold gather gatherRequest
  refine .after fun parameters => .after fun outcomes => .after fun wire => ?_
  refine .bind_told (body?_isBody _) fun body isBody => ?_
  exact .after fun sent => .after fun accepted => .after fun _ => .pure fun _ => isBody

/-- The members of what goes into a body are those of its model. -/
theorem bodyMembers_of_isBody {model : ModelNode} (isBody : wanted.isBody = true)
    (isModel : supply.catalogue.model? wanted.type = some model) :
    bodyMembers supply wanted = model.properties := by
  -- A body that has a model goes by its members and not by itself.
  rw [bodyMembers, if_pos isBody, isModel]
  rfl

/-- If everything else resolves, it is the body that is missing first. -/
theorem isFirstMissing_body {wire : List Property} {body : Property}
    (others : ∀ other ∈ wire, context.Resolves client supply other) :
    context.IsFirstMissing client supply (wire ++ [body]) wanted ↔
      wanted = body ∧ ¬context.Resolves client supply body := by
  -- All before the body resolves, so that it is the first to be missing or nothing is.
  constructor
  · intro first
    obtain ⟨before, after, split, -, lacks⟩ := first
    have sent : wanted ∈ wire ++ [body] := by simp [split]
    rcases List.mem_append.mp sent with inWire | isBody
    · exact absurd (others wanted inWire) lacks
    · obtain rfl := List.mem_singleton.mp isBody
      exact ⟨rfl, lacks⟩
  · intro lacks
    obtain ⟨rfl, lacks⟩ := lacks
    exact ⟨wire, [], rfl, others, lacks⟩

/-- A body of a model is missing for want of a parameter for one of its own members. -/
theorem not_resolves_body_iff {model : ModelNode}
    (members : bodyMembers supply wanted = model.properties) :
    ¬context.Resolves client supply wanted ↔
      context.supplier? client supply wanted = none ∧ context.holder? supply wanted = none ∧
        (model.properties = [] ∨ ∃ member ∈ model.properties, ¬context.HasSame supply member) := by
  -- A body cannot be put together if there is nothing to put in, or if a member has no supplier.
  have incomplete : ¬context.CanAssemble supply wanted ↔
      model.properties = [] ∨ ∃ member ∈ model.properties, ¬context.HasSame supply member := by
    rw [CanAssemble, members, not_and_or, not_not]
    push Not
    rfl
  rw [not_resolves_iff, incomplete]
  exact and_congr_right fun _ => and_comm

/-- Once its request is gathered, a method fails for its body as its model tells. -/
theorem method_fails_for_body_iff {between : State} {request : Request} {body : Property}
    {model : ModelNode} (run : context.gather operation client state = (.ok request, between))
    (inRequest : body ∈ request.body) (isModel : between.catalogue.model? body.type = some model)
    (others : ∀ wanted ∈ request.wire, context.Resolves client
      (between.supply context client (context.keptParameters request)) wanted)
    {failure : Failure} (structural : failure.endsRun = false) :
    (context.method operation client state).1 = .error failure ↔
      context.supplier? client (between.supply context client (context.keptParameters request))
          body = none ∧
        context.holder? (between.supply context client (context.keptParameters request))
          body = none ∧
        ((model.properties = [] ∧ failure =
            .noCorrespondingParameter (context.definition.operationAt operation).name
              body.serializedName operation) ∨
          ((∃ member ∈ model.properties, ¬context.HasSame
              (between.supply context client (context.keptParameters request)) member) ∧
            failure = .spreadNotResolved (context.definition.operationAt operation).name
              model.properties.length (context.memberSuppliers
                (between.supply context client (context.keptParameters request))
                model.properties).length operation)) := by
  -- The body of the request is a body, and comes last of all that is sent.
  have isBody := gather_isBody.ok trivial run body inRequest
  generalize isSupply : between.supply context client (context.keptParameters request) = supply
    at others ⊢
  have members : bodyMembers supply body = model.properties :=
    bodyMembers_of_isBody isBody (isSupply ▸ isModel)
  have sent : request.sent = request.wire ++ [body] := by
    rw [Request.sent, Option.mem_def.mp inRequest, Option.toList_some]
  rw [method_error_iff_missing run structural, isSupply, sent]
  simp only [isFirstMissing_body others, and_assoc, exists_eq_left]
  rw [not_resolves_body_iff members, and_assoc, and_assoc]
  refine and_congr_right fun _ => and_congr_right fun _ => ?_
  -- The report depends on whether there are members to look for.
  by_cases bare : model.properties = []
  · rw [missing_of_nil (members.trans bare)]
    simp [bare]
  · rw [missing_of_ne_nil (members ▸ bare), members]
    simp [bare]

end Context

/-! ## The package -/

/-- Members that a model inherits are all that may be left out when its body is assembled. -/
theorem Context.Assembles.complete_iff {context : Context} {available suppliers : List Property}
    {model : ModelNode} {catalogue : Catalogue} {id : NodeId}
    (assembles : context.Assembles available model suppliers)
    (isModel : catalogue.model? id = some model) :
    (∀ member, catalogue.HasMember member id →
        ∃ supplier ∈ suppliers, context.isSame member supplier = true) ↔
      ∀ base ∈ model.base, ∀ member, catalogue.HasMember member base →
        ∃ supplier ∈ suppliers, context.isSame member supplier = true := by
  -- Of a member there are two kinds, and those of the model itself always have a supplier.
  constructor
  · intro complete base isBase member ofBase
    exact complete member (.inherited isModel isBase ofBase)
  · intro ofBases member has
    rcases (Catalogue.hasMember_iff isModel).mp has with listed | ⟨base, isBase, ofBase⟩
    · -- A member of its own has a supplier at its place in the list.
      obtain ⟨supplier, isSupplier, same⟩ := partner_of_mem assembles.2 listed
      exact ⟨supplier, isSupplier, same.1⟩
    · exact ofBases base isBase member ofBase

/--
A body is supplied as a whole, or by a member of what a parameter holds, or it is put together from
parameters for the members that its model declares, each of which then has its own, in order.

When it is put together, all members of the model are supplied just if those are that it inherits.
If everything else that is sent resolves, the method fails for its body just if nothing supplies the
whole of it and some member that its model declares has no parameter, or it declares none.
-/
theorem body_is_put_together_from_own_members (definition : Definition) (options : Options) :
    let context := Context.of definition options
    (∀ package, derivePackage definition options = .ok package →
      ∀ client ∈ Client.walkAll package.clients, ∀ method ∈ client.methods, ∀ http,
        method.operation? = some http → ∀ body ∈ http.body,
          context.SuppliesBody client.origin method.parameters
            ((finalState definition options).parametersInScope definition client.origin)
            package.catalogue body ∧
          ∀ model suppliers, package.catalogue.model? body.property.type = some model →
            context.Assembles (method.parameters ++
              (finalState definition options).parametersInScope definition client.origin) model
              suppliers →
            ((∀ member, package.catalogue.HasMember member body.property.type →
                ∃ supplier ∈ suppliers, context.isSame member supplier = true) ↔
              ∀ base ∈ model.base, ∀ member, package.catalogue.HasMember member base →
                ∃ supplier ∈ suppliers, context.isSame member supplier = true)) ∧
    ∀ operation client state request between,
      context.gather operation client state = (.ok request, between) →
      ∀ body ∈ request.body, ∀ model, between.catalogue.model? body.type = some model →
        let supply := between.supply context client (context.keptParameters request)
        (∀ wanted ∈ request.wire, context.Resolves client supply wanted) →
          ∀ failure : Failure, failure.endsRun = false →
            ((context.method operation client state).1 = .error failure ↔
              context.supplier? client supply body = none ∧ context.holder? supply body = none ∧
                ((model.properties = [] ∧ failure = .noCorrespondingParameter
                    (definition.operationAt operation).name body.serializedName operation) ∨
                  ((∃ member ∈ model.properties, ¬context.HasSame supply member) ∧
                    failure = .spreadNotResolved (definition.operationAt operation).name
                      model.properties.length
                      (context.memberSuppliers supply model.properties).length operation))) := by
  intro context
  refine ⟨?package, ?failures⟩
  -- Packages are told by what every run tells of methods, failures by the first that is missing.
  case package =>
    intro package derived client below method member http behind body isBody
    refine ⟨?_, fun model suppliers isModel assembles => assembles.complete_iff isModel⟩
    obtain ⟨clients, run, rfl⟩ := derivePackage_ok derived
    have supplies := Context.telling_suppliesBody.clients.ok trivial run client below method member
      http behind body isBody
    exact supplies.mono (fun _ inScope => inScope) (keepsMembers_spread _ _ _ _)
  case failures =>
    intro operation client state request between run body inRequest model isModel supply others
      failure structural
    exact Context.method_fails_for_body_iff run inRequest isModel others structural

/-- A horse has a name, as every animal, and a rider, which is all that its method asks for. -/
def paddock : Definition where
  types := #[{ shape := .scalar { name := "string" } },
    { shape := .model { name := some "Animal", properties := [⟨0⟩] } },
    { shape := .model { name := some "Horse", properties := [⟨1⟩], base := some ⟨1⟩ } }]
  properties := #[{ name := "name", model := some ⟨1⟩, type := ⟨0⟩ },
    { name := "rider", model := some ⟨2⟩, type := ⟨0⟩ }, { name := "rider", type := ⟨0⟩ }]
  operations := #[
    { name := "board", container := ⟨0⟩, verb := .post, path := "/horses"
      parameters := [⟨2⟩], bodies := [{ type := ⟨2⟩, spread := true }] }]
  containers := #[{ name := "Stable", operations := [⟨0⟩], service := some {} }]

/-- In the paddock the horse is put together, so each member that it declares has a parameter. -/
theorem body_is_put_together_from_own_members_paddock :
    (∃ package, derivePackage paddock {} = .ok package ∧
      ∃ client ∈ Client.walkAll package.clients, ∃ method ∈ client.methods, ∃ http,
        method.operation? = some http ∧ ∃ body ∈ http.body,
          (Context.of paddock {}).SuppliesBody client.origin method.parameters
            ((finalState paddock {}).parametersInScope paddock client.origin) package.catalogue
            body) ∧
      ∃ request between,
        (Context.of paddock {}).gather ⟨0⟩ ⟨0⟩ {} = (.ok request, between) ∧
        ∃ body ∈ request.body, ∃ model, between.catalogue.model? body.type = some model ∧
          model.properties ≠ [] ∧ ∀ member ∈ model.properties,
            (Context.of paddock {}).HasSame (between.supply (Context.of paddock {}) ⟨0⟩
              ((Context.of paddock {}).keptParameters request)) member := by
  obtain ⟨ofPackages, ofMethods⟩ := body_is_put_together_from_own_members paddock {}
  refine ⟨?package, ?method⟩
  -- That there is a body is decided; how it is supplied, the theorem tells.
  case package =>
    have sends : ((Context.of paddock {}).clients.run {}).1.toOption.any fun clients =>
        clients.any fun client => client.methods.any fun method =>
          method.operation?.any fun http => http.body.isSome := by
      decide +kernel
    obtain ⟨clients, run, derived⟩ :=
      derivePackage_of_isOk (by decide +kernel : (derivePackage paddock {}).isOk = true)
    rw [run] at sends
    simp only [Except.toOption, Option.any_some, List.any_eq_true, Option.any_eq_true] at sends
    obtain ⟨client, isClient, method, isMethod, http, behind, hasBody⟩ := sends
    obtain ⟨body, isBody⟩ := Option.isSome_iff_exists.mp hasBody
    have below := mem_walkAll.mpr ⟨client, isClient, mem_walk.mpr (Or.inl rfl)⟩
    exact ⟨_, derived, client, below, method, isMethod, http, behind, body, isBody,
      (ofPackages _ derived client below method isMethod http behind body isBody).1⟩
  case method =>
    have sent : (((Context.of paddock {}).gather ⟨0⟩ ⟨0⟩ {}).1.toOption.any fun request =>
        request.body.any fun body =>
          (((Context.of paddock {}).gather ⟨0⟩ ⟨0⟩ {}).2.catalogue.model? body.type).isSome &&
          let supply := ((Context.of paddock {}).gather ⟨0⟩ ⟨0⟩ {}).2.supply
            (Context.of paddock {}) ⟨0⟩ ((Context.of paddock {}).keptParameters request)
          ((Context.of paddock {}).supplier? ⟨0⟩ supply body).isNone &&
            ((Context.of paddock {}).holder? supply body).isNone &&
            request.wire.all fun wanted =>
              ((Context.of paddock {}).supplier? ⟨0⟩ supply wanted).isSome) = true := by
      decide +kernel
    have succeeds : ((Context.of paddock {}).method ⟨0⟩ ⟨0⟩ {}).1.isOk = true := by decide +kernel
    rcases run : (Context.of paddock {}).gather ⟨0⟩ ⟨0⟩ {} with ⟨failure | request, between⟩
    · rw [run] at sent
      cases sent
    · rw [run] at sent
      simp only [Except.toOption, Option.any_some, Option.any_eq_true, Bool.and_eq_true,
        List.all_eq_true, Option.isNone_iff_eq_none, Option.isSome_iff_exists] at sent
      obtain ⟨body, isBody, ⟨model, isModel⟩, ⟨unsupplied, unheld⟩, supplied⟩ := sent
      have fails := ofMethods ⟨0⟩ ⟨0⟩ {} request between run body isBody model isModel
        fun wanted listed => .whole _ (supplied wanted listed).choose_spec
      -- Without a parameter for some member the method would fail, and it does not.
      have never : ∀ failure : Failure, ((Context.of paddock {}).method ⟨0⟩ ⟨0⟩ {}).1 ≠
          .error failure := by
        intro failure failed
        rw [failed] at succeeds
        cases succeeds
      refine ⟨request, between, rfl, body, isBody, model, isModel, fun bare => ?_,
        fun member listed => ?_⟩
      · exact never _ ((fails _ rfl).mpr ⟨unsupplied, unheld, Or.inl ⟨bare, rfl⟩⟩)
      · by_contra lacks
        exact never _ ((fails _ rfl).mpr
          ⟨unsupplied, unheld, Or.inr ⟨⟨member, listed, lacks⟩, rfl⟩⟩)

/-- The horse is put together from its rider, nothing supplies its name, and nobody is told. -/
theorem inherited_member_may_be_missing :
    ∃ package, derivePackage paddock {} = .ok package ∧
      (finalState paddock {}).diagnostics.reports = [] ∧
      ∃ client ∈ package.clients, ∃ method ∈ client.methods, ∃ http ∈ method.operation?,
        ∃ body ∈ http.body, body.sources ≠ [] ∧
          (∀ source ∈ body.sources,
            (Context.of paddock {}).isSame body.property source.root = false) ∧
          ∃ member, package.catalogue.HasMember member body.property.type ∧
            ∀ source ∈ body.sources, (Context.of paddock {}).isSame member source.root = false := by
  -- The run is computed once, and a single check looks for everything that the statement names.
  have found : ((Context.of paddock {}).clients.run {}).1.toOption.any fun clients =>
      clients.any fun client => client.methods.any fun method => method.operation?.any fun http =>
        http.body.any fun body => decide (body.sources ≠ []) &&
          (body.sources.all fun source =>
            !(Context.of paddock {}).isSame body.property source.root) &&
          ((finalState paddock {}).catalogue.model? body.property.type).any fun model =>
            model.base.any fun base =>
              ((finalState paddock {}).catalogue.model? base).any fun parent =>
                parent.properties.any fun member => body.sources.all fun source =>
                  !(Context.of paddock {}).isSame member source.root := by
    decide +kernel
  obtain ⟨clients, run, derived⟩ :=
    derivePackage_of_isOk (by decide +kernel : (derivePackage paddock {}).isOk = true)
  rw [run] at found
  simp only [Except.toOption, Option.any_some, Bool.and_eq_true, decide_eq_true_eq,
    List.any_eq_true, Option.any_eq_true, List.all_eq_true, Bool.not_eq_true'] at found
  obtain ⟨client, isClient, method, isMethod, http, behind, body, isBody, ⟨has, apart⟩,
    model, isModel, base, isBase, parent, isParent, member, listed, missing⟩ := found
  refine ⟨_, derived, by decide +kernel, client, isClient, method, isMethod, http, behind, body,
    isBody, has, apart, member, ?_, missing⟩
  -- What was found at the end of the run is in the package as well.
  exact sameCores_spread.hasMember (.inherited isModel isBase (.own isParent listed))

end Derivation

end ClientModel
