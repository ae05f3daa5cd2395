import ClientModel.Proofs.Identity

/-!
Parameters have the types that they are declared with.

A parameter that comes from a declaration is made with the node that is remembered for the declared
type, whether it is sent, asked for when a client is made, or handed over from a method to its
client. What a client or a service is given therefore tells by its declaration which node it leads
to.
-/

namespace ClientModel

/-- The endpoint that a node stands for. -/
def Node.endpoint? (node : Node) : Option Endpoint :=
  match node.kind with
  | .endpoint endpoint => some endpoint
  | _ => none

/-- Only models and enums have marks to lose. -/
theorem NodeKind.eq_of_plain {kind other : NodeKind} (same : other.plain = kind.plain)
    (unmarked : kind.label ∉ ["model", "enum"]) : other = kind := by
  -- Kinds that differ by their marks alone have the same label.
  cases kind <;> cases other <;> simp_all [plain, label]

/-- The templates of server URLs at a type: its own, or those of the variants of a union. -/
def Catalogue.templates (catalogue : Catalogue) (type : NodeId) : List Endpoint :=
  (((catalogue.nodeAt type).union?.map UnionNode.variants).getD [type]).filterMap fun id =>
    (catalogue.nodeAt id).endpoint?

/-- What the constructor of a client asks for: its parameters and the arguments of its templates. -/
def Client.arguments (catalogue : Catalogue) (client : Client) : List Property :=
  let parameters := client.initialization.parameters
  let endpoints := parameters.filter fun parameter => parameter.role == .endpoint
  parameters ++ endpoints.flatMap fun parameter =>
    (catalogue.templates parameter.type).flatMap Endpoint.arguments

/-- The type that a property is declared with, or the named model that this copies whole. -/
def Service.Definition.declaredType (definition : Service.Definition) (id : PropertyId) : TypeId :=
  definition.payloadType (definition.propertyAt id).type

namespace Derivation

open Service (WireSlot)

variable {α β : Type} {context : Context} {before after state : State}

namespace Context

variable (context : Context)

/-- A parameter that was declared has the node of its declared type. -/
def Typed (parameter : Property) (state : State) : Prop :=
  ∀ id ∈ parameter.origin, Remembered (context.definition.declaredType id) parameter.type state

/-- A node is a template whose arguments have the types that they are declared with. -/
def IsTemplate (node : NodeId) (state : State) : Prop :=
  ∃ endpoint, (state.catalogue.nodeAt node).kind = .endpoint endpoint ∧
    ∀ argument ∈ endpoint.arguments, context.Typed argument state

/-- A type stands for such a template, or for a union of them. -/
def IsEndpointType (type : NodeId) (state : State) : Prop :=
  context.IsTemplate type state ∨
    ∃ union, (state.catalogue.nodeAt type).kind = .union union ∧
      ∀ variant ∈ union.variants, context.IsTemplate variant state

/-- All that a client or a service is asked for by a parameter is typed as declared. -/
structure IsArgument (parameter : Property) (state : State) : Prop where
  typed : context.Typed parameter state
  endpoint : parameter.role = .endpoint → context.IsEndpointType parameter.type state

/-- All that was given to clients and services so far is typed as declared. -/
structure Furnished (state : State) : Prop where
  taken : ∀ client, ∀ parameter ∈ state.takenBy client, context.IsArgument parameter state
  endpoints : ∀ root parameter, state.endpoints.get? root = some parameter →
    context.IsArgument parameter state
  credentials : ∀ root parameter, state.credentials.get? root = some (some parameter) →
    context.IsArgument parameter state

end Context

/-! ## What lasts -/

/-- A parameter that is typed as declared stays so. -/
theorem lasting_typed (parameter : Property) : Lasting (context.Typed parameter) :=
  fun _ _ typed grown id isOrigin => grown.declared _ _ (typed id isOrigin)

/-- No node but a model or an enum is ever changed by a mark. -/
theorem Grown.nullable (grown : Grown before after) {id : NodeId}
    (inside : id.index < before.catalogue.size) :
    (after.catalogue.nodeAt id).nullable = (before.catalogue.nodeAt id).nullable :=
  -- Marks are put on the kind of a node; nullability is beside it.
  have plain := congrArg Node.nullable (grown.nodes id inside)
  plain

/-- A node keeps its kind, unless that is one that usage or subtypes may change. -/
theorem Grown.kind (grown : Grown before after) {id : NodeId} {kind : NodeKind}
    (isKind : (before.catalogue.nodeAt id).kind = kind)
    (unmarked : kind.label ∉ ["model", "enum", "builtin"]) :
    (after.catalogue.nodeAt id).kind = kind := by
  -- A node out of range would be primitive.
  have inside : id.index < before.catalogue.size := by
    refine Nat.lt_of_not_le fun outside => unmarked ?_
    rw [before.catalogue.nodeAt_of_ge outside] at isKind
    subst isKind
    simp [NodeKind.label, Node.outOfRange]
  have plain := congrArg Node.kind (grown.nodes id inside)
  exact isKind ▸ NodeKind.eq_of_plain plain (isKind ▸ fun marked =>
    unmarked (List.mem_append_left ["builtin"] marked))

/-- A template stays one. -/
theorem lasting_isTemplate (node : NodeId) : Lasting (context.IsTemplate node) := by
  -- The endpoint keeps its kind, and its arguments are typed one by one.
  rintro before after ⟨endpoint, isEndpoint, typed⟩ grown
  exact ⟨endpoint, grown.kind isEndpoint (by simp [NodeKind.label]), fun argument listed =>
    lasting_typed argument before after (typed argument listed) grown⟩

/-- The type of an endpoint stays one. -/
theorem lasting_isEndpointType (type : NodeId) : Lasting (context.IsEndpointType type) := by
  -- A single template and a union of several are kept for different reasons, so they are told apart
  -- first.
  rintro before after (single | ⟨union, isUnion, variants⟩) grown
  · exact Or.inl (lasting_isTemplate type before after single grown)
  · exact Or.inr ⟨union, grown.kind isUnion (by simp [NodeKind.label]), fun variant listed =>
      lasting_isTemplate variant before after (variants variant listed) grown⟩

/-- An argument stays one. -/
theorem lasting_isArgument (parameter : Property) : Lasting (context.IsArgument parameter) :=
  fun before after known grown =>
    ⟨lasting_typed parameter before after known.typed grown, fun isEndpoint =>
      lasting_isEndpointType _ before after (known.endpoint isEndpoint) grown⟩

section

variable {leads : State → State → Prop} [Growing leads]

instance Lasts.remembered (id : TypeId) (node : NodeId) : Lasts leads (Remembered id node) :=
  .of_lasting fun _ _ known grown => grown.declared id node known

instance Lasts.typed (parameter : Property) : Lasts leads (context.Typed parameter) :=
  .of_lasting (lasting_typed parameter)

instance Lasts.isTemplate (node : NodeId) : Lasts leads (context.IsTemplate node) :=
  .of_lasting (lasting_isTemplate node)

instance Lasts.isArgument (parameter : Property) : Lasts leads (context.IsArgument parameter) :=
  .of_lasting (lasting_isArgument parameter)

end

/-! ## Steps that give nothing -/

/-- Nothing known is lost, and nothing is given to clients or services. -/
structure GivesNothing (before after : State) : Prop where
  grown : Grown before after
  parameters : after.clientParameters = before.clientParameters
  endpoints : after.endpoints = before.endpoints
  credentials : after.credentials = before.credentials

/-- To do nothing gives nothing. -/
theorem GivesNothing.refl (state : State) : GivesNothing state state :=
  ⟨.refl state, rfl, rfl, rfl⟩

/-- Nodes, names and reports may be added without giving anyone a parameter. -/
theorem GivesNothing.frame (start : State) :
    Frame start.catalogue.size (GivesNothing start) fun _ => True :=
  have grows : Frame start.catalogue.size (Grown start) fun _ => True :=
    Grown.frame start fun _ => trivial
  -- Whatever makes the catalogue grow leaves the three lists of parameters as they are.
  { violation := fun _ => trivial
    inside := fun state same => grows.inside state same.grown
    added := fun state node same => { same with grown := grows.added state node same.grown }
    changed := fun state id change same fresh sort =>
      { same with grown := grows.changed state id change same.grown fresh sort }
    marked := fun state id change same marks =>
      { same with grown := grows.marked state id change same.grown marks }
    declared := fun state type node same known =>
      { same with grown := grows.declared state type node same.grown known }
    builtins := fun state kind builtin same fresh =>
      { same with grown := grows.builtins state kind builtin same.grown fresh }
    names := fun state names same => { same with grown := grows.names state names same.grown }
    diagnostics := fun state report early same =>
      { same with grown := grows.diagnostics state report early same.grown } }

/-- Neither deriving nodes nor taking notes on usage gives anything to anyone. -/
theorem GivesNothing.noting (context : Context) (start : State) :
    Noting context (GivesNothing start) fun _ => True where
  toSteady := (frame start).steady
  node := (frame start).node
  search _ := Keeps.answerOf _ fun _ _ => trivial
  seed _ _ same := { same with grown := same.grown.noted _ _ _ _ }
  bodyFormat _ _ same := { same with grown := same.grown.noted _ _ _ _ }

/-! ## Steps that give what is typed -/

/-- One state comes after another: nothing known is lost, and what is given is typed as declared. -/
structure Context.Furnishes (context : Context) (before after : State) : Prop where
  grown : Grown before after
  furnished : context.Furnished before → context.Furnished after

instance : Leading (fun _ => True) context.Furnishes where
  refl state := ⟨.refl state, fun known => known⟩
  trans _ left right :=
    ⟨left.grown.trans right.grown, fun known => right.furnished (left.furnished known)⟩
  sound _ _ := trivial

instance : Growing context.Furnishes :=
  ⟨fun furnishes => furnishes.grown⟩

/-- What was given stays typed where nodes and declarations are only added. -/
theorem Context.Furnished.grown (known : context.Furnished before) (grown : Grown before after)
    (taken : ∀ client, ∀ parameter ∈ after.takenBy client, parameter ∈ before.takenBy client ∨
      context.IsArgument parameter after)
    (endpoints : ∀ root parameter, after.endpoints.get? root = some parameter →
      before.endpoints.get? root = some parameter ∨ context.IsArgument parameter after)
    (credentials : ∀ root parameter, after.credentials.get? root = some (some parameter) →
      before.credentials.get? root = some (some parameter) ∨
        context.IsArgument parameter after) : context.Furnished after where
  -- What was there earlier lasts while nodes are added, and what is new is given by assumption.
  taken client parameter listed := (taken client parameter listed).elim (fun early =>
    lasting_isArgument parameter _ _ (known.taken client parameter early) grown) id
  endpoints root parameter isKnown := (endpoints root parameter isKnown).elim (fun early =>
    lasting_isArgument parameter _ _ (known.endpoints root parameter early) grown) id
  credentials root parameter isKnown := (credentials root parameter isKnown).elim (fun early =>
    lasting_isArgument parameter _ _ (known.credentials root parameter early) grown) id

/-- At the start nobody was given anything. -/
theorem Context.Furnished.start : context.Furnished {} := by
  -- Nothing was given to anyone.
  refine ⟨?_, ?_, ?_⟩ <;> simp [OrderedMap.get?, State.takenBy]

/-- A step that gives nothing leaves what was given typed as declared. -/
theorem GivesNothing.furnishes (same : GivesNothing before after) :
    context.Furnishes before after where
  grown := same.grown
  furnished known := known.grown same.grown
    (fun client parameter listed => Or.inl (by
      rwa [State.takenBy, same.parameters] at listed))
    (fun root parameter isKnown => Or.inl (same.endpoints ▸ isKnown))
    (fun root parameter isKnown => Or.inl (same.credentials ▸ isKnown))

namespace Context.Furnishes

/-- A client takes a parameter that is typed as declared. -/
theorem take {client : ContainerId} {parameter : Property}
    (isArgument : context.IsArgument parameter state) :
    context.Furnishes state { state with
      clientParameters :=
        state.clientParameters.alter client fun before => before.getD [] ++ [parameter] } where
  grown := (Grown.refl state).takes client parameter
  furnished known := by
    refine known.grown ((Grown.refl state).takes client parameter) (fun other found listed => ?_)
      (fun _ _ isKnown => Or.inl isKnown) fun _ _ isKnown => Or.inl isKnown
    -- The parameter is the only one that was not taken before.
    rw [State.takenBy_alter] at listed
    split at listed
    · rename_i isClient
      rcases List.mem_append.mp listed with old | new
      · exact Or.inl (isClient ▸ old)
      · rw [List.mem_singleton.mp new]
        exact Or.inr <|
          lasting_isArgument _ _ _ isArgument ((Grown.refl state).takes client parameter)
    · exact Or.inl listed

/-- The endpoint of a service is noted. -/
theorem addEndpoint {root : ContainerId} {parameter : Property}
    (isArgument : context.IsArgument parameter state) :
    context.Furnishes state
      { state with endpoints := state.endpoints.insert root parameter } where
  grown := (Grown.refl state).noted _ _ _ _
  furnished known := by
    have grown : Grown state { state with endpoints := state.endpoints.insert root parameter } :=
      (Grown.refl state).noted _ _ _ _
    -- The new entry is the argument; all others were known.
    refine known.grown grown (fun _ _ listed => Or.inl listed) (fun other found isKnown => ?_)
      fun _ _ isKnown => Or.inl isKnown
    rcases OrderedMap.get?_insert_cases isKnown with ⟨_, rfl⟩ | earlier
    · exact Or.inr (lasting_isArgument _ _ _ isArgument grown)
    · exact Or.inl earlier

/-- The credential of a service is noted, or that there is none. -/
theorem addCredential {root : ContainerId} {found : Option Property}
    (isArgument : ∀ parameter ∈ found, context.IsArgument parameter state) :
    context.Furnishes state
      { state with credentials := state.credentials.insert root found } where
  grown := (Grown.refl state).noted _ _ _ _
  furnished known := by
    have grown : Grown state { state with credentials := state.credentials.insert root found } :=
      (Grown.refl state).noted _ _ _ _
    -- The new entry is what was found; all others were known.
    refine known.grown grown (fun _ _ listed => Or.inl listed) (fun _ _ isKnown => Or.inl isKnown)
      fun other parameter isKnown => ?_
    rcases OrderedMap.get?_insert_cases isKnown with ⟨_, isFound⟩ | earlier
    · exact Or.inr (lasting_isArgument _ _ _ (isArgument parameter isFound.symm) grown)
    · exact Or.inl earlier

end Context.Furnishes

/-- A step that gives nothing furnishes whatever else it does. -/
theorem furnishes_of_keeps {step : Derive α}
    (keeps : ∀ start, Keeps (GivesNothing start) (fun _ => True) step) :
    Conveys context.Furnishes (fun _ => True) step fun _ _ => True := by
  -- Failures are of no interest here, as long as the state they leave can be gone on with.
  rintro start _
  refine (keeps start).weaken ?_ (fun _ _ same => ⟨same.furnishes, trivial⟩)
    fun _ _ fails isOwn => (fails.2 isOwn).furnishes
  rintro state ⟨rfl, _⟩
  exact .refl _

/-! ## Parameters of requests -/

/-- The node of a type is remembered for its payload. -/
theorem node_furnishes (id : TypeId) :
    Conveys context.Furnishes (fun _ => True) (context.node id)
      (Remembered (context.definition.payloadType id)) :=
  -- Making a node gives nobody anything, and what it finds is remembered from then on.
  ((furnishes_of_keeps fun start => (GivesNothing.noting context start).node id).also
    (nodeWithin_finds _ id)).ending fun _ _ _ ends => ends.2

/-- The facts of a client leave the role of a parameter alone. -/
@[simp] theorem role_withClientFacts (client : ContainerId) (parameter : Property) :
    (context.withClientFacts client parameter).role = parameter.role := by
  -- Client names and marks are put beside the role.
  obtain ⟨_, _, _, _, same⟩ := @Context.withClientFacts_eq context client parameter
  rw [same]

/-- A parameter without a declaration is typed as declared. -/
theorem typed_of_origin {parameter : Property} (bare : parameter.origin = none) :
    context.Typed parameter state := by
  -- To be typed as declared is asked of what has a declaration.
  intro id isOrigin
  rw [bare] at isOrigin
  cases isOrigin

/-- The parameter of a property is typed as declared if it has the node of the declared type. -/
theorem typed_parameterOf {id : PropertyId} {type : NodeId}
    (known : Remembered (context.definition.declaredType id) type state) (role : Role)
    (ownerId : String) (client : ContainerId) :
    context.Typed (context.parameterOf id type role ownerId client) state := by
  -- Its origin is the property it was made from, and its type the one that was handed over.
  intro other isOrigin
  rw [Context.parameterOf, origin_withClientFacts] at isOrigin
  rw [Context.parameterOf, Context.type_withClientFacts]
  cases isOrigin
  exact known

/-- A parameter of a request is typed as declared. -/
theorem requestParameter_furnishes (operation : OperationId) (id : PropertyId)
    (location : Option Service.Location) (client : ContainerId) :
    Conveys context.Furnishes (fun _ => True)
      (context.requestParameter operation id location client) context.Typed := by
  unfold Context.requestParameter
  dsimp only
  -- A property without a place in the request ends the method.
  split
  · exact Conveys.throw
  · exact (node_furnishes _).bind fun type =>
      Conveys.pure fun _ _ known => typed_parameterOf known _ _ _

/-- So is that of a slot. -/
theorem slotParameter?_furnishes (operation : OperationId) (client : ContainerId)
    (access : Access) (slot : WireSlot) :
    Conveys context.Furnishes (fun _ => True)
      (context.slotParameter? operation client access slot)
      fun found state => ∀ parameter ∈ found, context.Typed parameter state := by
  unfold Context.slotParameter?
  dsimp only
  split
  · -- A slot that takes no value has no parameter; any other is noted to be used.
    exact Conveys.pure_none
  · refine (requestParameter_furnishes _ _ _ _).onward (fun _ start => start) fun parameter => ?_
    split
    · exact Conveys.throw_bind
    · refine (furnishes_of_keeps fun start =>
        (GivesNothing.noting context start).addSeed _ _ _).past (fun _ _ => trivial) fun _ =>
          Conveys.pure_some fun _ _ known => known.2

/-- A header for content types has no declaration. -/
theorem negotiationHeader_origin (operation : OperationId) (negotiation : Negotiation)
    (contentTypes : List String) (optional : Bool) :
    Yields (context.negotiationHeader operation negotiation contentTypes optional)
      fun header _ => header.origin = none := by
  -- Either header is made here, with a type but without any property it would come from.
  unfold Context.negotiationHeader
  dsimp only
  split
  · split
    · exact .after fun _ => .pure fun _ => rfl
    · exact .after fun _ => .pure fun _ => rfl
  · exact .after fun _ => .pure fun _ => rfl

/-- Where all that is sent was typed as declared, it still is with the header. -/
theorem negotiate_furnishes (operation : OperationId) (negotiation : Negotiation)
    (contentTypes : List String) (optional : Bool) (wire method : List Property) :
    Conveys context.Furnishes (fun state => ∀ parameter ∈ wire, context.Typed parameter state)
      (context.negotiate operation negotiation contentTypes optional wire method)
      fun result state => ∀ parameter ∈ result.1, context.Typed parameter state := by
  unfold Context.negotiate
  dsimp only
  split
  · exact Conveys.pure fun _ _ known => known
  · refine ((furnishes_of_keeps fun start => (GivesNothing.noting context
      start).negotiationHeader operation negotiation contentTypes optional).also
        (negotiationHeader_origin operation negotiation contentTypes optional)).onward
          (fun _ _ => trivial) fun header => Conveys.pure ?_
    rintro state _ ⟨known, _, bare⟩ parameter listed
    -- The header is the only parameter that was not on the wire before.
    rcases List.mem_append.mp listed with old | new
    · exact known parameter old
    · rw [List.mem_singleton.mp new]
      exact typed_of_origin bare

/-- So it is with what is negotiated for a body. -/
theorem negotiateBody_furnishes (operation : OperationId) (body : Option Property)
    (wire method : List Property) :
    Conveys context.Furnishes (fun state => ∀ parameter ∈ wire, context.Typed parameter state)
      (context.negotiateBody operation body wire method)
      fun result state => ∀ parameter ∈ result.1, context.Typed parameter state := by
  -- Without a body nothing is negotiated, and the parameters stay the ones that were typed.
  cases body with
  | none => exact Conveys.pure fun _ _ known => known
  | some body => exact negotiate_furnishes _ _ _ _ _ _

/-- So it is with what is negotiated for the responses. -/
theorem negotiateResponses_furnishes (operation : OperationId) (outcomes : Outcomes)
    (wire method : List Property) :
    Conveys context.Furnishes (fun state => ∀ parameter ∈ wire, context.Typed parameter state)
      (context.negotiateResponses operation outcomes wire method)
      fun result state => ∀ parameter ∈ result.1, context.Typed parameter state := by
  -- Without content types nothing is negotiated, and the parameters stay the ones that were typed.
  unfold Context.negotiateResponses
  split
  · exact negotiate_furnishes _ _ _ _ _ _
  · exact Conveys.pure fun _ _ known => known

/-! ## Parameters that clients take over -/

/-- A client that takes a parameter over takes one that is typed as declared. -/
theorem elevate_furnishes (client : ContainerId) (parameter : Property) :
    Conveys context.Furnishes (context.Typed parameter) (context.elevate client parameter)
      fun _ _ => True := by
  unfold Context.elevate
  refine (furnishes_of_keeps fun _ => Keeps.parametersInScope context client).past
    (fun _ _ => trivial) fun scope => ?_
  dsimp only
  split
  · exact Conveys.pure fun _ _ _ => trivial
  -- It is a parameter of methods from now on, and no endpoint.
  · exact Conveys.modify fun state _ typed =>
      ⟨.take ⟨typed, fun isEndpoint => by cases isEndpoint⟩, trivial⟩

/-- To elevate the parameters of a request furnishes the client with typed ones. -/
theorem elevateAll_furnishes (client : ContainerId) (wire : List Property) :
    Conveys context.Furnishes (fun state => ∀ parameter ∈ wire, context.Typed parameter state)
      (context.elevateAll client wire) fun _ _ => True := by
  unfold Context.elevateAll
  refine Conveys.bind (Conveys.forIn _ (fun parameter listed _ => ?_) _) fun _ =>
    Conveys.pure fun _ _ _ => trivial
  -- A parameter that is elevated is one of those that are sent.
  refine (elevate_furnishes client _).past (fun state typed => ?_) fun _ =>
    Conveys.pure fun _ _ _ => trivial
  exact typed parameter (List.mem_of_mem_filter listed)

/-- What a request sends is typed as declared. -/
theorem httpOperation_furnishes (operation : OperationId) (client : ContainerId)
    (access : Access) (parameters : List Property) :
    Conveys context.Furnishes (fun _ => True)
      (context.httpOperation operation client access parameters)
      fun result state => ∀ wire ∈ result.1.parameters, context.Typed wire.property state := by
  have noting (start : State) := GivesNothing.noting context start
  unfold Context.httpOperation
  -- Responses and the body are of no interest here, and give nothing to anyone.
  refine (furnishes_of_keeps fun start => (noting start).outcomes operation access).past
    (fun _ _ => trivial) fun outcomes => ?_
  -- What is sent is typed when it is derived, and stays so beside the headers that are added.
  refine (Conveys.filterMapM _ fun slot _ => slotParameter?_furnishes operation client access
    slot).bind fun wire => ?_
  refine (furnishes_of_keeps fun start => (noting start).body? .all operation access).past
    (fun _ _ => trivial) fun body => ?_
  refine (negotiateBody_furnishes operation body wire parameters).bind fun sent => ?_
  refine (negotiateResponses_furnishes operation outcomes sent.1 sent.2).bind fun accepted => ?_
  refine (elevateAll_furnishes client accepted.1).past (fun _ typed => typed) fun _ => ?_
  -- What is traced is what is sent.
  generalize context.dropUnusedSegments accepted.1 accepted.2 = final
  have traces (wanted : Property) (start : State) :
      Keeps (GivesNothing start) (fun _ => True)
        (context.traceParameter operation client final wanted) :=
    Tolerant.all.searching.traceParameter operation client final wanted
  refine ((furnishes_of_keeps fun start => Keeps.mapM accepted.1 fun wanted =>
    traces wanted start).also (Context.traceParameters_property operation client final
      accepted.1)).onward (fun _ _ => trivial) fun traced => ?_
  refine (furnishes_of_keeps fun start => Keeps.optionMapM body fun wanted =>
    traces wanted start).past (fun _ _ => trivial) fun _ => Conveys.pure ?_
  rintro state _ ⟨typed, _, same⟩ wire listed
  exact typed _ (same wire listed)

/-- A parameter that is left to a method is typed as declared. -/
theorem methodParameter?_furnishes (operation : OperationId) (client : ContainerId)
    (access : Access) (id : PropertyId) :
    Conveys context.Furnishes (fun _ => True)
      (context.methodParameter? operation client access id)
      fun found state => ∀ parameter ∈ found, context.Typed parameter state := by
  unfold Context.methodParameter?
  dsimp only
  split
  · -- A parameter that takes no value is left out; of any other there is a node first.
    exact Conveys.pure_none
  · refine (node_furnishes _).bind fun type => ?_
    split
    · -- The client takes the parameter with the type that it was declared with.
      refine (elevate_furnishes client _).past (fun state known => ?_) fun _ => Conveys.pure_none
      exact typed_parameterOf known _ _ _
    · refine (furnishes_of_keeps fun _ => Keeps.parametersInScope context client).past
        (fun _ _ => trivial) fun scope => ?_
      split
      · exact Conveys.pure_none
      · refine (furnishes_of_keeps fun start =>
          (GivesNothing.noting context start).addSeed _ _ _).past (fun _ _ => trivial) fun _ => ?_
        exact Conveys.pure_some fun _ _ known => typed_parameterOf known _ _ _

/-! ## Methods -/

/-- What a method sends beside a body has the types that it is declared with. -/
def Context.SendsTyped (context : Context) (method : Method) (state : State) : Prop :=
  ∀ operation ∈ method.operation?, ∀ wire ∈ operation.parameters, context.Typed wire.property state

/-- A method that sends what is typed as declared goes on doing so. -/
theorem lasting_sendsTyped (method : Method) : Lasting (context.SendsTyped method) :=
  -- What a method sends is in the method, so only the typing of each parameter has to last.
  fun before after typed grown operation isOperation wire listed =>
    lasting_typed _ before after (typed operation isOperation wire listed) grown

instance Lasts.sendsTyped {leads : State → State → Prop} [Growing leads] (method : Method) :
    Lasts leads (context.SendsTyped method) :=
  .of_lasting (lasting_sendsTyped method)

/-- A method built around a request sends what the request does. -/
theorem sendsTyped_of_kind {method : Method} {service : ServiceMethod} {pages : Option Paging}
    {progress : Option Polling} (isBuilt : method.kind = Context.methodKind service pages progress)
    (typed : ∀ wire ∈ service.operation.parameters, context.Typed wire.property state) :
    context.SendsTyped method state := by
  -- Whatever form the method takes, it has the one request that it was built around.
  intro operation isOperation
  rw [Method.operation?, isBuilt, service?_methodKind] at isOperation
  cases isOperation
  exact typed

/-- A method that is built sends what is typed as declared. -/
theorem buildMethod_furnishes (operation : OperationId) (client : ContainerId) :
    Conveys context.Furnishes (fun _ => True) (context.buildMethod operation client)
      context.SendsTyped := by
  have noting (start : State) := GivesNothing.noting context start
  unfold Context.buildMethod
  dsimp only
  -- Parameters first, then the request, whose own ones are those that are sent.
  refine (Conveys.filterMapM _ fun id _ => methodParameter?_furnishes operation client _ id).past
    (fun _ _ => trivial) fun parameters => ?_
  refine (httpOperation_furnishes operation client _ parameters).bind fun result => ?_
  -- What comes after the request gives nothing to anyone.
  refine (furnishes_of_keeps fun start => (noting start).methodResponse operation _ _).past
    (fun _ _ => trivial) fun response => ?_
  refine Conveys.look fun current _ _ => ?_
  split
  · refine (furnishes_of_keeps fun start => (noting start).polling? operation _ _ _).past
      (fun _ _ => trivial) fun progress => Conveys.pure fun _ _ typed => ?_
    exact sendsTyped_of_kind rfl typed
  · refine (furnishes_of_keeps fun start => Keeps.pure none).past
      (fun _ _ => trivial) fun progress => Conveys.pure fun _ _ typed => ?_
    exact sendsTyped_of_kind rfl typed

end Derivation

end ClientModel
