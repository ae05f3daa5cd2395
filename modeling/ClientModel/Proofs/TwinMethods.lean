import ClientModel.Proofs.Accrual
import ClientModel.Proofs.Attempts
import ClientModel.Proofs.TwinNodes

/-!
Methods in two runs that are given almost the same.

The requests, responses and parameters of a method come out the same in both. Names of types are
read in one place only: a body that no property was declared for is named after its model.
-/

namespace ClientModel

namespace Derivation

open Service (BodyDecl Directive Location PollingDecl ResponseDecl WireSlot)

variable {α β : Type} {slack : Slack} {context other : Context} {left right : State}

/-! ## Notes -/

namespace Pair

/-- Twin runs note the same seed, and stay twins. -/
theorem addSeed (type : NodeId) (usage : Usage) (access : Access) :
    Pair (Twin slack) Eq (addSeed type usage access) (Derivation.addSeed type usage access) :=
  -- The seed goes to the end of both lists, so the one stays a part of the other.
  Pair.modify fun left right twin =>
    { twin with
      seeds := twin.seeds.append (List.Sublist.refl _)
      full := fun wanted => ⟨by rw [(twin.full wanted).1], (twin.full wanted).2⟩ }

/-- Twin runs note the same body format. -/
theorem addBodyFormat (type : NodeId) (isMultipart : Bool) :
    Pair (Twin slack) Eq (addBodyFormat type isMultipart)
      (Derivation.addBodyFormat type isMultipart) :=
  -- The format goes to the end of both lists, so the one stays a part of the other.
  Pair.modify fun left right twin =>
    { twin with
      bodyFormats := twin.bodyFormats.append (List.Sublist.refl _)
      full := fun wanted => ⟨(twin.full wanted).1, by rw [(twin.full wanted).2]⟩ }

/-- Twin runs report the same. -/
theorem report (diagnostic : Diagnostic) :
    Pair (Twin slack) Eq (report diagnostic) (Derivation.report diagnostic) :=
  Pair.modify fun _ _ twin =>
    { twin with diagnostics := congrArg (Diagnostics.add · diagnostic) twin.diagnostics }

/-- Twin runs warn of the same. -/
theorem reportWarning (target : Declaration) (code message : String) :
    Pair (Twin slack) Eq (reportWarning target code message)
      (Derivation.reportWarning target code message) :=
  Pair.modify fun _ _ twin =>
    { twin with
      diagnostics := congrArg (Diagnostics.warning · (some target) code message) twin.diagnostics }

/-- Where names may differ, so may those that are made up. -/
theorem claimName (candidate : String) :
    Pair (Twin slack) slack.Same (claimName candidate) (Derivation.claimName candidate) := by
  intro left right twin
  -- To claim a name changes the registry and nothing else.
  have run (state : State) : Derivation.claimName candidate state =
      (.ok (state.names.claim candidate).1,
        { state with names := (state.names.claim candidate).2 }) :=
    rfl
  rw [run left, run right]
  refine .ok (twin.names.map fun names => (names.claim candidate).1) ?_
  exact { twin with names := twin.names.map fun names => (names.claim candidate).2 }

end Pair

/-! ## Models -/

section

variable (twin : Twin slack left right)
include twin

/-- A node is a model in both catalogues, and the same but for names. -/
theorem Twin.model? (id : NodeId) : (right.catalogue.model? id).map ModelNode.unnamed =
    (left.catalogue.model? id).map ModelNode.unnamed := by
  -- A model without names is what the node without names shows.
  show (right.catalogue.nodeAt id).model?.map _ = (left.catalogue.nodeAt id).model?.map _
  rw [← Node.model?_unnamed, (twin.nodes id).unnamed, Node.model?_unnamed]

/-- A model is one with a name of its own in both runs, or in none. -/
theorem Twin.isGenerated (id : NodeId) :
    (right.catalogue.model? id).any (·.isGeneratedName) =
      (left.catalogue.model? id).any (·.isGeneratedName) := by
  -- Whether a name was made up is told of the model without names.
  have bare (model? : Option ModelNode) : model?.any (·.isGeneratedName) =
      (model?.map ModelNode.unnamed).any (·.isGeneratedName) := by
    cases model? <;> rfl
  rw [bare, twin.model?, ← bare]

/-- The way through properties to a type goes by the names that were declared for them. -/
theorem Twin.typeAlong (type : NodeId) (segments : List String) :
    Derivation.typeAlong right.catalogue type segments =
      Derivation.typeAlong left.catalogue type segments := by
  -- By induction on the segments, each of which is looked for among properties without their names.
  induction segments generalizing type with
  | nil => rfl
  | cons segment rest ih =>
    have bare (catalogue : Catalogue) : Derivation.typeAlong catalogue type (segment :: rest) = (do
        let model ← (catalogue.model? type).map ModelNode.unnamed
        let property ← model.properties.find? fun property =>
          property.serializedName == segment || property.name == segment
        Derivation.typeAlong catalogue property.type rest) := by
      rw [Derivation.typeAlong]
      cases catalogue.model? type with
      | none => rfl
      | some model =>
        simp only [Option.map_some, Option.bind_eq_bind, Option.bind_some, ModelNode.unnamed,
          List.find?_map, Function.comp_def, Property.serializedName_unnamed,
          Property.name_unnamed]
        cases model.properties.find? _ <;> rfl
    rw [bare, bare, twin.model?]
    simp only [ih]

/-- Pages are read off the responses alike. -/
theorem Twin.pagedResponse (pages : Paging) (response : MethodResponse) :
    Derivation.pagedResponse right.catalogue pages response =
      Derivation.pagedResponse left.catalogue pages response := by
  simp only [Derivation.pagedResponse, twin.typeAlong]

end

/-! ## Sources -/

namespace Context

/-- Whether a member is the parameter that is wanted is not told by its identifier. -/
theorem isSame_unnamed (wanted candidate : Property) :
    context.isSame wanted candidate.unnamed = context.isSame wanted candidate ∧
      context.isSame wanted.unnamed candidate = context.isSame wanted candidate :=
  ⟨rfl, rfl⟩

/-- What supplies a member does not depend on names. -/
theorem memberSuppliers_unnamed (supply : Supply) (members : List Property) :
    context.memberSuppliers supply (members.map Property.unnamed) =
      context.memberSuppliers supply members := by
  -- Members are compared by their declarations, which have nothing to do with names.
  rw [memberSuppliers, List.filterMap_map]
  rfl

end Context

/-- What there is to take values from in the one run is there in the other. -/
structure SupplyTwin (left right : Supply) : Prop where
  clientParameters : right.clientParameters = left.clientParameters
  methodParameters : right.methodParameters = left.methodParameters
  model? : ∀ id, (right.catalogue.model? id).map ModelNode.unnamed =
    (left.catalogue.model? id).map ModelNode.unnamed

namespace SupplyTwin

variable {supply supply' : Supply} (twin : SupplyTwin supply supply')
include twin

/-- The members of a body are the same but for names. -/
theorem bodyMembers (wanted : Property) :
    (Context.bodyMembers supply' wanted).map Property.unnamed =
      (Context.bodyMembers supply wanted).map Property.unnamed := by
  -- Without names the members are those of the model without names.
  have bare (supply : Supply) : (Context.bodyMembers supply wanted).map Property.unnamed =
      if wanted.isBody then
        (((supply.catalogue.model? wanted.type).map ModelNode.unnamed).map
          ModelNode.properties).getD []
      else [] := by
    unfold Context.bodyMembers
    split
    · cases supply.catalogue.model? wanted.type <;> rfl
    · rfl
  rw [bare, bare, twin.model?]

/-- The same parameter holds what is wanted. -/
theorem holder? (wanted : Property) :
    context.holder? supply' wanted = context.holder? supply wanted := by
  -- A holder is found by declarations, which stay when names are left out.
  have bare (supply : Supply) : context.holder? supply wanted =
      supply.methodParameters.findSome? fun parameter => do
        let model ← (supply.catalogue.model? parameter.type).map ModelNode.unnamed
        let member ← model.properties.find? (context.isSame wanted)
        return .member parameter member.name := by
    unfold Context.holder?
    congr 1
    funext parameter
    cases supply.catalogue.model? parameter.type with
    | none => rfl
    | some model =>
      simp only [Option.map_some, Option.bind_eq_bind, Option.bind_some, ModelNode.unnamed,
        List.find?_map, Function.comp_def, Context.isSame_unnamed]
      cases model.properties.find? _ <;> rfl
  rw [bare, bare, twin.methodParameters]
  simp only [twin.model?]

/-- Sources are found by what was declared, and by what parameters are called. -/
theorem sources (sibling : Sibling slack context other) (operation : OperationId)
    (client : ContainerId) (wanted : Property) :
    other.sources operation client supply' wanted =
      context.sources operation client supply wanted := by
  -- The sources go by the members of the body, their suppliers, the holder and the client.
  have members := twin.bodyMembers wanted
  have length : (Context.bodyMembers supply' wanted).length =
      (Context.bodyMembers supply wanted).length := by
    simpa using congrArg List.length members
  have isEmpty : (Context.bodyMembers supply' wanted).isEmpty =
      (Context.bodyMembers supply wanted).isEmpty := by
    simpa using congrArg List.isEmpty members
  have suppliers : context.memberSuppliers supply' (Context.bodyMembers supply' wanted) =
      context.memberSuppliers supply (Context.bodyMembers supply wanted) := by
    rw [← Context.memberSuppliers_unnamed, members, Context.memberSuppliers_unnamed]
    simp only [Context.memberSuppliers, twin.clientParameters, twin.methodParameters]
  have others : other.memberSuppliers = context.memberSuppliers := by
    funext supply members
    simp only [Context.memberSuppliers, sibling.isSame]
  have holders : other.holder? supply' wanted = context.holder? supply wanted := by
    rw [← twin.holder?]
    simp only [Context.holder?, sibling.isSame]
  have clients : context.clientSupplier? client supply' wanted =
      context.clientSupplier? client supply wanted := by
    simp only [Context.clientSupplier?, twin.clientParameters]
  simp only [Context.sources, sibling.clientSupplier?, sibling.isSame, clients,
    twin.methodParameters, others, suppliers, length, isEmpty, holders, sibling.alike.operationAt]

end SupplyTwin

/-! ## Parameters -/

section

variable (sibling : Sibling slack context other)
include sibling

namespace Pair

/-- The same parameters are in scope of a client. -/
theorem parametersInScope (client : ContainerId) :
    Pair (Twin slack) Eq (context.parametersInScope client) (other.parametersInScope client) := by
  -- What a client has taken is the same in both, and so is what is around it.
  refine Pair.look fun left right twin => Pair.pure ?_
  simp only [State.parametersInScope, sibling.alike.enclosing, twin.clientParameters]

/-- The same parameter is elevated, or none in either run. -/
theorem elevate (client : ContainerId) (parameter : Property) :
    Pair (Twin slack) Eq (context.elevate client parameter) (other.elevate client parameter) := by
  -- The parameters in scope are the same, so it is there in both or taken in both.
  refine (Pair.parametersInScope sibling client).bind_same fun inScope => ?_
  refine Pair.ite (fun _ => Pair.pure rfl) fun _ => ?_
  refine Pair.modify fun left right twin => ?_
  exact { twin with clientParameters := by rw [twin.clientParameters] }

/-- The same parameters are elevated. -/
theorem elevateAll (client : ContainerId) (wire : List Property) :
    Pair (Twin slack) Eq (context.elevateAll client wire) (other.elevateAll client wire) := by
  -- One after the other, and each is elevated in both runs or in neither.
  unfold Context.elevateAll
  refine Pair.bind_same (Pair.forIn _ (fun parameter _ _ => ?_) _) fun _ => Pair.pure rfl
  exact (Pair.elevate sibling client _).bind_same fun _ => Pair.pure rfl

/-- The same parameter is made of a property. -/
theorem requestParameter (operation : OperationId) (id : PropertyId) (location : Option Location)
    (client : ContainerId) :
    Pair (Twin slack) Eq (context.requestParameter operation id location client)
      (other.requestParameter operation id location client) := by
  unfold Context.requestParameter
  rw [sibling.alike.propertyAt, sibling.alike.operationAt, sibling.alike.operationCrossId,
    sibling.parameterOf]
  dsimp only
  -- A parameter without location fails both runs, and else its type is derived in both.
  split
  · exact Pair.throw
  · exact (Pair.node sibling _).bind_same fun type => Pair.pure rfl

/-! ## Responses -/

/-- The same header is made of a property. -/
theorem responseHeader? (access : Access) (id : PropertyId) :
    Pair (Twin slack) Eq (context.responseHeader? access id) (other.responseHeader? access id) := by
  unfold Context.responseHeader?
  rw [sibling.alike.propertyAt, sibling.alike.isVoidLike]
  -- A void header is left out in both runs.
  refine Pair.ite (fun _ => Pair.pure rfl) fun _ => ?_
  refine (Pair.node sibling _).bind_same fun type => ?_
  exact (Pair.addSeed type _ access).bind_same fun _ => Pair.pure rfl

/-- The same response is derived. -/
theorem response (access : Access) (declared : ResponseDecl) :
    Pair (Twin slack) Eq (context.response access declared) (other.response access declared) := by
  unfold Context.response
  rw [sibling.payload?, sibling.isErrorResponse]
  refine Pair.bind_same (Pair.filterMapM_same _ fun header _ =>
    Pair.responseHeader? sibling access header) fun headers => ?_
  dsimp only
  -- A response that carries nothing notes nothing.
  split
  · exact Pair.pure rfl
  · refine (Pair.node sibling _).bind_same fun type => ?_
    refine (Pair.addSeed type _ access).bind_same fun _ => ?_
    exact Pair.pure rfl

/-- The same outcomes come of one more response. -/
theorem addResponse (operation : OperationId) (access : Access) (outcomes : Outcomes)
    (declared : ResponseDecl) :
    Pair (Twin slack) Eq (context.addResponse operation access outcomes declared)
      (other.addResponse operation access outcomes declared) := by
  unfold Context.addResponse
  rw [sibling.isErrorResponse, sibling.alike.operationAt]
  -- The response is derived in both; where it goes depends on its status alone.
  refine (Pair.response sibling access declared).bind_same fun response => ?_
  dsimp only
  split
  · refine Pair.ite (fun _ => ?_) fun _ => Pair.pure rfl
    exact (Pair.reportWarning _ _ _).bind_same fun _ => Pair.pure rfl
  · exact Pair.ite (fun _ => Pair.pure rfl) fun _ => Pair.pure rfl

/-- The same outcomes come of all responses. -/
theorem outcomes (operation : OperationId) (access : Access) :
    Pair (Twin slack) Eq (context.outcomes operation access) (other.outcomes operation access) := by
  -- By induction on the responses, which are the same in both.
  unfold Context.outcomes
  rw [sibling.alike.operationAt]
  exact Pair.foldlM _ (fun outcomes declared _ =>
    Pair.addResponse sibling operation access outcomes declared) {}

/-! ## Requests -/

/-- The same parameter is made of a slot. -/
theorem slotParameter? (operation : OperationId) (client : ContainerId) (access : Access)
    (slot : WireSlot) :
    Pair (Twin slack) Eq (context.slotParameter? operation client access slot)
      (other.slotParameter? operation client access slot) := by
  unfold Context.slotParameter?
  rw [sibling.alike.propertyAt, sibling.alike.isVoidLike]
  -- Each of the branches is taken in both runs.
  refine Pair.ite (fun _ => Pair.pure rfl) fun _ => ?_
  refine (Pair.requestParameter sibling operation _ _ client).bind_same fun parameter => ?_
  refine Pair.ite (fun _ => Pair.throw_bind) fun _ => ?_
  exact (Pair.addSeed parameter.type .input access).bind_same fun _ => Pair.pure rfl

omit sibling in
/-- A body that was not declared as a property is named after a model of the same given name. -/
theorem unnamedBody (sibling : Sibling slack context other) (operation : OperationId)
    (client : ContainerId) (type : NodeId) (role : Role)
    {left right : State} (twin : Twin slack left right) (concur : Concur left right type) :
    Meets (Twin slack) Eq (context.unnamedBody operation client type role left)
      (other.unnamedBody operation client type role right) := by
  -- What a body is called is told by the given name alone.
  have named (context : Context) (state : State) :
      context.unnamedBody operation client type role state =
        (.ok (context.withClientFacts client
          { name := (((state.catalogue.nodeAt type).givenName?).map Text.lowerFirstCase).getD "body"
            serializedName := "body"
            type
            role
            isGeneratedName := true
            crossId := context.definition.operationCrossId operation ++ ".body" }), state) := by
    have looked : modelAt? type state = (.ok (state.catalogue.nodeAt type).model?, state) := rfl
    unfold Context.unnamedBody Node.givenName?
    rw [bind_ok looked]
    cases (state.catalogue.nodeAt type).model? with
    | none => rfl
    | some model =>
      cases generated : model.isGeneratedName with
      | true => simp [ModelNode.givenName?, generated]; rfl
      | false => simp [ModelNode.givenName?, generated]; rfl
  rw [named context, named other, sibling.withClientFacts, sibling.alike.operationCrossId,
    concur.2]
  exact .ok rfl twin

/-- The same body is sent. -/
theorem body? (operation : OperationId) (client : ContainerId) (access : Access) :
    Pair (Twin slack) Eq (context.body? operation client access)
      (other.body? operation client access) := by
  unfold Context.body?
  dsimp only
  rw [sibling.alike.operationAt, sibling.alike.payloadType, sibling.alike.isVoidLike]
  -- Both runs have the same bodies declared; only the first may be sent.
  split
  · exact Pair.pure rfl
  · rename_i first rest bodies
    refine Pair.ite (fun _ => Pair.throw_bind) fun _ => ?_
    refine Pair.ite (fun _ => Pair.pure rfl) fun _ => ?_
    refine (Pair.node sibling first.type).bind_told (nodeWithin_finds _ first.type)
      fun type left right twin known => ?_
    have body (role : Role) : Meets (Twin slack) Eq
        (context.bodyParameter operation client first.property type role left)
        (other.bodyParameter operation client first.property type role right) := by
      unfold Context.bodyParameter
      cases declared : first.property with
      | some property =>
        refine Pair.bind_same (Pair.requestParameter sibling operation property _ client)
          (fun parameter => ?_) left right twin
        exact Pair.pure rfl
      | none =>
        -- The model of such a body goes by one name.
        have isFirst : (context.definition.operationAt operation).bodies.head? = some first := by
          rw [bodies, List.head?_cons]
        have kept := sibling.spared operation first isFirst declared
        exact Pair.unnamedBody sibling operation client type role twin
          (twin.known _ type known kept)
    refine (body _).bind fun body _ between between' _ same twin => ?_
    subst same
    refine Pair.look (fun left right twin => ?_) between between' twin
    rw [twin.isGenerated type]
    refine (Pair.addSeed type _ access).bind_same fun _ => ?_
    exact (Pair.addBodyFormat type _).bind_same fun _ => Pair.pure rfl

/-- The same header negotiates content types. -/
theorem negotiationHeader (operation : OperationId) (negotiation : Negotiation)
    (contentTypes : List String) (optional : Bool) :
    Pair (Twin slack) Eq (context.negotiationHeader operation negotiation contentTypes optional)
      (other.negotiationHeader operation negotiation contentTypes optional) := by
  -- The constants have the same values, and names that are free to differ.
  have constant (candidate value : String) : Pair (Twin slack) Eq
      (Derivation.claimName candidate >>= fun name => addConstant (.text value) (some name))
      (Derivation.claimName candidate >>= fun name => addConstant (.text value) (some name)) := by
    refine (Pair.claimName candidate).bind fun name name' same => ?_
    apply Pair.addNode
    exact ⟨rfl, same.imp fun equal => by rw [equal]⟩
  unfold Context.negotiationHeader
  dsimp only
  rw [sibling.alike.operationAt, sibling.alike.operationCrossId]
  split
  · split
    · exact (constant _ _).bind_same fun type => Pair.pure rfl
    · exact Pair.stringNode.bind_same fun type => Pair.pure rfl
  · exact Pair.stringNode.bind_same fun type => Pair.pure rfl

/-- Negotiation adds the same parameters. -/
theorem negotiate (operation : OperationId) (negotiation : Negotiation)
    (contentTypes : List String) (optional : Bool) (wire method : List Property) :
    Pair (Twin slack) Eq
      (context.negotiate operation negotiation contentTypes optional wire method)
      (other.negotiate operation negotiation contentTypes optional wire method) := by
  unfold Context.negotiate
  dsimp only
  -- Without content types there is nothing to negotiate in either run.
  refine Pair.ite (fun _ => Pair.pure rfl) fun _ => ?_
  refine (Pair.negotiationHeader sibling operation negotiation contentTypes optional).bind_same ?_
  exact fun header => Pair.pure rfl

/-- Negotiation for the body adds the same parameters. -/
theorem negotiateBody (operation : OperationId) (body : Option Property)
    (wire method : List Property) :
    Pair (Twin slack) Eq (context.negotiateBody operation body wire method)
      (other.negotiateBody operation body wire method) := by
  -- Without a body there is nothing to negotiate in either run.
  cases body with
  | none => exact Pair.pure rfl
  | some body => exact Pair.negotiate sibling operation _ _ _ wire method

/-- Negotiation for the responses adds the same parameters. -/
theorem negotiateResponses (operation : OperationId) (outcomes : Outcomes)
    (wire method : List Property) :
    Pair (Twin slack) Eq (context.negotiateResponses operation outcomes wire method)
      (other.negotiateResponses operation outcomes wire method) := by
  -- Without content types there is nothing to negotiate in either run.
  unfold Context.negotiateResponses
  split
  · exact Pair.negotiate sibling operation _ _ _ wire method
  · exact Pair.pure rfl

/-- The same sources are traced for a parameter. -/
theorem traceParameter (operation : OperationId) (client : ContainerId)
    (methodParameters : List Property) (parameter : Property) :
    Pair (Twin slack) Eq (context.traceParameter operation client methodParameters parameter)
      (other.traceParameter operation client methodParameters parameter) := by
  refine (Pair.parametersInScope sibling client).bind_same fun inScope => ?_
  refine Pair.look fun left right twin => ?_
  -- Both runs look for sources among the same parameters.
  have supplies : SupplyTwin
      { clientParameters := inScope, methodParameters, catalogue := left.catalogue }
      { clientParameters := inScope, methodParameters, catalogue := right.catalogue } :=
    { clientParameters := rfl, methodParameters := rfl, model? := twin.model? }
  dsimp only
  rw [supplies.sources sibling]
  exact (Pair.lift _).bind_same fun sources => Pair.pure rfl

/-- The same request is made, with the same parameters of the method. -/
theorem httpOperation (operation : OperationId) (client : ContainerId) (access : Access)
    (parameters : List Property) :
    Pair (Twin slack) Eq (context.httpOperation operation client access parameters)
      (other.httpOperation operation client access parameters) := by
  unfold Context.httpOperation
  rw [sibling.alike.operationAt, sibling.dropUnusedSegments]
  -- Step after step, what has come out so far is the same in both runs.
  refine (Pair.outcomes sibling operation access).bind_same fun outcomes => ?_
  refine Pair.bind_same (Pair.filterMapM_same _ fun slot _ =>
    Pair.slotParameter? sibling operation client access slot) fun wire => ?_
  refine (Pair.body? sibling operation client access).bind_same fun body => ?_
  refine (Pair.negotiateBody sibling operation body wire parameters).bind_same fun sent => ?_
  refine (Pair.negotiateResponses sibling operation outcomes sent.1 sent.2).bind_same fun both => ?_
  refine (Pair.elevateAll sibling client both.1).bind_same fun _ => ?_
  refine Pair.bind_same (Pair.mapM_same _ fun parameter _ =>
    Pair.traceParameter sibling operation client _ parameter) fun traced => ?_
  refine Pair.bind_same (Pair.optionMapM _ fun parameter =>
    Pair.traceParameter sibling operation client _ parameter) fun tracedBody => ?_
  exact Pair.pure rfl

/-! ## Links -/

/-- A directive is followed alike. -/
theorem followDirective (initiating polling : OperationId) (sources : List LinkSource)
    (targets : List LinkTarget) (links : LinkMap) (directive : Directive) :
    Pair (Twin slack) Eq
      (context.followDirective initiating polling sources targets links directive)
      (other.followDirective initiating polling sources targets links directive) := by
  -- A missing source is reported alike, whether it is of the request or of the response.
  have missing : Pair (Twin slack) Eq (context.reportMissingSource initiating directive)
      (other.reportMissingSource initiating directive) := by
    unfold Context.reportMissingSource
    rw [sibling.declaredName]
    split
    · exact Pair.reportError _ _ _
    · exact Pair.reportError _ _ _
  unfold Context.followDirective
  rw [sibling.declaredName]
  split
  · exact (Pair.reportError _ _ _).bind_same fun _ => Pair.pure rfl
  · refine Pair.ite (fun _ => ?_) fun _ => ?_
    · exact (Pair.reportError _ _ _).bind_same fun _ => Pair.pure rfl
    · split
      · exact missing.bind_same fun _ => Pair.pure rfl
      · exact Pair.pure rfl

/-- Values are linked alike. -/
theorem linkMap? (initiating : OperationId) (declared : PollingDecl) :
    Pair (Twin slack) Eq (context.linkMap? initiating declared)
      (other.linkMap? initiating declared) := by
  unfold Context.linkMap?
  dsimp only
  rw [sibling.declaredName, sibling.alike.operationAt, sibling.alike.linkSources,
    sibling.alike.linkTargets]
  -- Directives come first; what is unlinked after them and the names is warned about in both.
  refine Pair.bind_same (Pair.foldlM _ (fun links directive _ =>
    Pair.followDirective sibling initiating _ _ _ links directive) {}) fun directed => ?_
  refine Pair.ite (fun _ => Pair.pure rfl) fun _ => ?_
  exact (Pair.reportWarning _ _ _).bind_same fun _ => Pair.pure rfl

/-! ## Methods -/

/-- The same parameter of a method is made. -/
theorem methodParameter? (operation : OperationId) (client : ContainerId) (access : Access)
    (id : PropertyId) :
    Pair (Twin slack) Eq (context.methodParameter? operation client access id)
      (other.methodParameter? operation client access id) := by
  unfold Context.methodParameter?
  dsimp only
  rw [sibling.alike.propertyAt, sibling.alike.isVoidLike, sibling.alike.operationCrossId,
    sibling.parameterOf, sibling.operationVersions]
  -- The property is void, elevated, in scope already, or a parameter of the method.
  refine Pair.ite (fun _ => Pair.pure rfl) fun _ => ?_
  refine (Pair.node sibling _).bind_same fun type => ?_
  refine Pair.ite (fun _ => ?_) fun _ => ?_
  · exact (Pair.elevate sibling client _).bind_same fun _ => Pair.pure rfl
  · refine (Pair.parametersInScope sibling client).bind_same fun inScope => ?_
    refine Pair.ite (fun _ => Pair.pure rfl) fun _ => ?_
    exact (Pair.addSeed type .input access).bind_same fun _ => Pair.pure rfl

/-- Unions are made up for the same responses. -/
theorem addResponseUnion (operation : OperationId) (access : Access) (variants : List NodeId) :
    Pair (Twin slack) Eq (context.addResponseUnion operation access variants)
      (other.addResponseUnion operation access variants) := by
  unfold Context.addResponseUnion
  dsimp only
  rw [sibling.alike.operationAt, sibling.alike.namespaceOf]
  -- The name may differ, but the node that gets it does not.
  refine (Pair.claimName _).bind fun name name' same => ?_
  refine Pair.bind_same (Pair.addNode ?_) fun node => ?_
  · exact ⟨rfl, same.imp fun equal => by rw [equal]⟩
  · exact (Pair.addSeed node .output access).bind_same fun _ => Pair.pure rfl

/-- The same response is handed back. -/
theorem methodResponse (operation : OperationId) (responses : ResponseMap) (access : Access) :
    Pair (Twin slack) Eq (context.methodResponse operation responses access)
      (other.methodResponse operation responses access) := by
  -- The type that successes come to is made of their nodes, without a look at names.
  have carried (types : List NodeId) : Pair (Twin slack) Eq
      (context.successType? operation access types)
      (other.successType? operation access types) := by
    unfold Context.successType?
    split
    · exact Pair.pure rfl
    · exact Pair.pure rfl
    · exact (Pair.addResponseUnion sibling operation access _).map fun _ _ => congrArg some
  unfold Context.methodResponse
  refine (carried _).bind_same fun type => ?_
  cases type with
  | none => exact Pair.pure rfl
  | some type =>
    refine Pair.look fun left right twin => ?_
    -- Whether null is admitted is not told by a name.
    have nullable : (right.catalogue.nodeAt type).unnamed.nullable =
        (left.catalogue.nodeAt type).unnamed.nullable := by
      rw [(twin.nodes type).unnamed]
    simp only [show (right.catalogue.nodeAt type).nullable =
      (left.catalogue.nodeAt type).nullable from nullable]
    refine Pair.ite (fun _ => ?_) fun _ => Pair.pure rfl
    exact (Pair.addNode_same _).bind_same fun orNull => Pair.pure rfl

/-- The same monitor is found. -/
theorem statusMonitor? (polling : OperationId) (access : Access) :
    Pair (Twin slack) Eq (context.statusMonitor? polling access)
      (other.statusMonitor? polling access) := by
  have property (id : PropertyId) :
      Pair (Twin slack) Eq (context.monitorProperty id) (other.monitorProperty id) := by
    unfold Context.monitorProperty
    rw [sibling.alike.propertyAt]
    exact (Pair.node sibling _).bind_same fun type => Pair.pure rfl
  unfold Context.statusMonitor?
  dsimp only
  rw [sibling.statusTypes, sibling.firstMonitor?, sibling.alike.propertyAt,
    sibling.alike.allProperties]
  -- The search goes by declarations, and what it finds is derived in both runs.
  refine (Pair.answerOf _).bind_same fun found => ?_
  split
  · exact Pair.pure rfl
  · refine (Pair.node sibling _).bind_same fun type => ?_
    refine (Pair.addSeed type _ access).bind_same fun _ => ?_
    refine (property _).bind_same fun status => ?_
    refine (Pair.optionMapM _ property).bind_same fun success => ?_
    exact (Pair.optionMapM _ property).bind_same fun error => Pair.pure rfl

/-- Links are made alike. -/
theorem link? (initiating : OperationId) (declared : PollingDecl) (access : Access) :
    Pair (Twin slack) Eq (context.link? initiating declared access)
      (other.link? initiating declared access) := by
  unfold Context.link?
  rw [sibling.operationRef, sibling.pollingUrl?]
  -- Without values for all parameters no run has a link.
  refine (Pair.linkMap? sibling initiating declared).bind_same fun parameters => ?_
  cases parameters with
  | none => exact Pair.pure rfl
  | some parameters =>
    exact (Pair.statusMonitor? sibling declared.operation access).bind_same fun _ => Pair.pure rfl

/-- Polling comes out alike. -/
theorem polling? (operation : OperationId) (declared : PollingDecl) (access : Access)
    (response : MethodResponse) :
    Pair (Twin slack) Eq (context.polling? operation declared access response)
      (other.polling? operation declared access response) := by
  unfold Context.polling?
  rw [sibling.declaredName, sibling.operationRef]
  -- The runs have the same link; without one, or without a monitor, they have no polling.
  refine (Pair.link? sibling operation declared access).bind_same fun link => ?_
  cases link with
  | none => exact Pair.pure rfl
  | some link =>
    cases isMonitor : link.monitor with
    | none =>
      simp only [isMonitor]
      exact (Pair.reportWarning _ _ _).bind_same fun _ => Pair.pure rfl
    | some monitor =>
      simp only [isMonitor]
      exact Pair.pure rfl

/-- The same method is built. -/
theorem buildMethod (operation : OperationId) (client : ContainerId) :
    Pair (Twin slack) Eq (context.buildMethod operation client)
      (other.buildMethod operation client) := by
  unfold Context.buildMethod
  dsimp only
  rw [sibling.alike.operationAt, sibling.access?, sibling.operationName,
    sibling.operationVersions, sibling.alike.operationCrossId, sibling.pagingOf]
  -- From the parameters to the polling, each step comes out the same.
  refine Pair.bind_same (Pair.filterMapM_same _ fun id _ =>
    Pair.methodParameter? sibling operation client _ id) fun parameters => ?_
  refine (Pair.httpOperation sibling operation client _ parameters).bind_same fun built => ?_
  refine (Pair.methodResponse sibling operation _ _).bind_same fun response => ?_
  refine Pair.look fun left right twin => ?_
  simp only [twin.pagedResponse]
  split
  · exact (Pair.polling? sibling operation _ _ _).bind_same fun progress => Pair.pure rfl
  · exact Pair.pure rfl

end Pair

/-- A method as the second run wants it. -/
def Slack.adapt (slack : Slack) (method : Method) : Method :=
  { method with isConvenient := method.isConvenient && !method.origin.any slack.quiet }

omit sibling in
/-- The notes of a method that are taken back in either run are its own. -/
theorem Twin.takeBack {built built' : State} {client : ContainerId} (twin : Twin slack left right)
    (twin' : Twin slack built built') (sibling : Sibling slack context other)
    (operation : OperationId) (accrued : Accrued (· = client) left built)
    (accrued' : Accrued (· = client) right built') :
    Twin slack
      (if context.isConvenient operation then built
        else { built with
          seeds := built.seeds.take left.usageMark.seeds
          bodyFormats := built.bodyFormats.take left.usageMark.bodyFormats })
      (if other.isConvenient operation then built'
        else { built' with
          seeds := built'.seeds.take right.usageMark.seeds
          bodyFormats := built'.bodyFormats.take right.usageMark.bodyFormats }) := by
  rw [accrued.discarded.1, accrued.discarded.2, accrued'.discarded.1, accrued'.discarded.2,
    sibling.isConvenient]
  cases context.isConvenient operation with
  | false =>
    -- Neither run wants the method on typed values.
    exact { twin' with seeds := twin.seeds, bodyFormats := twin.bodyFormats, full := twin.full }
  | true =>
    cases quiet : slack.quiet operation with
    | false => exact twin'
    | true =>
      -- One run notes what the other one takes back, so that its notes are among those.
      exact
        { twin' with
          seeds := twin.seeds.trans accrued.seeds.sublist
          bodyFormats := twin.bodyFormats.trans accrued.bodyFormats.sublist
          full := fun wanted => by simp [wanted] at quiet }

/--
A method comes out the same but for whether it is wanted on typed values.

Of the notes that were taken for it, the second run keeps all or none.
-/
theorem Pair.method (operation : OperationId) (client : ContainerId) :
    Pair (Twin slack) (fun one two => two = slack.adapt one) (context.method operation client)
      (other.method operation client) := by
  intro left right twin
  have meets := Pair.buildMethod sibling operation client left right twin
  -- By how building goes, which is the same in both runs.
  rw [Context.method_run, Context.method_run]
  cases here : context.buildMethod operation client left with
  | mk outcome built =>
    cases there : other.buildMethod operation client right with
    | mk outcome' built' =>
      rw [here, there] at meets
      cases meets with
      | ok same twin' =>
        subst same
        have origin := (Context.buildMethod_origin operation client).ok trivial here
        have accrued := Context.buildMethod_accrues here (by simp)
        have accrued' := Context.buildMethod_accrues there (by simp)
        refine .ok ?_ (twin.takeBack twin' sibling operation accrued accrued')
        simp only [Slack.adapt, sibling.isConvenient, origin, Option.any_some,
          sibling.protocolMethod?, sibling.options]
      | @error failure _ _ states =>
        refine .error fun isOwn => ?_
        -- The method alone has failed, so that what was noted before the failure is there.
        have own (cause : Failure)
            (same : (Except.error failure : Except Failure Method) = .error cause) :
            cause.endsRun = false := by
          cases same
          exact isOwn
        have accrued := Context.buildMethod_accrues here own
        have accrued' := Context.buildMethod_accrues there own
        exact twin.takeBack (states isOwn) sibling operation accrued accrued'

end

end Derivation

end ClientModel
