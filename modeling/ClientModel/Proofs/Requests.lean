import ClientModel.Proofs.Coverage
import ClientModel.Proofs.Holding
import ClientModel.Proofs.Sources

/-!
The HTTP operations of methods name only nodes that are there.

This is told of every parameter of a request, of what its value is read from, and of all responses.
-/

namespace ClientModel

/-- The nodes that a parameter of a request names, and those that its sources name. -/
def WireParameter.nodeIds (wire : WireParameter) : List NodeId :=
  wire.property.nodeIds ++ wire.sources.flatMap fun source => source.root.nodeIds

/-- The nodes that an HTTP operation names. -/
def HttpOperation.nodeIds (operation : HttpOperation) : List NodeId :=
  operation.wireParameters.flatMap WireParameter.nodeIds ++
    (operation.responses.values.flatMap HttpResponse.types ++
      operation.exceptions.values.flatMap HttpResponse.types)

namespace Derivation

open Service (ResponseDecl WireSlot)

variable {context : Context} {catalogue : Catalogue}

/-- Parameters of two lists are admitted together. -/
theorem AdmitsAll.append {parameters more : List Property}
    (first : AdmitsAll context catalogue parameters) (second : AdmitsAll context catalogue more) :
    AdmitsAll context catalogue (parameters ++ more) :=
  fun parameter listed => (List.mem_append.mp listed).elim (first parameter) (second parameter)

/-- The parameters that pass a test are admitted as well. -/
theorem AdmitsAll.filter {parameters : List Property}
    (admits : AdmitsAll context catalogue parameters) (wanted : Property → Bool) :
    AdmitsAll context catalogue (parameters.filter wanted) :=
  fun parameter listed => admits parameter (List.mem_of_mem_filter listed)

/-! ## Responses -/

/-- A response header has its type in the catalogue. -/
theorem responseHeader?_conveys (access : Access) (id : PropertyId) :
    Conveys (Advances context) (fun _ => True) (context.responseHeader? access id)
      fun found state => ∀ header ∈ found, state.catalogue.Holds [header.type] := by
  unfold Context.responseHeader?
  dsimp only
  -- A header without a value is left out; any other comes with the node of its type.
  split
  · exact Conveys.pure_none
  · refine (node_conveys _).onward (fun _ start => start) fun type => ?_
    exact (addSeed_conveys _ _ _).past (fun _ _ => trivial) fun _ =>
      Conveys.pure_some fun _ _ known => known.2

/-- A response has all its types in the catalogue. -/
theorem response_conveys (access : Access) (declared : ResponseDecl) :
    Conveys (Advances context) (fun _ => True) (context.response access declared)
      fun response state => state.catalogue.Holds response.types := by
  unfold Context.response
  have headers := Conveys.filterMapM declared.headers fun id _ =>
    @responseHeader?_conveys context access id
  refine headers.onward (fun _ start => start) fun headers => ?_
  -- The types of the headers are there, and that of the payload joins them.
  have together (state : State) (each : ∀ header ∈ headers, state.catalogue.Holds [header.type]) :
      state.catalogue.Holds (headers.map ResponseHeader.type) := by
    intro id member
    obtain ⟨header, listed, rfl⟩ := List.mem_map.mp member
    exact each header listed _ List.mem_cons_self
  dsimp only
  -- Whether there is a payload or not, headers have their types.
  split
  · exact Conveys.pure fun state _ known => together state known.2
  · refine (node_conveys _).onward (fun _ _ => trivial) fun type => ?_
    refine (addSeed_conveys _ _ _).past (fun _ _ => trivial) fun _ => Conveys.pure ?_
    exact fun state _ known => known.2.append (together state known.1.2)

/-- A response that is added to the outcomes brings types of the catalogue only. -/
theorem addResponse_conveys (operation : OperationId) (access : Access) (outcomes : Outcomes)
    (declared : ResponseDecl) :
    Conveys (Advances context) (fun state => state.catalogue.Holds (Context.typesOf outcomes))
      (context.addResponse operation access outcomes declared)
      fun outcomes state => state.catalogue.Holds (Context.typesOf outcomes) := by
  -- The response is derived first; what becomes of it is told by cases on its status.
  unfold Context.addResponse
  refine (response_conveys access declared).onward (fun _ _ => trivial) fun response => ?_
  -- A second type for one status is warned about.
  have warned {message : String} : Conveys (Advances context) (fun _ => True)
      (reportWarning (.operation operation) Code.multipleResponseTypes message) fun _ _ => True :=
    reportWarning_conveys (by decide)
  dsimp only
  split
  · -- The first response for a status is kept.
    split
    · exact warned.past (fun _ _ => trivial) fun _ => Conveys.pure fun _ _ known => known.1
    · exact Conveys.pure fun _ _ known => known.1
  · split
    · -- The response joins the errors, and successes are as before.
      refine Conveys.pure fun state _ known => ?_
      obtain ⟨successes, errors⟩ := Catalogue.holds_append.mp known.1
      exact successes.append ((errors.append known.2).subset (Context.types_insert _ _ _))
    · refine Conveys.pure fun state _ known => ?_
      obtain ⟨successes, errors⟩ := Catalogue.holds_append.mp known.1
      exact ((successes.append known.2).subset (Context.types_insert _ _ _)).append errors

/-- All outcomes of an operation have their types in the catalogue. -/
theorem outcomes_conveys (operation : OperationId) (access : Access) :
    Conveys (Advances context) (fun _ => True) (context.outcomes operation access)
      fun outcomes state => state.catalogue.Holds (Context.typesOf outcomes) := by
  -- The responses are added one by one.
  have all := Conveys.foldlM (context.definition.operationAt operation).responses
    (fun declared _ outcomes => (@addResponse_conveys context operation access outcomes
      declared).starting fun _ _ (start : True ∧ _) => start.2) {}
  exact all.starting fun state _ _ => ⟨trivial, by simp [Context.typesOf, OrderedMap.values]⟩

/-! ## Requests -/

/-- The parameter of a slot is admitted. -/
theorem slotParameter?_conveys (operation : OperationId) (client : ContainerId)
    (access : Access) (slot : WireSlot) :
    Conveys (Advances context) (fun _ => True)
      (context.slotParameter? operation client access slot)
      fun found state => ∀ parameter ∈ found, Admits context state.catalogue parameter := by
  unfold Context.slotParameter?
  dsimp only
  -- A slot without a value is left out, and one that holds the body ends the method.
  split
  · exact Conveys.pure_none
  · refine (requestParameter_conveys _ _ _ _).onward (fun _ start => start) fun parameter => ?_
    split
    · exact Conveys.throw_bind
    · exact (addSeed_conveys _ _ _).past (fun _ _ => trivial) fun _ =>
        Conveys.pure_some fun _ _ known => known.2

/-- A body that is made up is admitted. -/
theorem unnamedBody_conveys (operation : OperationId) (client : ContainerId) (type : NodeId)
    (role : Role) :
    Conveys (Advances context) (fun state => state.catalogue.Holds [type])
      (context.unnamedBody operation client type role)
      fun body state => Admits context state.catalogue body := by
  unfold Context.unnamedBody
  -- The property is made up, so that no declaration tells its name.
  have bare {name : String} {state : State} (inside : state.catalogue.Holds [type]) :
      Admits context state.catalogue (context.withClientFacts client
        { name
          serializedName := "body"
          type
          role
          isGeneratedName := true
          crossId := context.definition.operationCrossId operation ++ ".body" }) :=
    Admits.withClientFacts ⟨inside, by simp, fun isVersion => by cases isVersion⟩ client
  exact (modelAt?_conveys type).past (fun _ _ => trivial) fun model =>
    Conveys.pure fun _ _ inside => bare inside

/-- The parameter for a body is admitted, whether it is declared or made up. -/
theorem bodyParameter_conveys (operation : OperationId) (client : ContainerId)
    (declared : Option PropertyId) (type : NodeId) (role : Role) :
    Conveys (Advances context) (fun state => state.catalogue.Holds [type])
      (context.bodyParameter operation client declared type role)
      fun body state => Admits context state.catalogue body := by
  -- The body is a declared property, or one that is made up.
  cases declared with
  | none => exact unnamedBody_conveys operation client type role
  | some property =>
    refine (requestParameter_conveys _ _ _ _).onward (fun _ _ => trivial) fun parameter => ?_
    refine Conveys.pure ?_
    rintro state _ ⟨inside, admits⟩
    refine ⟨fun id member => ?_, admits.declared, admits.version⟩
    -- The type of the body takes the place of that of the parameter.
    rcases List.mem_cons.mp member with rfl | owner
    · exact inside _ List.mem_cons_self
    · exact admits.names id (List.mem_cons_of_mem _ owner)

/-- The body of an operation is admitted. -/
theorem body?_conveys (operation : OperationId) (client : ContainerId) (access : Access) :
    Conveys (Advances context) (fun _ => True) (context.body? operation client access)
      fun found state => ∀ body ∈ found, Admits context state.catalogue body := by
  unfold Context.body?
  dsimp only
  -- Without a body there is nothing to be told.
  split
  · exact Conveys.pure_none
  · split
    -- Bodies of several types end the method.
    · exact Conveys.throw_bind
    · split
      · exact Conveys.pure_none
      · refine (node_conveys _).onward (fun _ start => start) fun type => ?_
        refine (bodyParameter_conveys _ _ _ type _).onward (fun _ known => known.2) fun body => ?_
        refine (modelAt?_conveys type).past (fun _ _ => trivial) fun model => ?_
        refine (addSeed_conveys _ _ _).past (fun _ _ => trivial) fun _ => ?_
        exact (addBodyFormat_conveys _ _).past (fun _ _ => trivial) fun _ =>
          Conveys.pure_some fun _ _ known => known.2

/-- The header that negotiates a content type is admitted. -/
theorem negotiationHeader_conveys (operation : OperationId) (negotiation : Negotiation)
    (contentTypes : List String) (optional : Bool) :
    Conveys (Advances context) (fun _ => True)
      (context.negotiationHeader operation negotiation contentTypes optional)
      fun header state => Admits context state.catalogue header := by
  -- Where nothing is left to choose the content type is a constant, and else any text.
  have constant (value candidate : String) : Conveys (Advances context) (fun _ => True)
      (claimName candidate >>= fun name => addConstant (.text value) (some name))
      fun type state => state.catalogue.Holds [type] :=
    (claimName_conveys candidate).bind fun name => addConstant_conveys _ _
  have header (state : State) (type : NodeId) (inside : state.catalogue.Holds [type]) :
      -- Whatever its type, the header has no declaration behind it and is no version.
      Admits context state.catalogue
        { name := negotiation.name
          serializedName := negotiation.serializedName
          type
          optional
          role := .header
          isGeneratedName := true
          crossId := context.definition.operationCrossId operation ++ "." ++ negotiation.name } :=
    ⟨inside, by simp, fun isVersion => by cases isVersion⟩
  unfold Context.negotiationHeader
  dsimp only
  split
  · split
    · exact (constant _ _).bind fun type => Conveys.pure fun state _ => header state type
    · exact stringNode_holds.bind fun type => Conveys.pure fun state _ => header state type
  · exact stringNode_holds.bind fun type => Conveys.pure fun state _ => header state type

/-- Parameters of a request and of a method, all of which are admitted. -/
def Negotiated (context : Context) (result : List Property × List Property) (state : State) :
    Prop :=
  AdmitsAll context state.catalogue result.1 ∧ AdmitsAll context state.catalogue result.2

instance (result : List Property × List Property) :
    Lasts (Advances context) (Negotiated context result) :=
  ⟨fun _ _ known advances =>
    ⟨known.1.mono advances.grown.size, known.2.mono advances.grown.size⟩⟩

/-- With a header that is admitted, all parameters are admitted still. -/
theorem AdmitsAll.withHeaderParameter {parameters : List Property} {header : Property}
    (admits : AdmitsAll context catalogue parameters) (isHeader : Admits context catalogue header) :
    AdmitsAll context catalogue (withHeaderParameter parameters header) := by
  unfold Derivation.withHeaderParameter
  -- A header of the name may be there already.
  split
  · exact admits
  · refine admits.append fun parameter listed => ?_
    rw [List.mem_singleton.mp listed]
    exact ⟨isHeader.names, isHeader.declared, isHeader.version⟩

/-- Negotiation leaves the parameters on the wire and of the method admitted. -/
theorem negotiate_conveys (operation : OperationId) (negotiation : Negotiation)
    (contentTypes : List String) (optional : Bool) (wire method : List Property) :
    Conveys (Advances context) (Negotiated context (wire, method))
      (context.negotiate operation negotiation contentTypes optional wire method)
      (Negotiated context) := by
  unfold Context.negotiate
  dsimp only
  -- No header is made for no content types at all.
  split
  · exact Conveys.pure fun _ _ known => known
  · refine (negotiationHeader_conveys _ _ _ _).onward (fun _ _ => trivial) fun header => ?_
    refine Conveys.pure ?_
    rintro state _ ⟨known, isHeader⟩
    refine ⟨known.1.append ?_, known.2.withHeaderParameter isHeader⟩
    exact fun parameter listed => List.mem_singleton.mp listed ▸ isHeader

/-- Negotiation for the body leaves all parameters admitted. -/
theorem negotiateBody_conveys (operation : OperationId) (body : Option Property)
    (wire method : List Property) :
    Conveys (Advances context) (Negotiated context (wire, method))
      (context.negotiateBody operation body wire method) (Negotiated context) := by
  -- Without a body nothing is negotiated.
  cases body with
  | none => exact Conveys.pure fun _ _ known => known
  | some body => exact negotiate_conveys _ _ _ _ _ _

/-- Negotiation for the responses leaves all parameters admitted. -/
theorem negotiateResponses_conveys (operation : OperationId) (outcomes : Outcomes)
    (wire method : List Property) :
    Conveys (Advances context) (Negotiated context (wire, method))
      (context.negotiateResponses operation outcomes wire method) (Negotiated context) := by
  -- Without content types nothing is negotiated.
  unfold Context.negotiateResponses
  split
  · exact negotiate_conveys _ _ _ _ _ _
  · exact Conveys.pure fun _ _ known => known

/-! ## Sources -/

/-- Parameters on the wire may be elevated to clients, and stay admitted. -/
theorem elevateAll_conveys (client : ContainerId) (wire : List Property) :
    Conveys (Advances context) (fun state => AdmitsAll context state.catalogue wire)
      (context.elevateAll client wire) fun _ _ => True := by
  unfold Context.elevateAll
  -- All along the loop, what is on the wire stays admitted.
  refine Conveys.bind (Conveys.forIn _ ?_ _) fun _ => Conveys.pure fun _ _ _ => trivial
  intro parameter listed _
  refine (elevate_conveys client _).past (fun state admits => ?_) fun _ =>
    Conveys.pure fun _ _ _ => trivial
  have admitted := admits parameter (List.mem_of_mem_filter listed)
  exact ⟨admitted.names, admitted.declared, admitted.version⟩

/-- A parameter that is traced holds its own type and the nodes on the way. -/
theorem traceParameter_conveys (operation : OperationId) (client : ContainerId)
    (parameters : List Property) (wanted : Property) :
    Conveys (Advances context) (fun state => AdmitsAll context state.catalogue parameters ∧
        Admits context state.catalogue wanted)
      (context.traceParameter operation client parameters wanted)
      fun wire state => state.catalogue.Holds wire.nodeIds := by
  -- Tracing only looks at what there is, so that all is where it was.
  have looks : Conveys (Advances context)
      (fun state => AdmitsAll context state.catalogue parameters ∧
        Admits context state.catalogue wanted)
      (context.traceParameter operation client parameters wanted)
      fun _ state => AdmitsAll context state.catalogue parameters ∧
        Admits context state.catalogue wanted := by
    unfold Context.traceParameter
    refine (parametersInScope_conveys client).past (fun _ _ => trivial) fun scope => ?_
    refine Conveys.look fun current _ _ => ?_
    refine Conveys.bind (Conveys.lift fun _ _ _ _ known => known) fun sources => ?_
    exact Conveys.pure fun _ _ known => known
  -- Where each part comes from was told before: the method, or what is in scope.
  have traced := looks.also (Context.traceParameter_property operation client parameters wanted)
  have traced := traced.also (traceParameter_isSupplied operation client parameters wanted)
  refine traced.ending ?_
  rintro wire state consistent ⟨⟨⟨all, isWanted⟩, same⟩, _, supplied⟩
  refine Catalogue.Holds.append (same ▸ isWanted.names)
    (Catalogue.holds_flatMap fun source listed => ?_)
  rcases (supplied source listed).root with own | inScope
  · exact (all _ own).names
  · exact (consistent.inScope client _ inScope).names

/-- All parameters that are traced hold nodes of the catalogue. -/
theorem traceParameters_convey (operation : OperationId) (client : ContainerId)
    (parameters wire : List Property) :
    Conveys (Advances context) (fun state => AdmitsAll context state.catalogue parameters ∧
        AdmitsAll context state.catalogue wire)
      (wire.mapM (context.traceParameter operation client parameters))
      fun traced state => state.catalogue.Holds (traced.flatMap WireParameter.nodeIds) := by
  refine (Conveys.mapM wire fun wanted listed =>
    (traceParameter_conveys operation client parameters wanted).starting fun _ _ known =>
      ⟨known.1, known.2 wanted listed⟩).ending fun traced state _ each => ?_
  -- Each parameter on the wire was traced on its own.
  refine Catalogue.holds_flatMap fun found listed => ?_
  obtain ⟨_, _, holds⟩ := partner_of_mem each.flip listed
  exact holds

/-- The body that is traced holds nodes of the catalogue. -/
theorem traceBody_conveys (operation : OperationId) (client : ContainerId)
    (parameters : List Property) (body : Option Property) :
    Conveys (Advances context) (fun state => AdmitsAll context state.catalogue parameters ∧
        ∀ wanted ∈ body, Admits context state.catalogue wanted)
      (body.mapM (context.traceParameter operation client parameters))
      fun traced state => state.catalogue.Holds (traced.toList.flatMap WireParameter.nodeIds) := by
  -- The body is traced among the parameters, which are admissible throughout.
  refine (Conveys.optionMapM body fun wanted isBody =>
    (traceParameter_conveys operation client parameters wanted).starting fun _ _ known =>
      ⟨known.1, known.2 wanted isBody⟩).ending fun traced state _ each => ?_
  refine Catalogue.holds_flatMap fun found isFound => ?_
  obtain ⟨_, _, holds⟩ := each found (Option.mem_toList.mp isFound)
  exact holds

/-! ## HTTP operations -/

/-- A request is made of nodes of the catalogue, and its method parameters are admitted. -/
theorem httpOperation_conveys (operation : OperationId) (client : ContainerId) (access : Access)
    (parameters : List Property) :
    Conveys (Advances context) (fun state => AdmitsAll context state.catalogue parameters)
      (context.httpOperation operation client access parameters)
      fun result state => state.catalogue.Holds result.1.nodeIds ∧
        AdmitsAll context state.catalogue result.2 := by
  unfold Context.httpOperation
  -- Step by step, what was told so far is carried along to the end.
  refine (outcomes_conveys operation access).onward (fun _ _ => trivial) fun outcomes => ?_
  have slots := Conveys.filterMapM (context.definition.operationAt operation).slots
    fun slot _ => @slotParameter?_conveys context operation client access slot
  refine slots.onward (fun _ _ => trivial) fun wire => ?_
  refine (body?_conveys operation client access).onward (fun _ _ => trivial) fun body => ?_
  refine (negotiateBody_conveys operation body wire parameters).onward
    (fun _ known => ⟨known.1.2, known.1.1.1⟩) fun sent => ?_
  refine (negotiateResponses_conveys operation outcomes sent.1 sent.2).onward
    (fun _ known => known.2) fun accepted => ?_
  refine (elevateAll_conveys client accepted.1).past (fun _ known => known.2.1) fun _ => ?_
  -- Only parameters of the method that are left in the end are a source.
  refine (traceParameters_convey operation client _ accepted.1).onward
    (fun _ known => ⟨known.2.2.filter _, known.2.1⟩) fun traced => ?_
  refine (traceBody_conveys operation client _ body).onward
    (fun _ known => ⟨known.1.2.2.filter _, known.1.1.1.2⟩) fun tracedBody => Conveys.pure ?_
  rintro state _ ⟨⟨⟨⟨⟨⟨⟨_, responses⟩, _⟩, _⟩, _⟩, _, left⟩, inRequest⟩, inBody⟩
  refine ⟨?_, left.filter _⟩
  rw [HttpOperation.nodeIds, HttpOperation.wireParameters, List.flatMap_append]
  exact (inRequest.append inBody).append responses

end Derivation

end ClientModel
