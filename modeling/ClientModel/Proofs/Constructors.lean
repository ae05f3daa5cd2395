import ClientModel.Proofs.DeclaredTypes
import ClientModel.Proofs.Exports

/-!
What the constructors of clients lead to.

What a constructor asks for notes no usage by itself: usage starts where a method is called. Still,
since all parameters of a declared type share its node, whatever an argument of a constructor leads
to is listed by the package as soon as a method on typed values sends something declared with that
type, or has that type in its signature.
-/

namespace ClientModel

open Relation (ReflTransGen)

/--
A method that is wanted on typed values deals with a declared type.

It sends a parameter beside its body that is declared with the type, or has the type in its
signature.
-/
def Package.Uses (package : Package) (definition : Service.Definition) (type : TypeId) : Prop :=
  ∃ client ∈ Client.walkAll package.clients, ∃ method ∈ client.methods, method.isConvenient = true ∧
    ((∃ operation ∈ method.operation?, ∃ wire ∈ operation.parameters,
        ∃ id ∈ wire.property.origin, definition.declaredType id = type) ∨
      ∃ node ∈ method.signature, (package.catalogue.nodeAt node).origin = some type)

/-- Templates are told by endpoints and the variants of unions, neither of which usage changes. -/
theorem SameCores.templates {before after : Catalogue} (cores : SameCores before after)
    (type : NodeId) : after.templates type = before.templates type := by
  have endpoint (id : NodeId) : (after.nodeAt id).endpoint? = (before.nodeAt id).endpoint? := by
    have same := cores.core id
    -- Two kinds with one core are of one label, and neither an endpoint nor a union forgets
    -- anything.
    cases kind : (before.nodeAt id).kind <;> cases isKind : (after.nodeAt id).kind <;>
      simp_all [NodeKind.core, Node.endpoint?]
  have variants : (after.nodeAt type).union?.map UnionNode.variants =
      (before.nodeAt type).union?.map UnionNode.variants := by
    have same := cores.core type
    cases kind : (before.nodeAt type).kind <;> cases isKind : (after.nodeAt type).kind <;>
      simp_all [NodeKind.core, Node.union?]
  simp only [Catalogue.templates, endpoint, variants]

namespace Derivation

open Service (Definition Server)

variable {α : Type} {context : Context} {state : State}

/-! ## Methods of clients -/

/-- What a method sends is typed as declared, and the notes on templates stay true. -/
theorem method_furnishes (operation : OperationId) (client : ContainerId) :
    Conveys context.Furnishes (fun _ => True) (context.method operation client)
      context.SendsTyped := by
  refine (buildMethod_furnishes operation client).method (fun state _ _ => ?_)
    fun _ _ _ _ typed => typed
  -- Whether the notes on usage are kept or taken back, nothing is given to anyone.
  exact GivesNothing.furnishes
    { GivesNothing.refl state with grown := (Grown.refl state).noted _ _ _ _ }

/-- So it is with a method that may be reported instead. -/
theorem methodOrReport_furnishes (container : ContainerId) (operation : OperationId) :
    Conveys context.Furnishes (fun _ => True) (context.methodOrReport container operation)
      fun found state => ∀ method ∈ found, context.SendsTyped method state := by
  -- A report is the one thing that is done about a failure, and it gives nobody anything.
  refine (method_furnishes operation container).methodOrReport fun state _ => ?_
  exact GivesNothing.furnishes
    { GivesNothing.refl state with grown := (Grown.refl state).report _ }

/-! ## Endpoints and credentials -/

/-- What the template of a server asks for is typed as declared. -/
theorem serverArgument?_furnishes (root : ContainerId) (id : PropertyId) :
    Conveys context.Furnishes (fun _ => True) (context.serverArgument? root id)
      fun found state => ∀ argument ∈ found, context.Typed argument state := by
  unfold Context.serverArgument?
  extract_lets declared isOnPath
  by_cases onPath : isOnPath = true
  · rw [if_pos onPath]
    -- An argument on the path is made from a property; what is not on the path is reported.
    exact (node_furnishes _).bind fun type =>
      Conveys.pure_some fun _ _ known => typed_parameterOf known _ _ _
  · rw [if_neg onPath]
    exact (furnishes_of_keeps fun start => (GivesNothing.noting context start).reportError _
      (by decide) _).past (fun _ _ => trivial) fun _ => Conveys.pure_none

/-- All arguments of some endpoints are typed as declared. -/
def Context.EndpointsTyped (context : Context) (endpoints : List Endpoint) (state : State) : Prop :=
  ∀ endpoint ∈ endpoints, ∀ argument ∈ endpoint.arguments, context.Typed argument state

/-- Endpoints that are typed as declared stay so as the catalogue grows. -/
theorem lasting_endpointsTyped (endpoints : List Endpoint) :
    Lasting (context.EndpointsTyped endpoints) :=
  -- An argument of an endpoint is typed on its own, and that is lasting.
  fun before after typed grown endpoint listed argument isArgument =>
    lasting_typed argument before after (typed endpoint listed argument isArgument) grown

instance Lasts.endpointsTyped {leads : State → State → Prop} [Growing leads]
    (endpoints : List Endpoint) : Lasts leads (context.EndpointsTyped endpoints) :=
  .of_lasting (lasting_endpointsTyped endpoints)

/-- The argument for a whole URL has no declaration. -/
theorem endpointsTyped_wholeUrl (string : NodeId) (url : Option String) (rootId : String) :
    context.EndpointsTyped [wholeUrl string url rootId] state := by
  -- Without a declaration there is no type that it could fall short of.
  intro endpoint listed argument isArgument
  rw [List.mem_singleton.mp listed] at isArgument
  rw [List.mem_singleton.mp isArgument]
  exact typed_of_origin rfl

/-- The endpoints of one server are typed as declared. -/
theorem serverEndpoints_furnishes (root : ContainerId) (string : NodeId) (server : Server) :
    Conveys context.Furnishes (fun _ => True) (context.serverEndpoints root string server)
      context.EndpointsTyped := by
  unfold Context.serverEndpoints
  refine (Conveys.filterMapM _ fun id _ => serverArgument?_furnishes root id).bind
    fun arguments => ?_
  -- A template that takes the whole URL asks for nothing that is declared.
  split
  · exact Conveys.pure fun _ _ _ => endpointsTyped_wholeUrl _ _ _
  · -- The template comes first, and one that takes a whole URL may follow.
    dsimp only
    split
    · exact Conveys.pure fun _ _ typed endpoint listed =>
        List.mem_singleton.mp listed ▸ typed
    · refine Conveys.pure fun _ _ typed endpoint listed => ?_
      rcases List.mem_cons.mp listed with rfl | other
      · exact typed
      · exact endpointsTyped_wholeUrl _ _ _ endpoint other

/-- A template whose arguments are typed as declared may become a node. -/
theorem addTemplate_furnishes {endpoint : Endpoint} :
    Conveys context.Furnishes
      (fun state => ∀ argument ∈ endpoint.arguments, context.Typed argument state)
      (addNode { kind := .endpoint endpoint }) context.IsTemplate := by
  have pushed (state : State) (node : Node) : Grown state
      { state with catalogue := state.catalogue.push node } :=
    (Grown.refl state).push node
  rintro start _
  refine Ensures.addNode ?_
  rintro state ⟨rfl, typed⟩
  -- The node is the last one, and its arguments are typed as before it was added.
  refine ⟨(GivesNothing.furnishes { GivesNothing.refl state with grown := pushed state _ }),
    endpoint, by rw [Catalogue.nodeAt_push_self], fun argument listed => ?_⟩
  exact lasting_typed argument _ _ (typed argument listed) (pushed state _)

/-- The type of an endpoint is a template, or a union of templates, that are typed as declared. -/
theorem addEndpointType_furnishes (root : ContainerId) (endpoints : List Endpoint) :
    Conveys context.Furnishes (context.EndpointsTyped endpoints)
      (context.addEndpointType root endpoints) context.IsEndpointType := by
  unfold Context.addEndpointType
  have nodes := Conveys.mapM endpoints fun endpoint listed =>
    (@addTemplate_furnishes context endpoint).starting
      fun state _ (typed : context.EndpointsTyped endpoints state) => typed endpoint listed
  refine nodes.bind fun variants => ?_
  -- A single template is the type itself, and several are a union.
  split
  · refine Conveys.pure fun state _ each => Or.inl ?_
    obtain ⟨_, _, isTemplate⟩ := partner_of_mem each.flip (List.mem_singleton_self _)
    exact isTemplate
  · refine (furnishes_of_keeps fun start => (GivesNothing.noting context start).claimName _).past
      (fun _ _ => trivial) fun name => ?_
    rintro start _
    refine Ensures.addNode ?_
    rintro state ⟨rfl, each⟩
    have grown := (Grown.refl state).push
    -- The name of a union is claimed, which adds no node; the union itself is the one node that is
    -- added.
    refine ⟨(GivesNothing.furnishes { GivesNothing.refl state with grown := grown _ }), Or.inr
      ⟨_, by rw [Catalogue.nodeAt_push_self], fun variant listed => ?_⟩⟩
    obtain ⟨_, _, isTemplate⟩ := partner_of_mem each.flip listed
    exact lasting_isTemplate variant _ _ isTemplate (grown _)

/-- What is noted about a value is no harm to what is known of it. -/
theorem note_furnishes {note : State → State} {value : α} {told : α → State → Prop}
    [Lasts context.Furnishes (told value)]
    (furnishes : ∀ state, told value state → context.Furnishes state (note state)) :
    Conveys context.Furnishes (told value)
      (do
        modify note
        return value)
      told := by
  -- Taking the note keeps what is told, so the value is handed back with it.
  have noted : Conveys context.Furnishes (told value) (modify note) fun _ _ => True :=
    Conveys.modify fun state _ known => ⟨furnishes state known, trivial⟩
  exact noted.past (fun _ known => known) fun _ => Conveys.pure fun _ _ known => known

/-- The parameter for the endpoint of a root is typed as declared and has such a type. -/
theorem endpointParameter_furnishes (root : ContainerId) :
    Conveys context.Furnishes context.Furnished (context.endpointParameter root)
      context.IsArgument := by
  unfold Context.endpointParameter
  refine Conveys.get_bind fun current _ furnished => ?_
  -- The endpoint was asked for before, or is made now.
  split
  · rename_i parameter known
    exact Conveys.pure fun state _ start => start.1 ▸ furnished.endpoints root parameter known
  · refine Conveys.starting ?_ fun _ _ _ => (trivial : True)
    refine (furnishes_of_keeps fun start => (GivesNothing.noting context start).stringNode).past
      (fun _ _ => trivial) fun string => ?_
    refine (Conveys.mapM _ fun server _ =>
      serverEndpoints_furnishes root string server).bind fun declared => ?_
    refine ((addEndpointType_furnishes root _).starting fun state _ each => ?_).bind fun type => ?_
    · -- Without a server the endpoint takes a whole URL.
      split
      · exact endpointsTyped_wholeUrl _ _ _
      · intro endpoint listed
        obtain ⟨found, isFound, inFound⟩ := List.mem_flatten.mp listed
        obtain ⟨_, _, typed⟩ := partner_of_mem each.flip isFound
        exact typed endpoint inFound
    · refine (note_furnishes fun state known => .addEndpoint known).starting
        fun state _ isType => ?_
      exact ⟨typed_of_origin rfl, fun _ => isType⟩

/-- The parameter for the credential of a root, if there is one, is typed as declared. -/
theorem credentialParameter?_furnishes (root : ContainerId) :
    Conveys context.Furnishes context.Furnished (context.credentialParameter? root)
      fun found state => ∀ parameter ∈ found, context.IsArgument parameter state := by
  unfold Context.credentialParameter?
  refine Conveys.get_bind fun current _ furnished => ?_
  -- Here too it was asked for before, which may have told that there is none, or is made now.
  split
  · rename_i found known
    refine Conveys.pure fun state _ start parameter isFound => ?_
    rw [Option.mem_def.mp isFound] at known
    exact start.1 ▸ furnished.credentials root parameter known
  · refine Conveys.starting ?_ fun _ _ _ => (trivial : True)
    have noted (found : Option Property) : Conveys context.Furnishes
        (fun state => ∀ parameter ∈ found, context.IsArgument parameter state)
        (do
          modify fun state => { state with credentials := state.credentials.insert root found }
          return found)
        fun found state => ∀ parameter ∈ found, context.IsArgument parameter state :=
      (note_furnishes fun _ known => .addCredential known).starting fun _ _ known => known
    dsimp only
    split
    · exact (noted none).starting fun _ _ _ => by simp
    · have made (schemes : List Service.AuthScheme) : Conveys context.Furnishes (fun _ => True)
          (addNode { kind := .credential schemes }) fun _ _ => True :=
        furnishes_of_keeps fun start => (GivesNothing.noting context start).addNode rfl rfl
      -- A credential is made up, so that there is no declaration to keep to.
      refine (made _).past (fun _ _ => trivial) fun type => (noted _).starting ?_
      rintro state _ _ parameter isParameter
      rw [← Option.some.inj isParameter]
      exact ⟨typed_of_origin rfl, fun isEndpoint => by cases isEndpoint⟩

/-! ## Clients -/

/-- A chosen parameter is typed as declared. -/
theorem customParameter_furnishes (container : ContainerId) (id : PropertyId) :
    Conveys context.Furnishes (fun _ => True) (context.customParameter container id)
      context.IsArgument := by
  unfold Context.customParameter
  refine (node_furnishes _).bind fun type => ?_
  refine (note_furnishes fun state known => .take known).starting fun state _ known => ?_
  refine ⟨typed_parameterOf known _ _ _, fun isEndpoint => ?_⟩
  -- A parameter that was chosen is asked for like one of a method.
  simp [Context.parameterOf] at isEndpoint

/-- What a client asks for and what its methods send is typed as declared. -/
structure Context.IsTypedClient (context : Context) (client : Client) (state : State) : Prop where
  parameters : ∀ parameter ∈ client.initialization.parameters, context.IsArgument parameter state
  methods : ∀ method ∈ client.methods, context.SendsTyped method state

instance Lasts.isTypedClient {leads : State → State → Prop} [Growing leads] (client : Client) :
    Lasts leads (context.IsTypedClient client) :=
  .of_lasting fun _ _ known grown =>
    ⟨fun parameter listed => lasting_isArgument parameter _ _ (known.parameters parameter listed)
      grown, fun method listed =>
        lasting_sendsTyped method _ _ (known.methods method listed) grown⟩

instance Lasts.furnished : Lasts context.Furnishes context.Furnished :=
  ⟨fun _ _ known furnishes => furnishes.furnished known⟩

/-- All parameters of a client are, if its chosen ones and those of its sub-clients are. -/
theorem initializationParameters_furnish (container : ContainerId) (children : List Client)
    (custom : List Property) :
    Conveys context.Furnishes (fun state => context.Furnished state ∧
        (∀ parameter ∈ custom, context.IsArgument parameter state) ∧
        ∀ child ∈ children, context.IsTypedClient child state)
      (context.initializationParameters container children custom)
      fun parameters state => ∀ parameter ∈ parameters, context.IsArgument parameter state := by
  unfold Context.initializationParameters
  -- Outside of any service a client is made with its chosen parameters alone.
  split
  · exact Conveys.pure fun _ _ known => known.2.1
  · rename_i root isRoot
    refine (endpointParameter_furnishes root).onward (fun _ known => known.1) fun endpoint => ?_
    refine (credentialParameter?_furnishes root).onward (fun _ known => known.1.1)
      fun credential => ?_
    -- What the client has taken is read last, right before it is made.
    refine Conveys.get_bind fun current _ _ => Conveys.pure ?_
    rintro state _ ⟨rfl, ⟨⟨furnished, chosen, below⟩, isEndpoint⟩, isCredential⟩ parameter listed
    have supplied : parameter ∈ context.suppliedParameters container children
        { endpoint, credential, custom, own := state.takenBy container } := listed
    rcases mem_suppliedParameters_cases supplied with rfl | known | known | known
    · exact isEndpoint
    · exact isCredential parameter known
    · exact chosen parameter known
    -- It was taken by the client itself, or by one below it.
    · rcases List.mem_append.mp known with own | inherited
      · exact furnished.taken container parameter own
      · obtain ⟨child, isChild, inChild⟩ := List.mem_flatMap.mp inherited
        exact (below child isChild).parameters parameter inChild

mutual

/-- A client and all that are below it are typed as declared, by induction on the tree. -/
theorem clientOf_furnishes (isRoot : Bool) (name : String) : (tree : ClientTree) →
    Conveys context.Furnishes context.Furnished (context.clientOf isRoot name tree)
      fun client state => ∀ inner ∈ client.walk, context.IsTypedClient inner state
  | .node container groups => by
    unfold Context.clientOf
    -- In the order of the derivation: initialization, custom parameters, sub-clients, methods, and
    -- at last the parameters.
    refine (furnishes_of_keeps fun start =>
      (GivesNothing.noting context start).initializationOf container isRoot).past
        (fun _ _ => trivial) fun ways => ?_
    refine (Conveys.mapM _ fun id _ => customParameter_furnishes container id).onward
      (fun _ _ => trivial) fun custom => ?_
    refine (clientsOf_furnish groups).onward (fun _ known => known.1) fun children => ?_
    refine (Conveys.filterMapM _ fun operation _ =>
      methodOrReport_furnishes container operation).onward (fun _ _ => trivial) fun methods => ?_
    refine (initializationParameters_furnish container children custom).onward ?_ fun parameters =>
      Conveys.pure ?_
    · rintro state ⟨⟨⟨furnished, chosen⟩, below⟩, _⟩
      refine ⟨furnished, fun parameter listed => ?_, fun child isChild => below child ?_⟩
      · obtain ⟨_, _, isArgument⟩ := partner_of_mem chosen.flip listed
        exact isArgument
      · exact mem_walkAll.mpr ⟨child, isChild, mem_walk_self child⟩
    · rintro state _ ⟨⟨⟨_, below⟩, served⟩, parameters⟩ inner member
      -- The client itself has just been made; what is below it was made before.
      rcases mem_walk.mp member with rfl | deeper
      · refine ⟨parameters, fun method listed => ?_⟩
        rcases List.mem_append.mp listed with own | handsOut
        · exact served method own
        · -- A method that hands out a sub-client sends nothing.
          obtain ⟨child, _, rfl⟩ := List.mem_map.mp handsOut
          intro operation isOperation
          cases isOperation
      · exact below inner deeper

/-- So are those of several trees, one after the other. -/
theorem clientsOf_furnish : (trees : List ClientTree) →
    Conveys context.Furnishes context.Furnished (context.clientsOf trees)
      fun clients state => ∀ inner ∈ Client.walkAll clients, context.IsTypedClient inner state
  | [] => by
    unfold Context.clientsOf
    exact Conveys.pure fun _ _ _ inner none => by simp [Client.walkAll] at none
  | group :: rest => by
    unfold Context.clientsOf
    refine (clientOf_furnishes false _ group).onward (fun _ start => start) fun client => ?_
    refine (clientsOf_furnish rest).onward (fun _ known => known.1) fun clients => Conveys.pure ?_
    rintro state _ ⟨⟨_, first⟩, others⟩ inner member
    -- A client is in the first tree or in a later one.
    rcases List.mem_append.mp member with own | other
    · exact first inner own
    · exact others inner other

end

/-- All clients of a run are typed as declared. -/
theorem clients_furnish : Conveys context.Furnishes context.Furnished context.clients
    fun clients state => ∀ client ∈ Client.walkAll clients, context.IsTypedClient client state := by
  unfold Context.clients
  refine (Conveys.mapM (rootClients context.definition context.choices) fun root _ =>
    clientOf_furnishes true (context.rootName root)
      (context.clientTree root.container)).bind fun clients => ?_
  -- Orphan types get nodes of their own and leave the notes alone.
  have orphans : Conveys context.Furnishes (fun _ => True) context.orphans fun _ _ => True :=
    furnishes_of_keeps fun start => by
      unfold Context.orphans
      refine Keeps.bind (Keeps.forIn _ _ fun type _ => ?_) fun _ => .pure _
      split
      · exact ((GivesNothing.noting context start).node type).bind fun _ => .pure _
      · exact .pure _
  -- Orphan types come last, and belong to no client.
  refine orphans.past (fun _ _ => trivial) fun _ => Conveys.pure fun state _ each => ?_
  intro client below
  obtain ⟨root, isRoot, within⟩ := mem_walkAll.mp below
  obtain ⟨_, _, typed⟩ := partner_of_mem each.flip isRoot
  exact typed client within

/-! ## The package -/

/-- Whatever the template of an endpoint asks for is typed as declared. -/
theorem Context.IsEndpointType.typed {type : NodeId} (isType : context.IsEndpointType type state) :
    context.EndpointsTyped (state.catalogue.templates type) state := by
  -- A template is the only one at its node.
  have single {node : NodeId} (isTemplate : context.IsTemplate node state) {endpoint : Endpoint}
      (isEndpoint : (state.catalogue.nodeAt node).endpoint? = some endpoint) :
      ∀ argument ∈ endpoint.arguments, context.Typed argument state := by
    obtain ⟨known, isKind, typed⟩ := isTemplate
    rw [Node.endpoint?, isKind] at isEndpoint
    exact Option.some.inj isEndpoint ▸ typed
  intro endpoint listed
  obtain ⟨node, isVariant, isEndpoint⟩ := List.mem_filterMap.mp listed
  -- The type is a template itself, and then no union, or else a union of templates.
  rcases isType with isTemplate | ⟨union, isUnion, variants⟩
  · have alone : (state.catalogue.nodeAt type).union? = none := by
      obtain ⟨known, isKind, _⟩ := isTemplate
      rw [Node.union?, isKind]
    rw [alone, Option.map_none, Option.getD_none, List.mem_singleton] at isVariant
    exact single (isVariant ▸ isTemplate) isEndpoint
  · rw [Node.union?, isUnion, Option.map_some, Option.getD_some] at isVariant
    exact single (variants node isVariant) isEndpoint

/-- All that the constructor of a client asks for is typed as declared. -/
theorem Context.IsTypedClient.arguments {client : Client}
    (isTyped : context.IsTypedClient client state) :
    ∀ argument ∈ client.arguments state.catalogue, context.Typed argument state := by
  -- An argument is a parameter of the client or stands in a template of its endpoint.
  intro argument listed
  rcases List.mem_append.mp listed with isParameter | inTemplate
  · exact (isTyped.parameters argument isParameter).typed
  · obtain ⟨parameter, isEndpoint, inTemplate⟩ := List.mem_flatMap.mp inTemplate
    obtain ⟨isParameter, role⟩ := List.mem_filter.mp isEndpoint
    obtain ⟨endpoint, isTemplate, inArguments⟩ := List.mem_flatMap.mp inTemplate
    have isArgument := isTyped.parameters parameter isParameter
    exact (isArgument.endpoint (beq_iff_eq.mp role)).typed endpoint isTemplate argument inArguments

/-- What a method sends is in its signature. -/
theorem mem_signature_of_sent {method : Method} {operation : HttpOperation} {wire : WireParameter}
    (isOperation : operation ∈ method.operation?) (sent : wire ∈ operation.parameters) :
    wire.property.type ∈ method.signature := by
  -- The signature lists what goes by the wire before the body and the responses.
  refine List.mem_append_right _ (List.mem_append_left _ ?_)
  rw [Option.mem_def.mp isOperation, Option.map_some, Option.getD_some]
  refine List.mem_append_left _ (List.mem_map_of_mem ?_)
  exact List.mem_append_left _ sent

/--
Whatever model, enum or named union the constructor of a client leads to is listed by the package,
if a method that is wanted on typed values deals with the declared type of the argument.

This covers the parameters that a client takes over from the requests of its methods, those that
were chosen for it, and the arguments of the templates of its endpoint.
-/
theorem constructor_types_are_listed {definition : Definition} {options : Options}
    {package : Package} (derived : derivePackage definition options = .ok package) :
    ∀ client ∈ Client.walkAll package.clients, ∀ argument ∈ client.arguments package.catalogue,
      ∀ id ∈ argument.origin, package.Uses definition (definition.declaredType id) →
        ∀ type, ReflTransGen (package.catalogue.Leads options.sparesBase) argument.type type →
          package.Lists type := by
  obtain ⟨clients, run, rfl⟩ := derivePackage_ok derived
  obtain ⟨_, consistent, _⟩ := run_consistent run
  have cores : SameCores (finalState definition options).catalogue
      ((finalState definition options).package (Context.of definition options) clients).catalogue :=
    sameCores_spread
  have typed := ((clients_furnish {} trivial).ok ⟨rfl, .start⟩ run).2
  intro client below argument isArgument id isOrigin uses type leads
  obtain ⟨other, isClient, method, isMethod, wanted, deals⟩ := uses
  -- The argument has the one node of its declared type.
  have known : Remembered (definition.declaredType id) argument.type
      (finalState definition options) := by
    refine (typed client below).arguments argument ?_ id isOrigin
    simpa only [Client.arguments, cores.templates] using isArgument
  -- The method has the same node in its signature, for it has the same declaration.
  have inSignature : argument.type ∈ method.signature := by
    rcases deals with ⟨operation, isOperation, wire, sent, sentId, isSent, same⟩ |
      ⟨node, inSignature, isNode⟩
    · have onWire := (typed other isClient).methods method isMethod operation isOperation wire sent
        sentId isSent
      rw [show (Context.of definition options).definition.declaredType sentId =
        definition.declaredType id from same] at onWire
      rw [Option.some.inj (known.symm.trans onWire)]
      exact mem_signature_of_sent isOperation sent
    · rw [cores.origin] at isNode
      have registered := consistent.orderly.registered _ node isNode
      rw [Option.some.inj (known.symm.trans registered)]
      exact inSignature
  have covered := telling_covered.clients.ok trivial run other isClient method isMethod wanted
  have keeps : (finalState definition options).KeepsBuiltins :=
    ((State.KeepsBuiltins.robust _).stable.clients fun _ _ _ _ => trivial).ok .start run
  exact lists_of_covers keeps (covered _ inSignature) leads

/-- A service whose version is an enum, sent with every request and given to its client. -/
def almanac : Definition where
  types := #[{ shape := .enumeration { name := "Edition", members := [⟨1⟩] } },
    { shape := .member { name := "First", parent := ⟨0⟩ } }]
  properties := #[{ name := "apiVersion", type := ⟨0⟩ }]
  operations := #[
    { name := "tides", container := ⟨0⟩, verb := .get, path := "/tides"
      slots := [⟨⟨0⟩, some .query⟩] }]
  containers := #[
    { name := "Almanac", operations := [⟨0⟩], service := some { apiVersions := ["1"] } }]

/-- In the almanac the version is asked for by a constructor, sent, and listed with its values. -/
theorem constructor_types_are_listed_almanac :
    ∃ package, derivePackage almanac {} = .ok package ∧
      (∃ client ∈ Client.walkAll package.clients, ∃ argument ∈ client.arguments package.catalogue,
        ∃ id ∈ argument.origin, package.Uses almanac (almanac.declaredType id)) ∧
      ∀ client ∈ Client.walkAll package.clients, ∀ argument ∈ client.arguments package.catalogue,
        ∀ id ∈ argument.origin, package.Uses almanac (almanac.declaredType id) →
          ∀ type, ReflTransGen (package.catalogue.Leads false) argument.type type →
            package.Lists type := by
  -- The run is evaluated to see that the version is asked for and sent.
  have asks : (match derivePackage almanac {} with
      | .ok package => (Client.walkAll package.clients).any fun client =>
        (client.initialization.parameters.any (·.origin == some ⟨0⟩)) &&
          client.methods.any fun method => method.isConvenient &&
            method.operation?.any fun operation =>
              operation.parameters.any (·.property.origin == some ⟨0⟩)
      | .error _ => false) = true := by
    decide +kernel
  -- What the run shows is the condition of the statement; the theorem gives the rest.
  cases derived : derivePackage almanac {} with
  | error failure => simp [derived] at asks
  | ok package =>
    rw [derived] at asks
    simp only [List.any_eq_true, Bool.and_eq_true, beq_iff_eq, Option.any_eq_true] at asks
    obtain ⟨client, below, ⟨argument, listed, isOrigin⟩, method, isMethod, wanted, operation,
      isOperation, wire, sent, isSent⟩ := asks
    refine ⟨package, rfl, ⟨client, below, argument, List.mem_append_left _ listed, ⟨0⟩, isOrigin,
      client, below, method, isMethod, wanted, Or.inl ⟨operation, isOperation, wire, sent, ⟨0⟩,
        isSent, rfl⟩⟩, constructor_types_are_listed derived⟩

/-- A service whose URL depends on a region, which no method sends or hands back. -/
def observatory : Definition where
  types := #[{ shape := .enumeration { name := "Region", members := [⟨1⟩] } },
    { shape := .member { name := "North", parent := ⟨0⟩ } }]
  properties := #[{ name := "region", type := ⟨0⟩ }]
  operations := #[{ name := "ping", container := ⟨0⟩, verb := .get, path := "/ping" }]
  containers := #[
    { name := "Observatory", operations := [⟨0⟩]
      service := some
        { servers := [{ url := "https://\x7bregion\x7d.sky", arguments := [⟨0⟩] }] } }]

/-- What only a constructor asks for is not listed, for it takes a method to note usage. -/
theorem constructor_types_may_be_missing :
    ¬ ∀ (definition : Definition) (options : Options) (package : Package),
        derivePackage definition options = .ok package → options.sparesBase = false →
      ∀ client ∈ Client.walkAll package.clients, ∀ argument ∈ client.arguments package.catalogue,
        ∀ type, ReflTransGen (package.catalogue.Leads false) argument.type type →
          ((package.catalogue.nodeAt type).model?.isSome → type ∈ package.models) ∧
            ((package.catalogue.nodeAt type).enumeration?.isSome → type ∈ package.enums) := by
  intro lists
  -- The observatory has a client that asks for an enum, and a package that lists none.
  have missing : (match derivePackage observatory {} with
      | .ok package => (Client.walkAll package.clients).any fun client =>
        (client.arguments package.catalogue).any fun argument =>
          (package.catalogue.nodeAt argument.type).enumeration?.isSome && package.enums.isEmpty
      | .error _ => false) = true := by
    decide +kernel
  cases derived : derivePackage observatory {} with
  | error failure => simp [derived] at missing
  | ok package =>
    rw [derived] at missing
    simp only [List.any_eq_true, Bool.and_eq_true, List.isEmpty_iff] at missing
    obtain ⟨client, below, argument, isArgument, isEnum, none⟩ := missing
    have listed := (lists _ _ package derived rfl client below argument isArgument _ .refl).2 isEnum
    rw [none] at listed
    cases listed

end Derivation

end ClientModel
