import ClientModel.Proofs.Arrangement
import ClientModel.Proofs.Operations
import ClientModel.Proofs.Services

/-!
What clients are made with, and that all they name is there.

Sub-clients are derived before the methods of their parent, and the parameters of a client are put
together last, from what it has taken by then and from what its sub-clients are made with.
-/

namespace ClientModel

/-- The nodes that a client names itself: in its parameters and in its methods. -/
def Client.nodeIds (client : Client) : List NodeId :=
  client.initialization.parameters.flatMap Property.nodeIds ++ client.methods.flatMap Method.nodeIds

namespace Derivation

open Service (Definition)

variable {context : Context} {state : State}

/-! ## Clients -/

/-- What the parameters of a client of a service are put together from. -/
structure Supplies where
  endpoint : Property
  credential : Option Property
  /-- The parameters that were chosen for the client. -/
  custom : List Property
  /-- The parameters that the client had taken when it was made. -/
  own : List Property

namespace Context

variable (context : Context)

/-- The parameter for the version that a client takes over from its own or its sub-clients. -/
def versionOf (own : List Property) (children : List Client) : Option Property :=
  (own ++ children.flatMap fun child => child.initialization.parameters).find? (·.isApiVersion)

/-- The parameter for a subscription that a client takes over from its own or its sub-clients. -/
def subscriptionOf (container : ContainerId) (own : List Property) (children : List Client) :
    Option Property :=
  if context.isResourceManaged container then
    (own ++ children.flatMap fun child => child.initialization.parameters).find?
      (isSubscriptionName ·.name)
  else none

/-- The parameters that a client of a service is made with. -/
def suppliedParameters (container : ContainerId) (children : List Client) (supplies : Supplies) :
    List Property :=
  withOthers ([supplies.endpoint] ++ supplies.credential.toList ++
      (versionOf supplies.own children).toList ++
      (context.subscriptionOf container supplies.own children).toList)
    (supplies.custom ++ supplies.own)

/-- A client of a service was made with some supplies. -/
structure IsSuppliedWith (state : State) (root : ContainerId) (client : Client)
    (supplies : Supplies) :
    Prop where
  endpoint : state.endpoints.get? root = some supplies.endpoint
  credential : state.credentials.get? root = some supplies.credential
  own : supplies.own ⊆ state.takenBy client.origin
  single : context.chosenFor client.origin = [] →
    (supplies.own.filter Property.isApiVersion).length ≤ 1
  custom : List.Forall₂ (fun id parameter => parameter.origin = some id)
    (context.chosenFor client.origin) supplies.custom
  chosen : supplies.custom ⊆ supplies.own
  parameters : client.initialization.parameters =
    context.suppliedParameters client.origin client.children supplies

/-- A client was made with parameters that are admitted, and all that it names is there. -/
structure IsMade (state : State) (client : Client) : Prop where
  parameters : AdmitsAll context state.catalogue client.initialization.parameters
  methods : state.catalogue.Holds (client.methods.flatMap Method.nodeIds)
  supplied : ∀ root ∈ context.definition.serviceRoot? client.origin,
    ∃ supplies, context.IsSuppliedWith state root client supplies

end Context

/-- All nodes that a client names are in range. -/
theorem Context.IsMade.names {client : Client} (made : context.IsMade state client) :
    state.catalogue.Holds client.nodeIds :=
  made.parameters.names.append made.methods

instance Lasts.isSupplied (root : ContainerId) (client : Client) (supplies : Supplies) :
    Lasts (Advances context) fun state => context.IsSuppliedWith state root client supplies :=
  ⟨fun _ _ supplied advances =>
    -- Endpoint and credential are noted once, and nothing that was taken is given back.
    { endpoint := advances.endpoints _ _ supplied.endpoint
      credential := advances.credentials _ _ supplied.credential
      own := List.Subset.trans supplied.own (advances.grown.parameters client.origin)
      single := supplied.single
      custom := supplied.custom
      chosen := supplied.chosen
      parameters := supplied.parameters }⟩

instance Lasts.isMade (client : Client) :
    Lasts (Advances context) fun state => context.IsMade state client :=
  ⟨fun before after made advances =>
    { parameters := made.parameters.mono advances.grown.size
      methods := made.methods.mono advances.grown.size
      supplied := fun root isRoot =>
        have ⟨supplies, supplied⟩ := made.supplied root isRoot
        ⟨supplies, (Lasts.isSupplied root client supplies).lasts before after supplied advances⟩ }⟩

/-! ## Parts of clients -/

/-- To find out how a client is initialized takes nothing but a report. -/
theorem initializationOf_conveys (container : ContainerId) (isRoot : Bool) :
    Conveys (Advances context) (fun _ => True) (context.initializationOf container isRoot)
      fun _ _ => True := by
  -- A way of initialization that does not fit is reported, and another is used.
  have reported {message : String} (ways : Initialization) :
      Conveys (Advances context) (fun _ => True)
        (do
          reportError (.container container) Code.invalidInitialization message
          return ways)
        fun _ _ => True :=
    Conveys.past (report_conveys
      (by simp [Code.invalidInitialization, Code.discriminatorNotConstant])) (fun _ _ => trivial)
      fun _ => Conveys.pure fun _ _ _ => trivial
  -- What is chosen is taken if it fits the client, which depends on whether it is a root.
  unfold Context.initializationOf
  dsimp only
  split
  · exact Conveys.pure fun _ _ _ => trivial
  · exact Conveys.pure fun _ _ _ => trivial
  · split
    · exact Conveys.pure fun _ _ _ => trivial
    · exact reported _
  · split
    · exact Conveys.pure fun _ _ _ => trivial
    · exact reported _

/-- The facts of a client leave the origin of a parameter alone. -/
@[simp] theorem origin_withClientFacts (client : ContainerId) (parameter : Property) :
    (context.withClientFacts client parameter).origin = parameter.origin := by
  -- Client names and marks are put beside the origin.
  obtain ⟨_, _, _, _, same⟩ := @Context.withClientFacts_eq context client parameter
  rw [same]

/-- A parameter that was chosen for a client, and that it has taken. -/
def IsChosen (context : Context) (container : ContainerId) (id : PropertyId) (parameter : Property)
    (state : State) : Prop :=
  Admits context state.catalogue parameter ∧ parameter.origin = some id ∧
    parameter ∈ state.takenBy container

instance (container : ContainerId) (id : PropertyId) (parameter : Property) :
    Lasts (Advances context) (IsChosen context container id parameter) :=
  ⟨fun _ _ chosen advances => ⟨chosen.1.mono advances.grown.size, chosen.2.1,
    advances.grown.parameters container parameter chosen.2.2⟩⟩

/-- A chosen parameter is made from the property that was chosen. -/
theorem customParameter_conveys {container : ContainerId} {id : PropertyId}
    (chosen : id ∈ context.chosenFor container) :
    Conveys (Advances context) (fun _ => True) (context.customParameter container id)
      (IsChosen context container id) := by
  unfold Context.customParameter
  refine (node_conveys _).onward (fun _ start => start) fun type => ?_
  -- It is taken whatever the client has taken before.
  have taken (parameter : Property) : Conveys (Advances context)
      (fun state => Admits context state.catalogue parameter ∧ parameter.origin = some id)
      (do
        addClientParameter container parameter
        return parameter)
      (IsChosen context container id) := by
    -- A second version is no trouble here, for the client has parameters chosen for it.
    have takes : Conveys (Advances context)
        (fun state => Admits context state.catalogue parameter ∧ parameter.origin = some id)
        (addClientParameter container parameter)
        fun _ => IsChosen context container id parameter :=
      Conveys.modify fun state _ known =>
        ⟨Advances.take known.1 fun none => absurd chosen (by simp [none]), known.1, known.2, by
          rw [State.takenBy_alter, if_pos rfl]
          exact List.mem_append_right _ (List.mem_singleton_self _)⟩
    exact takes.bind fun _ => Conveys.pure fun _ _ known => known
  refine (taken _).starting fun state _ known => ⟨?_, ?_⟩
  · have declared := @admits_parameterOf context _ type known.2 id .method
      (context.definition.fullName container) container
    exact ⟨declared.names, declared.declared, declared.version⟩
  · exact origin_withClientFacts container _

/-- So it is with all chosen parameters of a container. -/
theorem customParameters_convey (container : ContainerId) :
    Conveys (Advances context) (fun _ => True)
      ((context.chosenFor container).mapM (context.customParameter container))
      fun custom state => List.Forall₂ (fun id parameter => IsChosen context container id parameter
        state) (context.chosenFor container) custom :=
  Conveys.mapM (context.chosenFor container) fun _ chosen => customParameter_conveys chosen

/-! ## Methods -/

/-- A failure is never reported as that of a subtype without a text. -/
theorem code_ne_discriminatorNotConstant (failure : Failure) :
    failure.code ≠ Code.discriminatorNotConstant := by
  -- Each kind of failure has a code of its own.
  cases failure <;> simp [Failure.code, Code.unexpectedParameterKind, Code.spreadNotResolved,
    Code.noCorrespondingParameter, Code.multipleBodyTypes, Code.brokenInvariant,
    Code.discriminatorNotConstant]

/--
What is told of every method that is derived where all is consistent, and of the methods that hand
out sub-clients, and is not broken later on.
-/
structure Conveying (context : Context) (told : ContainerId → Method → State → Prop) : Prop where
  lasts : ∀ container method, Lasts (Advances context) (told container method)
  method : ∀ container operation, Conveys (Advances context) (fun _ => True)
    (context.method operation container) (told container)
  accessor : ∀ container crossId apiVersions child state,
    told container (Context.accessor crossId apiVersions child) state

namespace Conveying

variable {told told' : ContainerId → Method → State → Prop}

/-- What the methods name is there; those that hand out sub-clients name no nodes. -/
theorem holds : Conveying context fun _ method state => state.catalogue.Holds method.nodeIds where
  lasts _ _ := inferInstance
  method container operation := method_conveys operation container
  accessor _ _ _ _ _ := List.forall_mem_nil _

/-- What two accounts tell of methods they tell together. -/
theorem and (first : Conveying context told) (second : Conveying context told') :
    Conveying context fun container method state =>
      told container method state ∧ told' container method state where
  lasts container method :=
    have := first.lasts container method
    have := second.lasts container method
    inferInstance
  -- A method is told of twice, each time by its own account, and an accessor likewise.
  method container operation := (first.method container operation).both
    (second.method container operation)
  accessor container crossId apiVersions child state :=
    ⟨first.accessor container crossId apiVersions child state,
      second.accessor container crossId apiVersions child state⟩

/-- What is told of each method is told of those of a container. -/
theorem methodsOf (conveying : Conveying context told) (container : ContainerId)
    (operations : List OperationId) :
    Conveys (Advances context) (fun _ => True) (context.methodsOf container operations)
      fun methods state => ∀ method ∈ methods, told container method state := by
  have := conveying.lasts container
  -- A method that is left out is reported, under a code that tells nothing of discriminators.
  have reports (state : State) (failure : Failure) : Advances context state
      { state with diagnostics := state.diagnostics.add failure.diagnostic } :=
    .derive (Derived.report
      (by simpa [Failure.diagnostic] using code_ne_discriminatorNotConstant failure))
  exact Conveys.filterMapM operations fun operation _ =>
    (conveying.method container operation).methodOrReport reports

/-- A client has methods for its operations, and others that hand out its sub-clients. -/
theorem withAccessors (conveying : Conveying context told) {container : ContainerId} {state : State}
    (methods : List Method) (known : ∀ method ∈ methods, told container method state)
    (children : List Client) (crossId : String) (apiVersions : List String) :
    ∀ method ∈ methods ++ children.map (Context.accessor crossId apiVersions),
      told container method state := by
  -- Those that hand out a sub-client are no methods of operations.
  intro method listed
  rcases List.mem_append.mp listed with served | handsOut
  · exact known method served
  · obtain ⟨child, _, rfl⟩ := List.mem_map.mp handsOut
    exact conveying.accessor container crossId apiVersions child state

end Conveying

/-! ## Parameters of clients -/

/-- What a list of parameters is extended by is one of the others. -/
theorem mem_of_mem_withOthers {parameters others : List Property} {parameter : Property}
    (listed : parameter ∈ Context.withOthers parameters others) :
    parameter ∈ parameters ∨ parameter ∈ others := by
  unfold Context.withOthers at listed
  -- By induction on the others, each of which is added or left out.
  induction others generalizing parameters with
  | nil => exact Or.inl listed
  | cons other rest ih =>
    rw [List.foldl_cons] at listed
    rcases ih listed with early | late
    · split at early
      · exact Or.inl early
      · rcases List.mem_append.mp early with old | new
        · exact Or.inl old
        · exact Or.inr (List.mem_singleton.mp new ▸ List.mem_cons_self)
    · exact Or.inr (List.mem_cons_of_mem _ late)

/-- A subscription is taken over by clients of managed resources alone, and has the name of one. -/
theorem mem_subscriptionOf {container : ContainerId} {own : List Property}
    {children : List Client} {parameter : Property}
    (found : parameter ∈ context.subscriptionOf container own children) :
    context.isResourceManaged container = true ∧
      parameter ∈ own ++ children.flatMap (fun child => child.initialization.parameters) ∧
      isSubscriptionName parameter.name = true := by
  unfold Context.subscriptionOf at found
  -- Only clients that are managed as resources take a subscription over.
  split at found
  · rename_i managed
    have named := List.find?_some (show List.find? _ _ = some parameter from found)
    exact ⟨managed, List.mem_of_find?_eq_some found, named⟩
  · cases found

/-- What a client of a service is made with are its supplies, or what a sub-client is made with. -/
theorem mem_suppliedParameters_cases {container : ContainerId} {children : List Client}
    {supplies : Supplies} {parameter : Property}
    (listed : parameter ∈ context.suppliedParameters container children supplies) :
    parameter = supplies.endpoint ∨ parameter ∈ supplies.credential ∨
      parameter ∈ supplies.custom ∨
      parameter ∈ supplies.own ++
        children.flatMap fun child => child.initialization.parameters := by
  -- By the part of the list in which it stands.
  rcases mem_of_mem_withOthers listed with front | other
  · simp only [List.mem_append, List.mem_singleton, Option.mem_toList] at front
    rcases front with ((isEndpoint | isCredential) | isVersion) | isSubscription
    · exact Or.inl isEndpoint
    · exact Or.inr (Or.inl isCredential)
    · exact Or.inr (Or.inr (Or.inr (List.mem_of_find?_eq_some isVersion)))
    · exact Or.inr (Or.inr (Or.inr (mem_subscriptionOf isSubscription).2.1))
  · rcases List.mem_append.mp other with isCustom | isOwn
    · exact Or.inr (Or.inr (Or.inl isCustom))
    · exact Or.inr (Or.inr (Or.inr (List.mem_append_left _ isOwn)))

/-- What a client of a service is made with is admitted as far as its supplies are. -/
theorem admitsAll_suppliedParameters {catalogue : Catalogue} {container : ContainerId}
    {children : List Client} {supplies : Supplies}
    (endpoint : Admits context catalogue supplies.endpoint)
    (credential : AdmitsAll context catalogue supplies.credential.toList)
    (custom : AdmitsAll context catalogue supplies.custom)
    (own : AdmitsAll context catalogue supplies.own)
    (below : ∀ child ∈ children, AdmitsAll context catalogue child.initialization.parameters) :
    AdmitsAll context catalogue (context.suppliedParameters container children supplies) := by
  -- What was taken over comes from the client itself or from a sub-client.
  have known : AdmitsAll context catalogue
      (supplies.own ++ children.flatMap fun child => child.initialization.parameters) := by
    refine own.append fun parameter listed => ?_
    obtain ⟨child, isChild, inChild⟩ := List.mem_flatMap.mp listed
    exact below child isChild parameter inChild
  intro parameter listed
  rcases mem_suppliedParameters_cases listed with rfl | isCredential | isCustom | isKnown
  · exact endpoint
  · exact credential parameter (Option.mem_toList.mpr isCredential)
  · exact custom parameter isCustom
  · exact known parameter isKnown

/-- A client of a service is made with its supplies, and any other with its chosen parameters. -/
theorem initializationParameters_convey (container : ContainerId) (children : List Client)
    (custom : List Property) :
    Conveys (Advances context) (fun state => AdmitsAll context state.catalogue custom ∧
        ∀ child ∈ children, AdmitsAll context state.catalogue child.initialization.parameters)
      (context.initializationParameters container children custom)
      fun parameters state => AdmitsAll context state.catalogue parameters ∧
        ∀ root ∈ context.definition.serviceRoot? container, ∃ endpoint credential own,
          state.endpoints.get? root = some endpoint ∧
          state.credentials.get? root = some credential ∧ own = state.takenBy container ∧
          parameters = context.suppliedParameters container children
            { endpoint, credential, custom, own } := by
  unfold Context.initializationParameters
  -- Outside of any service a client is made with its chosen parameters alone.
  split
  · rename_i outside
    refine Conveys.pure fun state _ known => ⟨known.1, fun root isRoot => ?_⟩
    rw [outside] at isRoot
    cases isRoot
  · rename_i root isRoot
    refine (endpointParameter_conveys root).onward (fun _ _ => trivial) fun endpoint => ?_
    refine (credentialParameter?_conveys root).onward (fun _ _ => trivial) fun credential => ?_
    -- What the client has taken is read last, right before it is made.
    refine Conveys.get_bind fun current consistent known => Conveys.pure ?_
    rintro state _ ⟨rfl, ⟨⟨chosen, below⟩, isEndpoint⟩, isCredential⟩
    have admits := @admitsAll_suppliedParameters context state.catalogue container children
      { endpoint, credential, custom, own := state.takenBy container }
      (consistent.endpoints _ _ isEndpoint).admits
      (fun parameter listed => (consistent.credentials _ _ isCredential).admits parameter
        (Option.mem_toList.mp listed)) chosen (consistent.taken container) below
    refine ⟨admits, fun other isOther => ?_⟩
    rw [isRoot] at isOther
    cases isOther
    exact ⟨endpoint, credential, _, isEndpoint, isCredential, rfl, rfl⟩

/-! ## Trees -/

variable {told : ContainerId → Method → State → Prop}

mutual

/-- Of a client it is told what it is made with, and of its methods what is told of each. -/
theorem clientOf_convey (conveying : Conveying context told) (isRoot : Bool) (name : String) :
    (tree : ClientTree) →
    Conveys (Advances context) (fun _ => True) (context.clientOf isRoot name tree)
      fun client state => ∀ inner ∈ client.walk, context.IsMade state inner ∧
        ∀ method ∈ inner.methods, told inner.origin method state
  | .node container groups => by
    have both := Conveying.holds.and conveying
    have := conveying.lasts
    have := both.lasts container
    unfold Context.clientOf
    -- Chosen parameters first, then sub-clients, then methods, then what the client is made with.
    refine (initializationOf_conveys container isRoot).past (fun _ start => start) fun ways => ?_
    refine (customParameters_convey container).onward (fun _ _ => trivial) fun custom => ?_
    refine (clientsOf_convey conveying groups).onward (fun _ _ => trivial) fun children => ?_
    refine (both.methodsOf container _).onward (fun _ _ => trivial) fun methods => ?_
    refine (initializationParameters_convey container children custom).onward ?_ fun parameters =>
      Conveys.pure ?_
    · rintro state ⟨⟨⟨_, chosen⟩, below⟩, _⟩
      refine ⟨fun parameter listed => ?_, fun child isChild => (below child ?_).1.parameters⟩
      · obtain ⟨_, _, isChosen⟩ := partner_of_mem chosen.flip listed
        exact isChosen.1
      · exact mem_walkAll.mpr ⟨child, isChild, mem_walk_self child⟩
    · rintro state consistent ⟨⟨⟨⟨_, chosen⟩, below⟩, known⟩, admits, supplied⟩ inner member
      -- The client itself has just been made; what is below it was made before.
      rcases mem_walk.mp member with rfl | deeper
      · have each := both.withAccessors methods known
        refine ⟨⟨admits, Catalogue.holds_flatMap fun method listed => (each _ _ _ method listed).1,
          fun root isRoot => ?_⟩, fun method listed => (each _ _ _ method listed).2⟩
        obtain ⟨endpoint, credential, own, isEndpoint, isCredential, rfl, same⟩ :=
          supplied root isRoot
        refine ⟨{ endpoint, credential, custom, own := state.takenBy container }, isEndpoint,
          isCredential, List.Subset.refl _, consistent.single container,
          chosen.imp fun _ _ isChosen => isChosen.2.1, fun parameter listed => ?_, same⟩
        obtain ⟨_, _, isChosen⟩ := partner_of_mem chosen.flip listed
        exact isChosen.2.2
      · exact below inner deeper

/-- So it is with clients one after the other. -/
theorem clientsOf_convey (conveying : Conveying context told) : (trees : List ClientTree) →
    Conveys (Advances context) (fun _ => True) (context.clientsOf trees)
      fun clients state => ∀ inner ∈ Client.walkAll clients, context.IsMade state inner ∧
        ∀ method ∈ inner.methods, told inner.origin method state
  | [] => by
    unfold Context.clientsOf
    exact Conveys.pure fun _ _ _ inner none => by simp [Client.walkAll] at none
  | group :: rest => by
    have := conveying.lasts
    unfold Context.clientsOf
    refine (clientOf_convey conveying false _ group).onward (fun _ start => start) fun client => ?_
    refine (clientsOf_convey conveying rest).onward (fun _ _ => trivial) fun clients =>
      Conveys.pure ?_
    rintro state _ ⟨⟨_, first⟩, others⟩ inner member
    -- A client is in the first tree or in a later one.
    rcases List.mem_append.mp member with own | other
    · exact first inner own
    · exact others inner other

end

/-- All clients of a run are made with what they need, and what they name is there in the end. -/
theorem clients_convey (conveying : Conveying context told) :
    Conveys (Advances context) (fun _ => True) context.clients
      fun clients state => ∀ client ∈ Client.walkAll clients, context.IsMade state client ∧
        ∀ method ∈ client.methods, told client.origin method state := by
  have := conveying.lasts
  unfold Context.clients
  have roots := Conveys.mapM (rootClients context.definition context.choices) fun root _ =>
    clientOf_convey conveying true (context.rootName root) (context.clientTree root.container)
  -- Each client is below some root.
  have all := roots.ending fun clients state _ each => (fun client below => by
    obtain ⟨root, isRoot, within⟩ := mem_walkAll.mp below
    obtain ⟨_, _, made⟩ := partner_of_mem each.flip isRoot
    exact made client within :
      ∀ client ∈ Client.walkAll clients, context.IsMade state client ∧
        ∀ method ∈ client.methods, told client.origin method state)
  refine all.onward (fun _ start => start) fun clients => ?_
  -- Orphan types come last, and belong to no client.
  have orphans : Conveys (Advances context) (fun _ => True) context.orphans fun _ _ => True := by
    unfold Context.orphans
    refine Conveys.bind (Conveys.forIn _ (fun type _ _ => ?_) _) fun _ =>
      Conveys.pure fun _ _ _ => trivial
    split
    · exact (node_conveys type).bind fun _ => Conveys.pure fun _ _ _ => trivial
    · exact Conveys.pure fun _ _ _ => trivial
  exact orphans.past (fun _ _ => trivial) fun _ => Conveys.pure fun _ _ known => known.2

/-- What is conveyed of methods is told of all methods at the end of a run. -/
theorem Conveying.run {definition : Service.Definition} {options : Options} {clients : List Client}
    (conveying : Conveying (Context.of definition options) told)
    (run : (Context.of definition options).clients.run {} =
      (.ok clients, finalState definition options)) :
    ∀ client ∈ Client.walkAll clients, ∀ method ∈ client.methods,
      told client.origin method (finalState definition options) := by
  -- The run starts from nothing, where all is consistent, and ends in the state that is asked
  -- about.
  obtain ⟨_, made⟩ := (clients_convey conveying {} Consistent.start).ok ⟨rfl, trivial⟩ run
  exact fun client below => (made client below).2

/-- What is known at the end of a run that comes to a package. -/
theorem run_consistent {definition : Service.Definition} {options : Options} {clients : List Client}
    (run : (Context.of definition options).clients.run {} =
      (.ok clients, finalState definition options)) :
    Advances (Context.of definition options) {} (finalState definition options) ∧
      Consistent (Context.of definition options) (finalState definition options) ∧
      ∀ client ∈ Client.walkAll clients,
        (Context.of definition options).IsMade (finalState definition options) client := by
  -- That nodes are in range is conveyed of methods like anything else that lasts.
  obtain ⟨advances, made⟩ :=
    (clients_convey Conveying.holds {} Consistent.start).ok ⟨rfl, trivial⟩ run
  exact ⟨advances, advances.consistent Consistent.start, fun client below => (made client below).1⟩

end Derivation

end ClientModel
