import Mathlib.Data.List.Perm.Subperm
import ClientModel.Proofs.Made

/-!
The parameters that clients of a service are made with, and the order that they come in.

The endpoint comes first, and last whatever methods gave to the client. A client takes over the
version that any of its sub-clients needs, so that it is handed up from level to level.
-/

namespace ClientModel

/-- A client is made with a parameter for the version of its service. -/
def Client.TakesVersion (client : Client) : Prop :=
  ∃ parameter ∈ client.initialization.parameters, parameter.isApiVersion = true

/-- A client is made with a parameter for a subscription. -/
def Client.TakesSubscription (client : Client) : Prop :=
  ∃ parameter ∈ client.initialization.parameters,
    Derivation.isSubscriptionName parameter.name = true

namespace Derivation

open Service (Definition)

variable {context : Context} {state : State}

/-! ## Names -/

/-- An endpoint does not have the name of a version. -/
theorem isVersionName_endpoint : isVersionName endpointName = false := by decide +kernel

/-- Nor does a credential. -/
theorem isVersionName_credential : isVersionName "credential" = false := by decide +kernel

/-- An endpoint does not have the name of a subscription. -/
theorem isSubscriptionName_endpoint : isSubscriptionName endpointName = false := by decide +kernel

/-- Nor does a credential. -/
theorem isSubscriptionName_credential : isSubscriptionName "credential" = false := by
  decide +kernel

/-- The name of a subscription is not that of a version, however its letters are written. -/
theorem isVersionName_of_isSubscriptionName {name : String}
    (isSubscription : isSubscriptionName name = true) : isVersionName name = false := by
  -- Names are compared by their letters in lower case.
  have folded : Text.asciiLower name.toList = Text.asciiLower "subscriptionId".toList := by
    simpa [isSubscriptionName, Text.sameIgnoringCase] using isSubscription
  rw [isVersionName, folded]
  decide +kernel

/-! ## Lists without repeated names -/

/-- A list is extended by some of the others, in order, none of which has a name that is there. -/
theorem exists_append_withOthers (parameters others : List Property) :
    ∃ added, Context.withOthers parameters others = parameters ++ added ∧ added.Sublist others ∧
      ∀ parameter ∈ added, parameter.name ∉ parameters.map Property.name := by
  unfold Context.withOthers
  -- By induction on the others; what was added before counts as being there.
  induction others generalizing parameters with
  | nil => exact ⟨[], by simp⟩
  | cons other rest ih =>
    rw [List.foldl_cons]
    -- If a parameter of its name is there, it is left out; otherwise it is added.
    split
    · obtain ⟨added, same, sublist, new⟩ := ih parameters
      exact ⟨added, same, sublist.cons other, new⟩
    · rename_i missing
      obtain ⟨added, same, sublist, new⟩ := ih (parameters ++ [other])
      refine ⟨other :: added, by rw [same, List.append_assoc]; rfl, sublist.cons_cons other, ?_⟩
      intro parameter listed
      rcases List.mem_cons.mp listed with rfl | later
      · simpa using missing
      · exact fun there => new parameter later (by
          rw [List.map_append]
          exact List.mem_append_left _ there)

/-- No name is repeated by what a list is extended with. -/
theorem nodup_withOthers {parameters : List Property} (once : (parameters.map Property.name).Nodup)
    (others : List Property) :
    ((Context.withOthers parameters others).map Property.name).Nodup := by
  unfold Context.withOthers
  -- By induction on the others, only those with a new name being added.
  induction others generalizing parameters with
  | nil => exact once
  | cons other rest ih =>
    rw [List.foldl_cons]
    split
    · exact ih once
    · rename_i missing
      refine ih ?_
      rw [List.map_append]
      refine once.append (by simp) ?_
      simpa [List.disjoint_singleton] using missing

/-- To add two lists of others is to add one after the other. -/
theorem withOthers_append (parameters others more : List Property) :
    Context.withOthers parameters (others ++ more) =
      Context.withOthers (Context.withOthers parameters others) more :=
  List.foldl_append ..

/-- A list with at most one entry has no two different ones. -/
theorem eq_of_mem_of_length_le_one {α : Type} {entries : List α} (single : entries.length ≤ 1)
    {left right : α} (hasLeft : left ∈ entries) (hasRight : right ∈ entries) : left = right := by
  -- There is no entry, or one, or too many.
  match entries with
  | [only] => rw [List.mem_singleton.mp hasLeft, List.mem_singleton.mp hasRight]
  | _ :: _ :: _ => simp at single

/-! ## Sections -/

/-- The parameters that a client of a service is made with, sorted by what they are for. -/
structure Sections where
  endpoint : Property
  credential : Option Property
  version : Option Property
  subscription : Option Property
  /-- The parameters that were chosen for the client. -/
  custom : List Property
  /-- What else the methods of the client gave to it. -/
  elevated : List Property

/-- The parameters of all sections, in order. -/
def Sections.all (sections : Sections) : List Property :=
  sections.endpoint :: (sections.credential.toList ++ sections.version.toList ++
    sections.subscription.toList ++ sections.custom ++ sections.elevated)

/-- The parameters of a client of a service are divided into sections. -/
structure Context.Divides (context : Context) (state : State) (root : ContainerId) (client : Client)
    (sections : Sections) : Prop where
  all : client.initialization.parameters = sections.all
  endpoint : sections.endpoint.role = .endpoint
  credential : ∀ parameter ∈ sections.credential, parameter.role = .credential
  guarded : sections.credential.isSome ↔
    ∃ scheme ∈ (context.serviceAt root).auth, scheme ≠ .noAuth
  version : ∀ parameter ∈ sections.version, parameter.isApiVersion = true
  versioned : sections.version.isSome ↔ client.TakesVersion
  subscription : ∀ parameter ∈ sections.subscription, isSubscriptionName parameter.name = true
  subscribed : sections.subscription.isSome ↔
    context.isResourceManaged client.origin = true ∧ client.TakesSubscription
  custom : (sections.custom.map Property.origin).Sublist
    ((context.chosenFor client.origin).map some)
  elevated : ∀ parameter ∈ sections.elevated, parameter ∈ state.takenBy client.origin ∧
    ∀ id ∈ context.chosenFor client.origin, parameter.origin ≠ some id

/-! ## Clients of services -/

/-- No name is repeated by the parameters that go before those which were given to a client. -/
theorem nodup_front {endpoint : Property} {credential version subscription : Option Property}
    (isEndpoint : endpoint.name = endpointName)
    (isCredential : ∀ parameter ∈ credential, parameter.name = "credential")
    (isVersion : ∀ parameter ∈ version, isVersionName parameter.name = true)
    (isSubscription : ∀ parameter ∈ subscription, isSubscriptionName parameter.name = true) :
    (([endpoint] ++ credential.toList ++ version.toList ++ subscription.toList).map
      Property.name).Nodup := by
  -- The endpoint and the credential have names of their own, neither a version nor a subscription.
  have guard : ∀ parameter ∈ credential, endpoint.name ≠ parameter.name := by
    intro parameter isGuard
    rw [isCredential parameter isGuard, isEndpoint]
    decide
  -- A name is that of a version or of a subscription, or neither, but not both.
  have apart {test : String → Bool} {left right : String} (no : test left = false)
      (yes : test right = true) : left ≠ right := by
    rintro rfl
    rw [no] at yes
    cases yes
  have versionEndpoint : ∀ parameter ∈ version, endpoint.name ≠ parameter.name :=
    fun parameter listed => apart (isEndpoint ▸ isVersionName_endpoint) (isVersion parameter listed)
  have versionCredential : ∀ other ∈ credential, ∀ parameter ∈ version,
      other.name ≠ parameter.name := fun other isGuard parameter listed =>
    apart (isCredential other isGuard ▸ isVersionName_credential) (isVersion parameter listed)
  have subscriptionEndpoint : ∀ parameter ∈ subscription, endpoint.name ≠ parameter.name :=
    fun parameter listed =>
      apart (isEndpoint ▸ isSubscriptionName_endpoint) (isSubscription parameter listed)
  have subscriptionCredential : ∀ other ∈ credential, ∀ parameter ∈ subscription,
      other.name ≠ parameter.name := fun other isGuard parameter listed =>
    apart (isCredential other isGuard ▸ isSubscriptionName_credential)
      (isSubscription parameter listed)
  have subscriptionVersion : ∀ other ∈ version, ∀ parameter ∈ subscription,
      other.name ≠ parameter.name := fun other isOther parameter listed =>
    (apart (isVersionName_of_isSubscriptionName (isSubscription parameter listed))
      (isVersion other isOther)).symm
  cases credential <;> cases version <;> cases subscription <;> simp_all

section

variable {root : ContainerId} {client : Client} {supplies : Supplies}
  (supplied : context.IsSuppliedWith state root client supplies)
include supplied

/-- Whatever the client is made with belongs to the service, or was taken by a client. -/
theorem mem_parameters_cases {parameter : Property}
    (listed : parameter ∈ client.initialization.parameters) :
    parameter = supplies.endpoint ∨ parameter ∈ supplies.credential ∨
      parameter ∈ supplies.own ++
        client.children.flatMap fun child => child.initialization.parameters := by
  rw [supplied.parameters] at listed
  refine (mem_suppliedParameters_cases listed).imp_right fun other => other.imp_right fun rest => ?_
  -- The client has taken the parameters that were chosen for it.
  exact rest.elim (fun isCustom => List.mem_append_left _ (supplied.chosen isCustom)) id

/-- A version or a subscription that is found for the client is among its parameters. -/
theorem mem_parameters_of_front {parameter : Property}
    (found : parameter ∈ Context.versionOf supplies.own client.children ∨
      parameter ∈ context.subscriptionOf client.origin supplies.own client.children) :
    parameter ∈ client.initialization.parameters := by
  -- Nothing is taken out of the front when more is added behind it.
  obtain ⟨added, same, _, _⟩ := exists_append_withOthers ([supplies.endpoint] ++
    supplies.credential.toList ++ (Context.versionOf supplies.own client.children).toList ++
    (context.subscriptionOf client.origin supplies.own client.children).toList)
    (supplies.custom ++ supplies.own)
  rw [supplied.parameters, Context.suppliedParameters, same]
  refine List.mem_append_left _ ?_
  simp only [List.mem_append, Option.mem_toList]
  tauto

variable (consistent : Consistent context state)
include consistent

/-- A version is found for the client exactly if it is made with one. -/
theorem versionOf_isSome_iff :
    (Context.versionOf supplies.own client.children).isSome ↔ client.TakesVersion := by
  constructor
  · intro isSome
    obtain ⟨parameter, found⟩ := Option.isSome_iff_exists.mp isSome
    exact ⟨parameter, mem_parameters_of_front supplied (Or.inl found), List.find?_some found⟩
  · rintro ⟨parameter, listed, isVersion⟩
    -- Neither the endpoint nor the credential is a version.
    rcases mem_parameters_cases supplied listed with rfl | isCredential | known
    · rw [(consistent.endpoints _ _ supplied.endpoint).plain] at isVersion
      cases isVersion
    · rw [(consistent.credentials _ _ supplied.credential).plain parameter isCredential]
        at isVersion
      cases isVersion
    · exact List.find?_isSome.mpr ⟨parameter, known, isVersion⟩

/-- A subscription is found for the client exactly if it is managed as a resource and takes one. -/
theorem subscriptionOf_isSome_iff :
    (context.subscriptionOf client.origin supplies.own client.children).isSome ↔
      context.isResourceManaged client.origin = true ∧ client.TakesSubscription := by
  -- What is found is among the parameters; the other way round, one of them must be found.
  constructor
  · intro isSome
    obtain ⟨parameter, found⟩ := Option.isSome_iff_exists.mp isSome
    obtain ⟨managed, _, named⟩ := mem_subscriptionOf found
    exact ⟨managed, parameter, mem_parameters_of_front supplied (Or.inr found), named⟩
  · rintro ⟨managed, parameter, listed, named⟩
    rw [Context.subscriptionOf, if_pos managed]
    -- Neither the endpoint nor the credential has the name of a subscription.
    rcases mem_parameters_cases supplied listed with rfl | isCredential | known
    · rw [(consistent.endpoints _ _ supplied.endpoint).name,
        isSubscriptionName_endpoint] at named
      cases named
    · rw [(consistent.credentials _ _ supplied.credential).name parameter isCredential,
        isSubscriptionName_credential] at named
      cases named
    · exact List.find?_isSome.mpr ⟨parameter, known, named⟩

/-- The parameters of a client are divided by what they are for. -/
theorem exists_divides : ∃ sections : Sections, context.Divides state root client sections ∧
    sections.endpoint = supplies.endpoint ∧ sections.credential = supplies.credential := by
  -- The chosen parameters are added first, and then those that the client took otherwise.
  obtain ⟨custom, first, sublist, _⟩ := exists_append_withOthers ([supplies.endpoint] ++
    supplies.credential.toList ++ (Context.versionOf supplies.own client.children).toList ++
    (context.subscriptionOf client.origin supplies.own client.children).toList) supplies.custom
  obtain ⟨elevated, second, taken, new⟩ := exists_append_withOthers ([supplies.endpoint] ++
    supplies.credential.toList ++ (Context.versionOf supplies.own client.children).toList ++
    (context.subscriptionOf client.origin supplies.own client.children).toList ++ custom)
    supplies.own
  -- Each chosen declaration has one parameter, in order.
  have origins : List.Forall₂ (· = ·) (supplies.custom.map Property.origin)
      ((context.chosenFor client.origin).map some) := by
    rw [List.forall₂_map_left_iff, List.forall₂_map_right_iff]
    exact supplied.custom.flip
  rw [List.forall₂_eq_eq_eq] at origins
  -- A parameter of the same declaration has the name of one that was added before it.
  have unchosen (parameter : Property) (listed : parameter ∈ elevated) (id : PropertyId)
      (chosen : id ∈ context.chosenFor client.origin) : parameter.origin ≠ some id := by
    intro isOrigin
    obtain ⟨other, isCustom, isOther⟩ := partner_of_mem supplied.custom chosen
    have declared (taken : Property) (isOwn : taken ∈ supplies.own)
        (isOrigin : taken.origin = some id) :
        taken.name = (context.definition.propertyAt id).name :=
      (consistent.taken client.origin taken (supplied.own isOwn)).declared id isOrigin
    have same : parameter.name = other.name :=
      (declared parameter (taken.subset listed) isOrigin).trans
        (declared other (supplied.chosen isCustom) isOther).symm
    refine new parameter listed ?_
    rw [← first, same]
    refine Context.mem_names_withOthers _ _ ?_
    rw [List.map_append]
    exact List.mem_append_right _ (List.mem_map_of_mem isCustom)
  refine ⟨{ endpoint := supplies.endpoint
            credential := supplies.credential
            version := Context.versionOf supplies.own client.children
            subscription := context.subscriptionOf client.origin supplies.own client.children
            custom
            elevated }, ?_, rfl, rfl⟩
  exact
    { all := by
        rw [supplied.parameters, Context.suppliedParameters, withOthers_append, first, second]
        simp [Sections.all]
      endpoint := (consistent.endpoints _ _ supplied.endpoint).role
      credential := (consistent.credentials _ _ supplied.credential).role
      guarded := (consistent.credentials _ _ supplied.credential).wanted
      version := fun parameter isVersion => List.find?_some isVersion
      versioned := versionOf_isSome_iff supplied consistent
      subscription := fun parameter isSubscription => (mem_subscriptionOf isSubscription).2.2
      subscribed := subscriptionOf_isSome_iff supplied consistent
      custom := origins ▸ sublist.map Property.origin
      elevated := fun parameter listed =>
        ⟨supplied.own (taken.subset listed), unchosen parameter listed⟩ }

variable (below : ∀ child ∈ client.children,
  AdmitsAll context state.catalogue child.initialization.parameters)
include below

/-- What the client has taken, and what its sub-clients are made with, is admitted. -/
theorem admitsAll_supplies : AdmitsAll context state.catalogue
    (supplies.own ++ client.children.flatMap fun child => child.initialization.parameters) := by
  -- The client has taken its own; the others were admitted when the sub-clients were made.
  refine AdmitsAll.append (fun parameter listed =>
    consistent.taken client.origin parameter (supplied.own listed)) fun parameter listed => ?_
  obtain ⟨child, isChild, inChild⟩ := List.mem_flatMap.mp listed
  exact below child isChild parameter inChild

/-- No two parameters of a client have one name. -/
theorem nodup_parameters : (client.initialization.parameters.map Property.name).Nodup := by
  have endpoint := consistent.endpoints _ _ supplied.endpoint
  have credential := consistent.credentials _ _ supplied.credential
  have admits := admitsAll_supplies supplied consistent below
  rw [supplied.parameters]
  -- The front repeats no name, and no name is repeated by what is added to it.
  refine nodup_withOthers (nodup_front endpoint.name credential.name ?_ ?_) _
  · intro parameter isVersion
    have listed := List.mem_of_find?_eq_some isVersion
    exact (admits parameter listed).version (List.find?_some isVersion)
  · exact fun parameter isSubscription => (mem_subscriptionOf isSubscription).2.2

/-- Where no parameters were chosen for it, a client is made with the version that it took over. -/
theorem versionOf_eq_some (free : context.chosenFor client.origin = []) {parameter : Property}
    (listed : parameter ∈ client.initialization.parameters)
    (isVersion : parameter.isApiVersion = true) :
    Context.versionOf supplies.own client.children = some parameter := by
  -- No parameters were chosen, so there are none to put in front.
  have none : supplies.custom = [] := by
    have custom := supplied.custom
    rw [free] at custom
    exact List.forall₂_nil_left_iff.mp custom
  -- Without chosen parameters, only those that the client has taken are added.
  obtain ⟨added, same, sublist, new⟩ := exists_append_withOthers ([supplies.endpoint] ++
    supplies.credential.toList ++ (Context.versionOf supplies.own client.children).toList ++
    (context.subscriptionOf client.origin supplies.own client.children).toList) supplies.own
  -- It is one of those in front, or one of those that the client has taken.
  rw [supplied.parameters, Context.suppliedParameters, none, List.nil_append, same] at listed
  rcases List.mem_append.mp listed with front | taken
  · simp only [List.mem_append, List.mem_singleton, Option.mem_toList] at front
    rcases front with ((rfl | isCredential) | found) | isSubscription
    · rw [(consistent.endpoints _ _ supplied.endpoint).plain] at isVersion
      cases isVersion
    · rw [(consistent.credentials _ _ supplied.credential).plain parameter isCredential]
        at isVersion
      cases isVersion
    · exact found
    · -- A subscription does not have the name of a version.
      obtain ⟨_, known, named⟩ := mem_subscriptionOf isSubscription
      have admits := admitsAll_supplies supplied consistent below parameter known
      have versionName := admits.version isVersion
      rw [isVersionName_of_isSubscriptionName named] at versionName
      cases versionName
  · -- The client has taken a single version, which is there before.
    have isOwn := sublist.subset taken
    obtain ⟨first, found⟩ := Option.isSome_iff_exists.mp
      (List.find?_isSome.mpr ⟨parameter, isOwn, isVersion⟩ :
        (supplies.own.find? (·.isApiVersion)).isSome)
    have version : Context.versionOf supplies.own client.children = some first := by
      rw [Context.versionOf, List.find?_append, found, Option.some_or]
    have same : parameter = first :=
      eq_of_mem_of_length_le_one (supplied.single free)
        (List.mem_filter.mpr ⟨isOwn, isVersion⟩)
        (List.mem_filter.mpr ⟨List.mem_of_find?_eq_some found, List.find?_some found⟩)
    rw [version, same]

/-- Where no parameters were chosen for it, a client is made with at most one version. -/
theorem length_versions_le_one (free : context.chosenFor client.origin = []) :
    (client.initialization.parameters.filter Property.isApiVersion).length ≤ 1 := by
  -- All versions among the parameters are the one that was taken over, which comes once.
  have once : (client.initialization.parameters.filter Property.isApiVersion).Nodup :=
    (List.Nodup.of_map _ (nodup_parameters supplied consistent below)).filter _
  have among : client.initialization.parameters.filter Property.isApiVersion ⊆
      (Context.versionOf supplies.own client.children).toList := by
    intro parameter listed
    obtain ⟨isParameter, isVersion⟩ := List.mem_filter.mp listed
    rw [versionOf_eq_some supplied consistent below free isParameter isVersion]
    exact List.mem_singleton_self _
  exact Nat.le_trans (once.subperm among).length_le Option.length_toList_le

end

/-! ## Packages -/

/-- A sub-client's version or subscription is handed up to a client that it is below. -/
theorem takes_of_child {root : ContainerId} {client child : Client} {supplies : Supplies}
    (supplied : context.IsSuppliedWith state root client supplies)
    (isChild : child ∈ client.children) :
    (child.TakesVersion → client.TakesVersion) ∧
      (context.isResourceManaged client.origin = true →
        child.TakesSubscription → client.TakesSubscription) := by
  -- What a sub-client is made with is looked through for a version and a subscription.
  have inherited {parameter : Property} (listed : parameter ∈ child.initialization.parameters) :
      parameter ∈ supplies.own ++
        client.children.flatMap fun child => child.initialization.parameters :=
    List.mem_append_right _ (List.mem_flatMap.mpr ⟨child, isChild, listed⟩)
  -- Whatever is found for the version and for the subscription is put in front.
  constructor
  · rintro ⟨parameter, listed, isVersion⟩
    obtain ⟨version, found⟩ : ∃ version,
        version ∈ Context.versionOf supplies.own client.children :=
      Option.isSome_iff_exists.mp (List.find?_isSome.mpr ⟨parameter, inherited listed, isVersion⟩)
    exact ⟨version, mem_parameters_of_front supplied (Or.inl found), List.find?_some found⟩
  · rintro managed ⟨parameter, listed, named⟩
    obtain ⟨subscription, isSubscription⟩ : ∃ subscription,
        subscription ∈ context.subscriptionOf client.origin supplies.own client.children := by
      rw [Context.subscriptionOf, if_pos managed]
      exact Option.isSome_iff_exists.mp
        (List.find?_isSome.mpr ⟨parameter, inherited listed, named⟩)
    exact ⟨subscription, mem_parameters_of_front supplied (Or.inr isSubscription),
      (mem_subscriptionOf isSubscription).2.2⟩

/--
A client of a service is made with parameters in order, and no name comes twice.

The clients of one service share its endpoint and its credential. A version or a subscription that
a sub-client is made with is handed up, and a client for which no parameters were chosen is made
with one version at most.
-/
theorem client_parameters_are_in_order {definition : Definition} {options : Options}
    {package : Package} (derived : derivePackage definition options = .ok package) {client : Client}
    (member : client ∈ package.allClients) {root : ContainerId}
    (inService : definition.serviceRoot? client.origin = some root) :
    (client.initialization.parameters.map Property.name).Nodup ∧
      (∃ sections : Sections,
        (Context.of definition options).Divides (finalState definition options) root client
          sections ∧
        ∀ other ∈ package.allClients, definition.serviceRoot? other.origin = some root →
          ∃ others : Sections,
            (Context.of definition options).Divides (finalState definition options) root other
              others ∧
            others.endpoint = sections.endpoint ∧ others.credential = sections.credential) ∧
      (∀ child ∈ client.children,
        (child.TakesVersion → client.TakesVersion) ∧
        ((Context.of definition options).isResourceManaged client.origin = true →
          child.TakesSubscription → client.TakesSubscription)) ∧
      ((Context.of definition options).chosenFor client.origin = [] →
        (client.initialization.parameters.filter Property.isApiVersion).length ≤ 1) := by
  obtain ⟨clients, run, rfl⟩ := derivePackage_ok derived
  obtain ⟨_, consistent, made⟩ := run_consistent run
  obtain ⟨supplies, supplied⟩ := (made client member).supplied root inService
  -- The sub-clients of a client are clients of the package, too.
  have below : ∀ child ∈ client.children, AdmitsAll (Context.of definition options)
      (finalState definition options).catalogue child.initialization.parameters := by
    intro child isChild
    refine (made child (mem_walkAll_trans ?_ clients member)).parameters
    exact mem_walk.mpr (Or.inr (mem_walkAll.mpr ⟨child, isChild, mem_walk_self child⟩))
  -- Names, versions and what is handed up are of this client alone; the sections are compared with
  -- others.
  refine ⟨nodup_parameters supplied consistent below, ?_,
    fun child isChild => takes_of_child supplied isChild,
    length_versions_le_one supplied consistent below⟩
  obtain ⟨sections, divides, isEndpoint, isCredential⟩ := exists_divides supplied consistent
  refine ⟨sections, divides, fun other isOther sameService => ?_⟩
  obtain ⟨given, otherSupplied⟩ := (made other isOther).supplied root sameService
  obtain ⟨others, divided, otherEndpoint, otherCredential⟩ :=
    exists_divides otherSupplied consistent
  -- Both read what is noted for the service.
  refine ⟨others, divided, ?_, ?_⟩
  · rw [otherEndpoint, isEndpoint]
    exact Option.some.inj (otherSupplied.endpoint.symm.trans supplied.endpoint)
  · rw [otherCredential, isCredential]
    exact Option.some.inj (otherSupplied.credential.symm.trans supplied.credential)

/-- A service that asks for a key, and an interface in it that is called with a version. -/
def ferries : Definition where
  types := #[{ shape := .scalar { name := "string" } }]
  properties := #[{ name := "apiVersion", type := ⟨0⟩ }]
  operations := #[
    { name := "moor", container := ⟨1⟩, verb := .put, path := "/berths"
      parameters := [⟨0⟩], slots := [⟨⟨0⟩, some .query⟩] }]
  containers := #[
    { name := "Ferries", children := [⟨1⟩]
      service := some { apiVersions := ["1"], auth := [.apiKey .header "key"] } },
    { name := "Berths", isInterface := true, parent := some ⟨0⟩, operations := [⟨0⟩] }]

/-- The ferries have one client, the parameters of which are in order. -/
theorem client_parameters_are_in_order_ferries :
    ∃ package client, derivePackage ferries {} = .ok package ∧ client ∈ package.allClients ∧
      ferries.serviceRoot? client.origin = some ⟨0⟩ ∧
      (client.initialization.parameters.map Property.name).Nodup ∧
      (∃ sections : Sections,
        (Context.of ferries {}).Divides (finalState ferries {}) ⟨0⟩ client sections ∧
        ∀ other ∈ package.allClients, ferries.serviceRoot? other.origin = some ⟨0⟩ →
          ∃ others : Sections,
            (Context.of ferries {}).Divides (finalState ferries {}) ⟨0⟩ other others ∧
            others.endpoint = sections.endpoint ∧ others.credential = sections.credential) ∧
      (∀ child ∈ client.children,
        (child.TakesVersion → client.TakesVersion) ∧
        ((Context.of ferries {}).isResourceManaged client.origin = true →
          child.TakesSubscription → client.TakesSubscription)) ∧
      ((Context.of ferries {}).chosenFor client.origin = [] →
        (client.initialization.parameters.filter Property.isApiVersion).length ≤ 1) := by
  have origins : (match derivePackage ferries {} with
      | .ok package => package.clients.map Client.origin
      | .error _ => []) = [⟨0⟩] := by
    decide +kernel
  -- That there is one client is evaluated; the rest is the theorem for it.
  cases derived : derivePackage ferries {} with
  | error failure => simp [derived] at origins
  | ok package =>
    rw [derived] at origins
    dsimp only at origins
    obtain ⟨client, clients, isOrigin⟩ := List.map_eq_singleton_iff.mp origins
    have member : client ∈ package.allClients :=
      mem_walkAll.mpr ⟨client, by simp [clients], mem_walk_self client⟩
    have inService : ferries.serviceRoot? client.origin = some ⟨0⟩ := by
      rw [isOrigin]
      decide +kernel
    exact ⟨package, client, rfl, member, inService,
      client_parameters_are_in_order derived member inService⟩

/-- The client of the interface hands its version up, after the endpoint and the credential. -/
example : (match derivePackage ferries {} with
    | .ok package => package.allClients.map fun client =>
        client.initialization.parameters.map Property.name
    | .error _ => []) =
      [["endpoint", "credential", "apiVersion"], ["endpoint", "credential", "apiVersion"]] := by
  decide +kernel

end Derivation

end ClientModel
