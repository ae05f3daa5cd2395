import ClientModel.Proofs.Constructors
import ClientModel.Proofs.Initialization

/-!
Which URLs the clients of a service may be made for.

The endpoint of a service offers a template for each of its servers. Beside a template of several
parts it offers one that takes a whole URL, so that a caller may always give another one. A template
is looked at only at its two ends, though: one with a sole argument that starts and ends like a
placeholder is taken for a whole URL, whatever stands in between.
-/

namespace ClientModel

open Service (Server)

namespace Service.Definition

variable (definition : Definition)

/-- The argument of a server belongs to the template of its URL. -/
def isTemplateArgument (id : PropertyId) : Bool :=
  match (definition.propertyAt id).binding with
  | none | some (.path _) => true
  | _ => false

/-- The arguments of a server that belong to the template of its URL. -/
def templateArguments (server : Server) : List PropertyId :=
  server.arguments.filter definition.isTemplateArgument

/-- The URL of a server is a single placeholder, which names the sole argument of it. -/
def IsPlaceholder (server : Server) : Prop :=
  ∃ id, definition.templateArguments server = [id] ∧
    server.url = "\x7b" ++ (definition.propertyAt id).name ++ "\x7d"

/-- The URL of a server with a sole argument starts and ends like a placeholder. -/
def looksReplaceable (server : Server) : Bool :=
  (definition.templateArguments server).length == 1 && Text.starts "\x7b" server.url &&
    Text.ends "\x7d" server.url

end Service.Definition

namespace Derivation

open Service (Definition)

variable {context : Context} {state : State}

namespace Context

variable (context : Context)

/-- An argument of a template comes from a declaration, and has the name that it declares. -/
structure IsArgumentOf (id : PropertyId) (argument : Property) : Prop where
  origin : argument.origin = some id
  name : argument.name = (context.definition.propertyAt id).name

/-- A template is that of a server, with all arguments that belong to it. -/
structure IsTemplateOf (server : Server) (template : Endpoint) : Prop where
  serverUrl : template.serverUrl = server.url
  arguments : List.Forall₂ context.IsArgumentOf (context.definition.templateArguments server)
    template.arguments

/-- One of some templates takes a whole URL, which may have a default. -/
def OffersWholeUrl (root : ContainerId) (templates : List Endpoint) (url : Option String) : Prop :=
  ∃ string, wholeUrl string url (context.definition.fullName root) ∈ templates

/-- What is offered for a server: its template or its URL, and a whole URL unless it looks so. -/
structure Covers (root : ContainerId) (server : Server) (templates : List Endpoint) : Prop where
  constant : context.definition.templateArguments server = [] →
    context.OffersWholeUrl root templates (some server.url)
  template : context.definition.templateArguments server ≠ [] →
    ∃ template ∈ templates, context.IsTemplateOf server template
  whole : (∃ url, context.OffersWholeUrl root templates url) ↔
    context.definition.looksReplaceable server = false

/-- What the endpoint of a service offers for all of its servers. -/
structure CoversAll (root : ContainerId) (templates : List Endpoint) : Prop where
  unserved : (context.serviceAt root).servers = [] → context.OffersWholeUrl root templates none
  constant : ∀ server ∈ (context.serviceAt root).servers,
    context.definition.templateArguments server = [] →
      context.OffersWholeUrl root templates (some server.url)
  template : ∀ server ∈ (context.serviceAt root).servers,
    context.definition.templateArguments server ≠ [] →
      ∃ template ∈ templates, context.IsTemplateOf server template
  whole : (∃ url, context.OffersWholeUrl root templates url) ↔
    (context.serviceAt root).servers = [] ∨
      ∃ server ∈ (context.serviceAt root).servers,
        context.definition.looksReplaceable server = false

end Context

/-! ## Servers -/

/-- An argument that is bound elsewhere than to a path is left out. -/
theorem serverArgument?_yields (root : ContainerId) (id : PropertyId) :
    Yields (context.serverArgument? root id) fun found _ =>
      List.Forall₂ context.IsArgumentOf ([id].filter context.definition.isTemplateArgument)
        found.toList := by
  unfold Context.serverArgument?
  extract_lets declared isOnPath
  have same : context.definition.isTemplateArgument id = isOnPath := rfl
  -- To be an argument of the template is the very condition that the derivation checks.
  by_cases onPath : isOnPath = true
  · have chosen : [id].filter context.definition.isTemplateArgument = [id] := by
      simp [same, onPath]
    rw [if_pos onPath, chosen]
    exact .after fun type => .pure fun _ => .cons
      ⟨Context.origin_parameterOf id type _ _ _, Context.name_parameterOf id type _ _ _⟩ .nil
  · have refused : [id].filter context.definition.isTemplateArgument = [] := by
      simp [same, onPath]
    rw [if_neg onPath, refused]
    exact .after fun _ => .pure fun _ => .nil

/-- The template of a server is not one that takes a whole URL. -/
theorem Context.IsTemplateOf.ne_wholeUrl {server : Server} {template : Endpoint}
    (isTemplate : context.IsTemplateOf server template) (string : NodeId) (url : Option String)
    (rootId : String) : template ≠ wholeUrl string url rootId := by
  rintro rfl
  -- The argument for a whole URL was not declared.
  obtain ⟨id, -, isArgument⟩ := partner_of_mem isTemplate.arguments.flip List.mem_cons_self
  cases isArgument.origin

/-- A server without arguments is covered by its URL. -/
theorem covers_constant {root : ContainerId} {server : Server}
    (none : context.definition.templateArguments server = []) (string : NodeId) :
    context.Covers root server
      [wholeUrl string (some server.url) (context.definition.fullName root)] where
  constant _ := ⟨string, List.mem_singleton_self _⟩
  template hasArgument := absurd none hasArgument
  whole := by
    refine iff_of_true ⟨_, string, List.mem_singleton_self _⟩ ?_
    simp [Definition.looksReplaceable, none]

/-- A server with arguments is covered by a template, beside what is offered for a whole URL. -/
theorem covers_template {root : ContainerId} {server : Server} {template : Endpoint}
    (isTemplate : context.IsTemplateOf server template)
    (hasArgument : context.definition.templateArguments server ≠ []) {others : List Endpoint}
    (whole : (∃ url, context.OffersWholeUrl root others url) ↔
      context.definition.looksReplaceable server = false) :
    context.Covers root server (template :: others) where
  constant none := absurd none hasArgument
  template _ := ⟨template, List.mem_cons_self, isTemplate⟩
  whole := by
    rw [← whole]
    refine exists_congr fun url => exists_congr fun string => ?_
    -- Whatever takes a whole URL is among the others.
    rw [List.mem_cons]
    exact or_iff_right (isTemplate.ne_wholeUrl _ _ _).symm

/-- What is made of a server covers it. -/
theorem serverEndpoints_yields (root : ContainerId) (string : NodeId) (server : Server) :
    Yields (context.serverEndpoints root string server) fun endpoints _ =>
      context.Covers root server endpoints := by
  unfold Context.serverEndpoints
  dsimp only
  -- The arguments are known first, and it depends on them what is made of the server.
  refine Yields.bind_told (Yields.filterMapM_forall₂ (serverArgument?_yields root)
    server.arguments) fun arguments each => ?_
  split
  · exact Yields.pure fun _ => covers_constant (List.forall₂_nil_right_iff.mp each) string
  · rename_i someArgument
    have hasArgument : context.definition.templateArguments server ≠ [] := by
      intro none
      rw [← Definition.templateArguments, none] at each
      exact someArgument (List.forall₂_nil_left_iff.mp each)
    -- The template has as many arguments as belong to it, and the text of the server.
    have looks : ({ serverUrl := server.url, arguments } : Endpoint).isOverridable =
        context.definition.looksReplaceable server := by
      rw [Definition.looksReplaceable, Definition.templateArguments, each.length_eq]
      rfl
    rw [looks]
    split
    · rename_i replaceable
      refine Yields.pure fun _ => covers_template ⟨rfl, each⟩ hasArgument ?_
      simp [Context.OffersWholeUrl, replaceable]
    · rename_i fixed
      refine Yields.pure fun _ => covers_template ⟨rfl, each⟩ hasArgument ?_
      exact iff_of_true ⟨none, string, List.mem_singleton_self _⟩ (by simpa using fixed)

/-- What covers each server of a service covers the service, if a whole URL is taken without one. -/
theorem coversAll_of_each {root : ContainerId} {string : NodeId} {offers : List (List Endpoint)}
    (each : List.Forall₂ (context.Covers root) (context.serviceAt root).servers offers) :
    context.CoversAll root (if offers.isEmpty then
      [wholeUrl string none (context.definition.fullName root)] else offers.flatten) := by
  -- Without a server there is a whole URL and nothing else; with some, each covers its own.
  by_cases unserved : (context.serviceAt root).servers = []
  · rw [unserved] at each
    rw [List.forall₂_nil_left_iff.mp each]
    have whole : context.OffersWholeUrl root
        [wholeUrl string none (context.definition.fullName root)] none :=
      ⟨string, List.mem_singleton_self _⟩
    exact
      { unserved := fun _ => whole
        constant := by simp [unserved]
        template := by simp [unserved]
        whole := iff_of_true ⟨none, whole⟩ (Or.inl unserved) }
  · have served : offers.isEmpty = false := by
      cases offers with
      | nil => exact absurd (List.forall₂_nil_right_iff.mp each) unserved
      | cons => rfl
    rw [served]
    -- Each server is covered by endpoints of its own, which are among all.
    have among {server : Server} (isServer : server ∈ (context.serviceAt root).servers) :
        ∃ own, own ⊆ offers.flatten ∧ context.Covers root server own := by
      obtain ⟨own, isOwn, covers⟩ := partner_of_mem each isServer
      exact ⟨own, fun _ listed => List.mem_flatten.mpr ⟨own, isOwn, listed⟩, covers⟩
    refine
      { unserved := fun none => absurd none unserved
        constant := fun server isServer none => ?_
        template := fun server isServer hasArgument => ?_
        whole := ?_ }
    · obtain ⟨own, within, covers⟩ := among isServer
      exact (covers.constant none).imp fun _ listed => within listed
    · obtain ⟨own, within, covers⟩ := among isServer
      exact (covers.template hasArgument).imp fun _ found => ⟨within found.1, found.2⟩
    -- A whole URL is taken for one of the servers.
    · rw [or_iff_right unserved]
      constructor
      · rintro ⟨url, string, listed⟩
        obtain ⟨own, isOwn, inOwn⟩ := List.mem_flatten.mp listed
        obtain ⟨server, isServer, covers⟩ := partner_of_mem each.flip isOwn
        exact ⟨server, isServer, covers.whole.mp ⟨url, string, inOwn⟩⟩
      · rintro ⟨server, isServer, fixed⟩
        obtain ⟨own, within, covers⟩ := among isServer
        obtain ⟨url, string, inOwn⟩ := covers.whole.mpr fixed
        exact ⟨url, string, within inOwn⟩

/-! ## Types of endpoints -/

/-- A type stands for a single template, or for the union of several. -/
def Offers (type : NodeId) (templates : List Endpoint) (state : State) : Prop :=
  (∃ template, templates = [template] ∧ (state.catalogue.nodeAt type).kind = .endpoint template) ∨
    ∃ union, (state.catalogue.nodeAt type).kind = .union union ∧
      List.Forall₂ (fun template variant =>
        (state.catalogue.nodeAt variant).kind = .endpoint template) templates union.variants

/-- A node that is a template stays one. -/
theorem lasting_isEndpoint (template : Endpoint) (node : NodeId) :
    Lasting fun state => (state.catalogue.nodeAt node).kind = .endpoint template :=
  fun _ _ isEndpoint grown => grown.kind isEndpoint (by simp [NodeKind.label])

/-- A type that offers some templates goes on doing so. -/
theorem lasting_offers (type : NodeId) (templates : List Endpoint) :
    Lasting (Offers type templates) := by
  -- A template that is alone and one of several are kept for different reasons, so they are told
  -- apart first.
  rintro before after (⟨template, only, isTemplate⟩ | ⟨union, isUnion, variants⟩) grown
  · exact Or.inl ⟨template, only, lasting_isEndpoint template type before after isTemplate grown⟩
  · exact Or.inr ⟨union, grown.kind isUnion (by simp [NodeKind.label]),
      LastsAlong.forall₂ lasting_isEndpoint _ _ before after variants grown⟩

/-- The templates that are read from a type are those that it offers. -/
theorem Offers.templates {type : NodeId} {templates : List Endpoint}
    (offers : Offers type templates state) : state.catalogue.templates type = templates := by
  rcases offers with ⟨template, rfl, isTemplate⟩ | ⟨union, isUnion, variants⟩
  · simp [Catalogue.templates, Node.union?, Node.endpoint?, isTemplate]
  · have own : state.catalogue.templates type =
        union.variants.filterMap fun id => (state.catalogue.nodeAt id).endpoint? := by
      simp [Catalogue.templates, Node.union?, isUnion]
    rw [own]
    generalize union.variants = nodes at variants ⊢
    -- Each variant of the union stands for its template.
    induction variants with
    | nil => rfl
    | @cons template node _ _ isTemplate _ ih =>
      have isEndpoint : (state.catalogue.nodeAt node).endpoint? = some template := by
        simp [Node.endpoint?, isTemplate]
      simp only [List.filterMap_cons, isEndpoint, ih]

/-- The type of an endpoint offers the templates that it was made of. -/
theorem addEndpointType_yields (root : ContainerId) (endpoints : List Endpoint) :
    Yields (context.addEndpointType root endpoints) fun type => Offers type endpoints := by
  have grows (start : State) : Steady (Grown start) fun _ => True :=
    (Grown.robust context start).toSteady
  have added (template : Endpoint) : Yields (addNode { kind := .endpoint template })
      -- Each template has a node of its own.
      fun node state => (state.catalogue.nodeAt node).kind = .endpoint template :=
    Ensures.addNode fun state _ => by rw [Catalogue.nodeAt_push_self]
  have nodes := Yields.mapM_forall₂ lasting_isEndpoint
    (fun _ start => (grows start).addNode rfl rfl) added endpoints
  unfold Context.addEndpointType
  refine Ensures.bind nodes fun variants => ?_
  split
  · -- A single template is the type itself.
    refine Ensures.pure fun state ends => Or.inl ?_
    obtain ⟨template, rest, isTemplate, none, rfl⟩ := List.forall₂_cons_right_iff.mp ends
    exact ⟨template, by rw [List.forall₂_nil_right_iff.mp none], isTemplate⟩
  · have lasting := LastsAlong.forall₂ lasting_isEndpoint endpoints variants
    refine Ensures.bind ((lasting.keeps fun start => (grows start).claimName _).weaken
      (fun _ start => start) (fun _ _ ends => ends) fun _ _ _ => trivial) fun name => ?_
    refine Ensures.addNode fun state each => Or.inr ⟨_, by rw [Catalogue.nodeAt_push_self], ?_⟩
    exact lasting _ _ each ((Grown.refl state).push _)

/-! ## Services -/

/-- Nothing known is lost, and no endpoint is noted. -/
def KeepsEndpoints (before after : State) : Prop :=
  Grown before after ∧ after.endpoints = before.endpoints

namespace KeepsEndpoints

instance : Std.Refl KeepsEndpoints := ⟨fun state => ⟨.refl state, rfl⟩⟩

/-- Nodes, names and reports may be added without the endpoints being touched. -/
theorem frame (start : State) :
    Frame start.catalogue.size (KeepsEndpoints start) fun _ => True :=
  (Grown.frame start fun _ => trivial).beside fun _ _ _ _ _ _ same => same

/-- No step towards a method of a client notes an endpoint. -/
theorem accruing (context : Context) (client : ContainerId) (start : State) :
    Accruing context client (KeepsEndpoints start) fun _ => True where
  toSteady := (frame start).steady
  node := (frame start).node
  search _ := Keeps.answerOf _ fun _ _ => trivial
  seed _ _ same := ⟨same.1.noted _ _ _ _, same.2⟩
  bodyFormat _ _ same := ⟨same.1.noted _ _ _ _, same.2⟩
  clientParameter _ parameter same := ⟨same.1.takes client parameter, same.2⟩

end KeepsEndpoints

/-- Each endpoint that is noted offers what covers the servers of its service. -/
def Context.Served (context : Context) (state : State) : Prop :=
  ∀ root parameter, state.endpoints.get? root = some parameter →
    ∃ templates, Offers parameter.type templates state ∧ context.CoversAll root templates

/-- Endpoints that cover their services go on doing so where they are kept. -/
theorem lasts_served : LastsAlong KeepsEndpoints context.Served := by
  -- No endpoint was noted in between, so it was known before, and what it offers lasts.
  rintro before after served ⟨grown, same⟩ root parameter isKnown
  obtain ⟨templates, offers, covers⟩ := served root parameter (same ▸ isKnown)
  exact ⟨templates, lasting_offers _ _ before after offers grown, covers⟩

/-- The endpoint that is made for a service covers it. -/
theorem endpointParameter_serves (root : ContainerId) :
    Keeps context.Served (fun _ => True) (context.endpointParameter root) := by
  have steady : Steady context.Served fun _ => True :=
    lasts_served.steady fun start => (KeepsEndpoints.frame start).steady
  have node (type : TypeId) : Keeps context.Served (fun _ => True) (context.node type) :=
    lasts_served.keeps fun start => (KeepsEndpoints.frame start).node type
  unfold Context.endpointParameter
  refine .get_bind fun current => ?_
  -- The endpoint was asked for before, or is made now.
  split
  · exact .pure _
  · refine steady.stringNode.bind fun string => ?_
    have servers := Yields.mapM_forall₂
      (fun server endpoints => Lasting.const (context.Covers root server endpoints))
      (fun server start => (Grown.robust context start).toSteady.serverEndpoints
        (Grown.robust context start).node root string server)
      (serverEndpoints_yields root string) (context.serviceAt root).servers
    refine Keeps.bind_told (Keeps.mapM _ fun server =>
      steady.serverEndpoints node root string server) servers fun declared each => ?_
    refine (steady.addEndpointType root _).bind_yields (addEndpointType_yields root _)
      fun type => ?_
    -- The endpoint is noted, and all that were noted before are left as they are.
    refine Ensures.via (fun _ => context.Served) (Ensures.modify ?_) fun _ => .pure fun _ => id
    rintro state ⟨served, offers⟩ other parameter isKnown
    rcases OrderedMap.get?_insert_cases isKnown with ⟨rfl, rfl⟩ | earlier
    · exact ⟨_, offers, coversAll_of_each each⟩
    · exact served other parameter earlier

variable (context) in
/-- Throughout a run, all endpoints that are noted cover their services. -/
theorem served_stable : Stable context (fun _ => True) context.Served fun _ => True where
  toSteady := lasts_served.steady fun start => (KeepsEndpoints.frame start).steady
  node type := lasts_served.keeps fun start => (KeepsEndpoints.frame start).node type
  -- Parameters of clients are no endpoints, and an endpoint is made where it is asked for.
  clientParameter state client parameter _ served :=
    lasts_served _ _ served ⟨(Grown.refl state).takes client parameter, rfl⟩
  endpointParameter := endpointParameter_serves
  credentialParameter? root := lasts_served.keeps fun start =>
    (KeepsEndpoints.frame start).steady.credentialParameter?
      (fun _ _ same => ⟨same.1.noted _ _ _ _, same.2⟩) root
  method operation client _ := by
    have keeps (start : State) : Keeps (KeepsEndpoints start) (fun _ => True)
        (context.method operation client) :=
      (KeepsEndpoints.accruing context client start).method Tolerant.all
        (fun _ _ _ same => ⟨same.1.noted _ _ _ _, same.2⟩) operation
    exact (lasts_served.keeps keeps).weaken (fun _ start => start) (fun _ _ ends => ends)
      fun _ _ fails => ⟨Or.inl trivial, fails.2⟩

/-! ## Packages -/

/--
A client of a service takes any URL, unless its servers only look as if they did.

The endpoint comes first among what the client is made with. It offers a whole URL for a service
without servers and, with the URL as its default, for each server without arguments. Each other
server has its template there; and either it is a single placeholder for its sole argument, or a
whole URL is offered as well. This only fails if all servers have a sole argument and start and end
like a placeholder, and one of them is no such placeholder.
-/
theorem any_url_is_taken_iff {definition : Definition} {options : Options} {package : Package}
    (derived : derivePackage definition options = .ok package) {client : Client}
    (member : client ∈ package.allClients) {root : ContainerId}
    (inService : definition.serviceRoot? client.origin = some root) :
    let context := Context.of definition options
    let servers := (context.serviceAt root).servers
    ∃ endpoint rest, client.initialization.parameters = endpoint :: rest ∧
      endpoint.role = .endpoint ∧
      let offers := context.OffersWholeUrl root (package.catalogue.templates endpoint.type)
      (servers = [] → offers none) ∧
      (∀ server ∈ servers, definition.templateArguments server = [] → offers (some server.url)) ∧
      (∀ server ∈ servers, definition.templateArguments server ≠ [] →
        ∃ template ∈ package.catalogue.templates endpoint.type,
          context.IsTemplateOf server template) ∧
      ((∀ server ∈ servers, definition.templateArguments server ≠ [] →
          definition.IsPlaceholder server ∨ ∃ url, offers url) ↔
        ((∀ server ∈ servers, definition.looksReplaceable server = true) →
          ∀ server ∈ servers, definition.IsPlaceholder server)) := by
  intro context servers
  obtain ⟨clients, run, rfl⟩ := derivePackage_ok derived
  obtain ⟨_, consistent, made⟩ := run_consistent run
  have served : context.Served (finalState definition options) :=
    ((served_stable context).clients fun _ _ _ _ => trivial).ok
      (fun _ _ isKnown => by simp [OrderedMap.get?] at isKnown) run
  obtain ⟨supplies, supplied⟩ := (made client member).supplied root inService
  obtain ⟨sections, divides, isEndpoint, -⟩ := exists_divides supplied consistent
  -- What is offered in the end is what was noted for the service.
  obtain ⟨templates, offered, covers⟩ := served root supplies.endpoint supplied.endpoint
  rw [← isEndpoint] at offered
  refine ⟨sections.endpoint, _, divides.all, divides.endpoint, ?_⟩
  have atEnd : ((finalState definition options).package context clients).catalogue.templates
      sections.endpoint.type = templates :=
    (SameCores.templates sameCores_spread _).trans offered.templates
  rw [atEnd]
  intro offers
  refine ⟨covers.unserved, covers.constant, covers.template, ?_⟩
  have whole : (∃ url, offers url) ↔
      servers = [] ∨ ∃ server ∈ servers, definition.looksReplaceable server = false :=
    covers.whole
  constructor
  · intro taken all server isServer
    -- Where all servers look replaceable, no whole URL is offered beside them.
    have none : ¬ ∃ url, offers url := by
      rw [whole]
      rintro (unserved | ⟨other, isOther, fixed⟩)
      · rw [unserved] at isServer
        cases isServer
      · rw [all other isOther] at fixed
        cases fixed
    -- To look replaceable takes an argument, and by assumption such a server is a placeholder.
    have arguments : definition.templateArguments server ≠ [] := by
      intro none
      have looks := all server isServer
      simp [Definition.looksReplaceable, none] at looks
    exact (taken server isServer arguments).resolve_right none
  · intro exact server isServer _
    -- If not all servers look replaceable, then a whole URL is offered for one that does not.
    by_cases all : ∀ other ∈ servers, definition.looksReplaceable other = true
    · exact Or.inl (exact all server isServer)
    · refine Or.inr (whole.mpr (Or.inr ?_))
      simpa using all

/--
Beacons are reached by their region and the tenant that they belong to.

The tenant is no argument of the server, so that its URL has two placeholders for a sole argument.
-/
def beacons : Definition where
  types := #[{ shape := .scalar { name := "string" } }]
  properties := #[{ name := "region", type := ⟨0⟩, binding := some (.path "region") }]
  containers := #[
    { name := "Beacons"
      service := some { servers :=
        [{ url := "\x7bregion\x7d.example.com/\x7btenant\x7d", arguments := [⟨0⟩] }] } }]

/-- Of the beacons it is told both what is offered and when any URL is taken. -/
theorem any_url_is_taken_iff_beacons :
    let context := Context.of beacons {}
    let servers := (context.serviceAt ⟨0⟩).servers
    ∃ package client, derivePackage beacons {} = .ok package ∧ client ∈ package.allClients ∧
      beacons.serviceRoot? client.origin = some ⟨0⟩ ∧
      ∃ endpoint rest, client.initialization.parameters = endpoint :: rest ∧
        endpoint.role = .endpoint ∧
        let offers := context.OffersWholeUrl ⟨0⟩ (package.catalogue.templates endpoint.type)
        (∀ server ∈ servers, ∃ template ∈ package.catalogue.templates endpoint.type,
          context.IsTemplateOf server template) ∧
        ((∀ server ∈ servers, beacons.templateArguments server ≠ [] →
            beacons.IsPlaceholder server ∨ ∃ url, offers url) ↔
          ((∀ server ∈ servers, beacons.looksReplaceable server = true) →
            ∀ server ∈ servers, beacons.IsPlaceholder server)) := by
  intro context servers
  -- That there is a client in the service is evaluated, and the theorem tells what it is made with.
  have found : ((Context.of beacons {}).clients.run {}).1.toOption.any fun clients =>
      clients.any fun client => beacons.serviceRoot? client.origin == some ⟨0⟩ := by
    decide +kernel
  obtain ⟨clients, run, derived⟩ :=
    derivePackage_of_isOk (by decide +kernel : (derivePackage beacons {}).isOk = true)
  -- From here on the run is known, and the check is read as a statement about it.
  rw [run] at found
  simp only [Except.toOption, Option.any_some, List.any_eq_true, beq_iff_eq] at found
  obtain ⟨client, isClient, inService⟩ := found
  have member := mem_walkAll.mpr ⟨client, isClient, mem_walk_self client⟩
  obtain ⟨endpoint, rest, parameters, isEndpoint, -, -, templates, taken⟩ :=
    any_url_is_taken_iff derived member inService
  refine ⟨_, client, derived, member, inService, endpoint, rest, parameters, isEndpoint,
    fun server isServer => templates server isServer ?_, taken⟩
  revert server
  decide +kernel

/-- The URL of beacons cannot be replaced, although it is more than a placeholder. -/
theorem template_may_be_taken_for_a_whole_url :
    let context := Context.of beacons {}
    ∃ package client, derivePackage beacons {} = .ok package ∧ client ∈ package.allClients ∧
      beacons.serviceRoot? client.origin = some ⟨0⟩ ∧
      ∃ endpoint ∈ client.initialization.parameters, endpoint.role = .endpoint ∧
        ∃ server ∈ (context.serviceAt ⟨0⟩).servers, beacons.templateArguments server ≠ [] ∧
          ¬ beacons.IsPlaceholder server ∧
          ∀ url, ¬ context.OffersWholeUrl ⟨0⟩ (package.catalogue.templates endpoint.type) url := by
  intro context
  -- No template of the endpoint is the one that takes a whole URL.
  have found : ((Context.of beacons {}).clients.run {}).1.toOption.any fun clients =>
      clients.any fun client => beacons.serviceRoot? client.origin == some ⟨0⟩ &&
        client.initialization.parameters.any fun endpoint => endpoint.role == .endpoint &&
          (((finalState beacons {}).package (Context.of beacons {}) clients).catalogue.templates
            endpoint.type).all fun template => template.serverUrl != "\x7bendpoint\x7d" := by
    decide +kernel
  obtain ⟨clients, run, derived⟩ :=
    derivePackage_of_isOk (by decide +kernel : (derivePackage beacons {}).isOk = true)
  rw [run] at found
  simp only [Except.toOption, Option.any_some, Bool.and_eq_true, List.any_eq_true, List.all_eq_true,
    beq_iff_eq, bne_iff_ne] at found
  obtain ⟨client, isClient, inService, endpoint, listed, isEndpoint, others⟩ := found
  refine ⟨_, client, derived, mem_walkAll.mpr ⟨client, isClient, mem_walk_self client⟩, inService,
    endpoint, listed, isEndpoint, _, List.mem_singleton_self _, by decide +kernel, ?_, ?_⟩
  · -- There is one argument, and the text around it makes the difference.
    rintro ⟨id, isArgument, whole⟩
    obtain rfl : id = ⟨0⟩ := by
      simpa using (isArgument.symm.trans (by decide +kernel : _ = [(⟨0⟩ : PropertyId)]))
    exact absurd whole (by decide +kernel)
  · rintro url ⟨string, offered⟩
    exact others _ offered rfl

end Derivation

end ClientModel
