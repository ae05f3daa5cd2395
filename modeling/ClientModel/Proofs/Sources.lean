import ClientModel.Proofs.Calls
import ClientModel.Proofs.Methods
import ClientModel.Proofs.Spread

/-!
Where the parameters of requests take their values from.

Sources are found while a client is derived. They stay good until the package is there, because
clients only take further parameters, and models keep their properties.
-/

namespace ClientModel

/--
A source can be read.

Its root is one of the given parameters, and a member of it is a property of the model that it
holds.
-/
structure Source.IsGiven (source : Source) (method client : List Property)
    (catalogue : Catalogue) : Prop where
  root : source.root ∈ method ∨ source.root ∈ client
  member : ∀ parent name, source = .member parent name →
    ∃ model, catalogue.model? parent.type = some model ∧ (model.property? name).isSome

/-- A parameter of a request has sources, all of which can be read. -/
def WireParameter.IsSupplied (wire : WireParameter) (method client : List Property)
    (catalogue : Catalogue) : Prop :=
  wire.sources ≠ [] ∧ ∀ source ∈ wire.sources, source.IsGiven method client catalogue

/-- All parameters of the request behind a method are supplied. -/
def Method.IsSupplied (method : Method) (client : List Property) (catalogue : Catalogue) : Prop :=
  ∀ operation, method.operation? = some operation →
    ∀ wire ∈ operation.wireParameters, wire.IsSupplied method.parameters client catalogue

/-- A property of a name is told by the names of the properties alone. -/
theorem ModelNode.property?_isSome {model : ModelNode} {name : String} :
    (model.property? name).isSome ↔ name ∈ model.properties.map Property.name := by
  simp [ModelNode.property?, List.find?_isSome]

/-- Marks do not affect the names of properties. -/
theorem ModelNode.names_plain (model : ModelNode) :
    model.plain.properties.map Property.name = model.properties.map Property.name := by
  simp only [ModelNode.plain, List.map_map]
  rfl

/-- What can be read is still there when more parameters and more properties are. -/
theorem Source.IsGiven.mono {source : Source} {method client client' : List Property}
    {catalogue catalogue' : Catalogue} (given : source.IsGiven method client catalogue)
    (more : ∀ parameter ∈ client, parameter ∈ client')
    (models : ∀ id model, catalogue.model? id = some model →
      ∃ later, catalogue'.model? id = some later ∧
        later.properties.map Property.name = model.properties.map Property.name) :
    source.IsGiven method client' catalogue' where
  root := given.root.imp_right (more source.root)
  member parent name isMember := by
    -- A model that is found later has the same members, going by their names.
    obtain ⟨model, known, named⟩ := given.member parent name isMember
    obtain ⟨later, found, same⟩ := models _ model known
    refine ⟨later, found, ?_⟩
    rw [ModelNode.property?_isSome, same, ← ModelNode.property?_isSome]
    exact named

namespace Derivation

open Service (Definition)

variable {context : Context}

/-! ## Choosing sources -/

/-- What a client supplies is one of its parameters. -/
theorem clientSupplier?_mem {client : ContainerId} {supply : Supply} {wanted found : Property}
    (supplier : context.clientSupplier? client supply wanted = some found) :
    found ∈ supply.clientParameters := by
  unfold Context.clientSupplier? at supplier
  -- It is a parameter that is the same, a version, or a subscription.
  dsimp only at supplier
  rcases Option.or_eq_some_iff.mp supplier with same | ⟨_, other⟩
  · exact List.mem_of_find?_eq_some same
  · rcases Option.or_eq_some_iff.mp other with version | ⟨_, subscription⟩
    · split at version
      · exact List.mem_of_find?_eq_some version
      · cases version
    · split at subscription
      · exact List.mem_of_find?_eq_some subscription
      · cases subscription

/-- What supplies a member is a parameter of the method or of the client. -/
theorem mem_memberSuppliers {supply : Supply} {members : List Property} {found : Property}
    (supplier : found ∈ context.memberSuppliers supply members) :
    found ∈ supply.methodParameters ∨ found ∈ supply.clientParameters := by
  -- A member is supplied by what is found first among the parameters of the client and of the
  -- method.
  obtain ⟨member, _, first⟩ := List.mem_filterMap.mp supplier
  exact (List.mem_append.mp (List.mem_of_find?_eq_some first)).symm

/-- A holder is a method parameter, and the member that it names belongs to its model. -/
theorem holder?_isGiven {supply : Supply} {wanted : Property} {source : Source}
    (holder : context.holder? supply wanted = some source) :
    source.IsGiven supply.methodParameters supply.clientParameters supply.catalogue := by
  -- The holder is the first parameter whose model has a property of the name.
  obtain ⟨parameter, taken, held⟩ := List.exists_of_findSome?_eq_some holder
  simp only [Option.bind_eq_bind, Option.bind_eq_some_iff] at held
  obtain ⟨model, isModel, member, found, made⟩ := held
  cases made
  refine ⟨Or.inl taken, fun parent name isMember => ?_⟩
  cases isMember
  refine ⟨model, isModel, ?_⟩
  rw [ModelNode.property?_isSome]
  exact List.mem_map_of_mem (List.mem_of_find?_eq_some found)

/-- Whatever is found are sources that can be read, and there is at least one. -/
theorem sources_isSupplied {operation : OperationId} {client : ContainerId} {supply : Supply}
    {wanted : Property} {sources : List Source}
    (found : context.sources operation client supply wanted = .ok sources) :
    sources ≠ [] ∧ ∀ source ∈ sources,
      source.IsGiven supply.methodParameters supply.clientParameters supply.catalogue := by
  -- A parameter as a whole has no member to be read.
  have whole {parameter : Property}
      (taken : parameter ∈ supply.methodParameters ∨ parameter ∈ supply.clientParameters) :
      (Source.parameter parameter).IsGiven supply.methodParameters supply.clientParameters
        supply.catalogue :=
    ⟨taken, fun _ _ isMember => by cases isMember⟩
  unfold Context.sources at found
  split at found
  · -- A parameter of the client or of the method is the only source.
    rename_i parameter supplier
    cases found
    simp only [ne_eq, List.cons_ne_nil, not_false_eq_true, List.mem_singleton, forall_eq, true_and]
    refine whole ?_
    rcases Option.or_eq_some_iff.mp supplier with client | ⟨_, own⟩
    · exact Or.inr (clientSupplier?_mem client)
    · exact Or.inl (List.mem_of_find?_eq_some own)
  · dsimp only at found
    split at found
    · -- Every member of the body, of which there are some, has its own source.
      rename_i complete
      cases found
      simp only [Bool.and_eq_true, Bool.not_eq_true', beq_iff_eq,
        List.isEmpty_eq_false_iff] at complete
      constructor
      · intro none
        have noSupplier := List.map_eq_nil_iff.mp none
        have members := complete.2
        rw [noSupplier, List.length_nil] at members
        exact complete.1 (List.length_eq_zero_iff.mp members.symm)
      · intro source member
        obtain ⟨supplier, listed, rfl⟩ := List.mem_map.mp member
        exact whole (mem_memberSuppliers listed)
    · -- Otherwise a parameter that holds the wanted one is the source, or there is none and the
      -- search fails.
      split at found
      · rename_i source holder
        cases found
        simp only [ne_eq, List.cons_ne_nil, not_false_eq_true, List.mem_singleton, forall_eq,
          true_and]
        exact holder?_isGiven holder
      · split at found
        · cases found
        · cases found

/-! ## Deriving methods -/

/-- The parameters that the client of a container may use, among all that a run has found. -/
abbrev State.scopeOf (state : State) (context : Context) (client : ContainerId) : List Property :=
  state.parametersInScope context.definition client

/-- What is in scope of a client stays there. -/
theorem Grown.scopeOf {before after : State} (grown : Grown before after) (client : ContainerId) :
    ∀ parameter ∈ before.scopeOf context client, parameter ∈ after.scopeOf context client := by
  -- The containers around the client are those of before, and none of them loses a parameter.
  intro parameter inScope
  obtain ⟨container, around, taken⟩ := List.mem_flatMap.mp inScope
  exact List.mem_flatMap.mpr ⟨container, around, grown.parameters container parameter taken⟩

/-- A source that can be read can be read ever after. -/
theorem wire_lasting (wire : WireParameter) (method : List Property) (client : ContainerId) :
    Lasting fun state => wire.IsSupplied method (state.scopeOf context client) state.catalogue := by
  intro before after supplied grown
  -- A model that was known keeps its properties, as far as their names go.
  refine ⟨supplied.1, fun source member =>
    (supplied.2 source member).mono (grown.scopeOf client) ?_⟩
  intro id model known
  obtain ⟨later, found, same⟩ := grown.model? known
  refine ⟨later, found, ?_⟩
  rw [← later.names_plain, same, model.names_plain]

/-- What a method is supplied with can be read ever after. -/
theorem method_lasting (method : Method) (client : ContainerId) :
    Lasting fun state => method.IsSupplied (state.scopeOf context client) state.catalogue := by
  -- The request is in the method, so only its sources have to be readable later.
  intro before after supplied grown operation behind wire member
  exact wire_lasting wire _ client before after (supplied operation behind wire member) grown

/-- A parameter that is traced is supplied. -/
theorem traceParameter_isSupplied (operation : OperationId) (client : ContainerId)
    (parameters : List Property) (wanted : Property) :
    Yields (context.traceParameter operation client parameters wanted) fun wire state =>
      wire.IsSupplied parameters (state.scopeOf context client) state.catalogue := by
  unfold Context.traceParameter
  refine Ensures.get_bind fun current _ => Ensures.get_bind fun same isCurrent => ?_
  subst isCurrent
  -- Sources are looked for in the parameters and models that the state has at this point.
  refine Ensures.via (fun sources state => state = same ∧
    context.sources operation client
      { clientParameters := same.scopeOf context client
        methodParameters := parameters
        catalogue := same.catalogue } wanted = .ok sources) ?_ fun sources => ?_
  · exact Ensures.lift (fun _ _ found isSame => ⟨isSame, found⟩) fun _ _ _ _ => trivial
  · refine Ensures.pure ?_
    rintro state ⟨rfl, found⟩
    exact sources_isSupplied found

/-- Whatever a request sends is supplied by the parameters that the method ends up with. -/
theorem httpOperation_isSupplied (operation : OperationId) (client : ContainerId)
    (access : Access) (parameters : List Property) :
    Yields (context.httpOperation operation client access parameters) fun result state =>
      ∀ wire ∈ result.1.wireParameters,
        wire.IsSupplied result.2 (state.scopeOf context client) state.catalogue := by
  unfold Context.httpOperation
  -- The parameters of the method are settled before the first source is looked for.
  refine .after fun outcomes => .after fun wire => .after fun body => ?_
  refine .after fun negotiated => .after fun accepted => .after fun _ => ?_
  generalize context.dropUnusedSegments accepted.1 accepted.2 = final
  have lasts (wire : WireParameter) := @wire_lasting context wire final client
  have traces (wanted : Property) :=
    @traceParameter_isSupplied context operation client final wanted
  have grows (wanted : Property) (start : State) : Keeps (Grown start) (fun _ => True)
      (context.traceParameter operation client final wanted) :=
    Tolerant.all.searching.traceParameter operation client final wanted
  -- What was traced before the body stays supplied while the body is traced.
  refine Ensures.bind (Yields.mapM lasts grows traces _) fun traced => ?_
  have others : Lasting fun state => ∀ wire ∈ traced,
      wire.IsSupplied final (state.scopeOf context client) state.catalogue :=
    fun before after held grown wire member => lasts wire before after (held wire member) grown
  refine Ensures.via (fun tracedBody state => ∀ wire ∈ traced ++ tracedBody.toList,
    wire.IsSupplied final (state.scopeOf context client) state.catalogue) ?_ fun tracedBody =>
      Ensures.pure fun _ held => held
  cases body with
  | none => exact Ensures.pure fun _ held => by simpa using held
  | some wanted =>
    refine Ensures.map ?_
    refine ((traces wanted).beside others (grows wanted)).ending ?_
    rintro wire state ⟨earlier, found⟩ other member
    rcases List.mem_append.mp member with old | new
    · exact earlier other old
    · obtain rfl : wire = other := Option.some.inj (Option.mem_toList.mp new)
      exact found

/-- A method is supplied with all that its request sends. -/
theorem buildMethod_isSupplied (operation : OperationId) (client : ContainerId) :
    Yields (context.buildMethod operation client) fun method state =>
      method.IsSupplied (state.scopeOf context client) state.catalogue := by
  unfold Context.buildMethod
  refine .after fun parameters => ?_
  refine Ensures.bind (httpOperation_isSupplied operation client _ parameters) fun result => ?_
  have lasting : Lasting fun state => ∀ wire ∈ result.1.wireParameters,
      wire.IsSupplied result.2 (state.scopeOf context client) state.catalogue :=
    fun before after held grown wire member =>
      wire_lasting wire _ client before after (held wire member) grown
  -- What the method hands back, and how it ends, leaves its request as it is.
  have robust := lasting.robust context
  dsimp only
  refine Keeps.told ((robust.accruing client).methodResponse operation _ _) fun response => ?_
  refine Ensures.look fun current => ?_
  -- Whichever kind the method is of, its request is the one that was built.
  have done (response : MethodResponse) (pages : Option Paging) (progress : Option Polling)
      (method : Method) (isBuilt : method.kind = Context.methodKind
        { operation := result.1, response } pages progress)
      (takes : method.parameters = result.2) :
      Ensures (fun state => ∀ wire ∈ result.1.wireParameters,
          wire.IsSupplied result.2 (state.scopeOf context client) state.catalogue)
        (Pure.pure method : Derive Method)
        (fun method state => method.IsSupplied (state.scopeOf context client) state.catalogue)
        fun _ _ => True := by
    refine Ensures.pure fun state held operation behind wire member => ?_
    rw [Method.operation?, isBuilt, service?_methodKind] at behind
    cases behind
    rw [takes]
    exact held wire member
  split
  · exact Keeps.told ((robust.accruing client).polling? operation _ _ _) fun progress =>
      done _ _ progress _ rfl rfl
  · exact done _ _ none _ rfl rfl

/-- The forms in which a method is wanted concern neither its parameters nor its request. -/
theorem method_isSupplied (operation : OperationId) (client : ContainerId) :
    Yields (context.method operation client) fun method state =>
      method.IsSupplied (state.scopeOf context client) state.catalogue :=
  Context.method_yields (fun method => method_lasting method client)
    (buildMethod_isSupplied operation client) fun _ _ _ _ held => held

/-! ## Deriving clients -/

/-- Of all methods, it is told that they are supplied; an accessor sends no request. -/
theorem telling_isSupplied : Telling context fun container method state =>
    method.IsSupplied (state.scopeOf context container) state.catalogue where
  lasting container method := (method_lasting method container).enduring
  method container operation := method_isSupplied operation container
  accessor _ _ _ _ _ operation behind := by cases behind

/-! ## The package -/

/--
Whatever goes into the request of a method has sources, and all of them can be read.

A source is a parameter of the method or one that its client or a client around it takes; a member
of one is a property of the model that it holds in the package.
-/
theorem every_wire_parameter_is_supplied {definition : Definition} {options : Options}
    {package : Package} (derived : derivePackage definition options = .ok package) :
    ∀ client ∈ Client.walkAll package.clients, ∀ method ∈ client.methods, ∀ operation,
      method.operation? = some operation → ∀ wire ∈ operation.wireParameters,
        wire.sources ≠ [] ∧ ∀ source ∈ wire.sources,
          (source.root ∈ method.parameters ∨ source.root ∈
            (finalState definition options).parametersInScope definition client.origin) ∧
          ∀ parent name, source = .member parent name →
            ∃ model, package.catalogue.model? parent.type = some model ∧
              (model.property? name).isSome := by
  obtain ⟨clients, run, rfl⟩ := derivePackage_ok derived
  intro client below method member operation behind wire inRequest
  -- What was told along the run holds of all clients at its end.
  have supplied := telling_isSupplied.clients.ok trivial run
    client below method member operation behind wire inRequest
  refine ⟨supplied.1, fun source listed => ?_⟩
  -- Between the end of the run and the package, only usage and access change.
  have models : ∀ id model, (finalState definition options).catalogue.model? id = some model →
      ∃ later, ((finalState definition options).package (Context.of definition options)
        clients).catalogue.model? id = some later ∧
        later.properties.map Property.name = model.properties.map Property.name := by
    intro id model known
    have same := properties_spread (finalState definition options).catalogue
      (Context.of definition options).choices options.sparesBase
      (finalState definition options).seeds id
    rw [known] at same
    obtain ⟨later, found, properties⟩ := Option.map_eq_some_iff.mp same
    exact ⟨later, found, congrArg (List.map Property.name) properties⟩
  have given := (supplied.2 source listed).mono (fun _ inScope => inScope) models
  exact ⟨given.root, given.member⟩

/-- A service with a method that sends a pet, the name of the pet once more, and its version. -/
def shelter : Definition where
  types := #[{ shape := .scalar { name := "string" } },
    { shape := .model { name := some "Pet", properties := [⟨0⟩] } }]
  properties := #[{ name := "name", model := some ⟨1⟩, type := ⟨0⟩ },
    { name := "pet", type := ⟨1⟩ }, { name := "name", type := ⟨0⟩ },
    { name := "apiVersion", type := ⟨0⟩ }]
  operations := #[
    { name := "admit", container := ⟨0⟩, verb := .put, path := "/pets"
      parameters := [⟨1⟩, ⟨3⟩]
      slots := [⟨⟨2⟩, some .query⟩, ⟨⟨3⟩, some .query⟩]
      bodies := [{ property := some ⟨1⟩, type := ⟨1⟩ }] }]
  containers := #[
    { name := "Shelter", operations := [⟨0⟩], service := some { apiVersions := ["1"] } }]

/-- In the shelter a package is derived, and each wire parameter has its sources. -/
theorem every_wire_parameter_is_supplied_shelter :
    ∃ package, derivePackage shelter {} = .ok package ∧
      ∀ client ∈ Client.walkAll package.clients, ∀ method ∈ client.methods, ∀ operation,
        method.operation? = some operation → ∀ wire ∈ operation.wireParameters,
          wire.sources ≠ [] ∧ ∀ source ∈ wire.sources,
            (source.root ∈ method.parameters ∨ source.root ∈
              (finalState shelter {}).parametersInScope shelter client.origin) ∧
            ∀ parent name, source = .member parent name →
              ∃ model, package.catalogue.model? parent.type = some model ∧
                (model.property? name).isSome := by
  -- That there is a package is decided; what holds of it is told by the theorem.
  have isOk : (derivePackage shelter {}).isOk = true := by decide +kernel
  cases derived : derivePackage shelter {} with
  | error failure => simp [derived, Except.isOk, Except.toBool] at isOk
  | ok package => exact ⟨package, rfl, every_wire_parameter_is_supplied derived⟩

end Derivation

end ClientModel
