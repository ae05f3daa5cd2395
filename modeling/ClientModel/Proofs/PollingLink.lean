import ClientModel.Derivation.Methods
import ClientModel.Proofs.OrderedMap
import ClientModel.Proofs.Steps

/-!
Where the parameters of a polling operation take their values from.

The first directive for a parameter that can be followed goes before names, and of the values that a
name suits the first one is taken: those of the request before those of the responses. Directives
that make no sense are reported, in order, and count for nothing else.
-/

namespace ClientModel.Derivation

open Service (Definition Directive DirectiveSource Operation PollingDecl)

/-! ## The values of an exchange -/

section

variable (definition : Definition) (operation : Operation)

/-- The first value of a request that passes a test: parameters go before what bodies carry. -/
def requestValue? (test : PropertyId → Bool) : Option LinkSource :=
  (((operation.slots.map (·.property)).find? test).map
      (linkSource definition .requestParameter)).or
    ((operation.bodies.findSome? fun body => (definition.payloadMembers body.type).find? test).map
      (linkSource definition .requestBody))

/-- The first value of the responses that passes a test: in each response, headers go first. -/
def responseValue? (test : PropertyId → Bool) : Option LinkSource :=
  operation.responses.findSome? fun response =>
    ((response.headers.find? test).map (linkSource definition .responseHeader)).or
      ((response.body.bind fun body => (definition.payloadMembers body.type).find? test).map
        (linkSource definition .responseBody))

/-- The property has a name. -/
def isNamed (name : String) (id : PropertyId) : Bool :=
  (definition.propertyAt id).name == name

/-- The value that a directive asks for. -/
def directedValue? : DirectiveSource → Option LinkSource
  | .request name => requestValue? definition operation (isNamed definition name)
  | .response name => responseValue? definition operation (isNamed definition name)

/-- The value that a polling parameter takes without a directive: by its name or by a mark. -/
def customaryValue? (target : String) : Option LinkSource :=
  let suits (id : PropertyId) : Bool :=
    isNamed definition target id ||
      (definition.propertyAt id).markers.pollingParameter == some target
  (requestValue? definition operation suits).or (responseValue? definition operation suits)

/-- The property needs a value when an operation polls: it is sent, beside a body or within one. -/
def NeedsValue (id : PropertyId) : Prop :=
  (∃ slot ∈ operation.slots, slot.property = id ∧
      definition.isVoidLike (definition.propertyAt id).type = false) ∨
    ∃ body ∈ operation.bodies, id ∈ definition.payloadMembers body.type

/-- Some property of a name needs a value when an operation polls. -/
def IsPollingParameter (name : String) : Prop :=
  ∃ id, NeedsValue definition operation id ∧ (definition.propertyAt id).name = name

/-- The first parameter of a name, beside the bodies if there is one. -/
def targetNamed? (name : String) : Option LinkTarget :=
  (linkTargets definition operation).find? fun target => target.name == name

variable {definition operation}

/-! ## Sources and targets in order -/

/-- Of the sources, those of the request come first. -/
theorem find?_linkSources (test : LinkSource → Bool) :
    (linkSources definition operation).find? test =
      ((((operation.slots.map (·.property)).find?
            (test ∘ linkSource definition .requestParameter)).map
          (linkSource definition .requestParameter)).or
        ((operation.bodies.findSome? fun body =>
            (definition.payloadMembers body.type).find?
              (test ∘ linkSource definition .requestBody)).map
          (linkSource definition .requestBody))).or
      (operation.responses.findSome? fun response =>
        ((response.headers.find? (test ∘ linkSource definition .responseHeader)).map
            (linkSource definition .responseHeader)).or
          ((response.body.bind fun body => (definition.payloadMembers body.type).find?
              (test ∘ linkSource definition .responseBody)).map
            (linkSource definition .responseBody))) := by
  -- The sources are the parameters, the bodies and the responses in order; each part is searched
  -- alone.
  have slots : operation.slots.map (fun slot =>
        linkSource definition .requestParameter slot.property) =
      (operation.slots.map (·.property)).map (linkSource definition .requestParameter) := by
    rw [List.map_map]
    rfl
  have ofBody (body : Option Service.ResponseBody) :
      (body.toList.flatMap fun body =>
          (definition.payloadMembers body.type).map (linkSource definition .responseBody)).find?
            test =
        (body.bind fun body => (definition.payloadMembers body.type).find?
            (test ∘ linkSource definition .responseBody)).map
          (linkSource definition .responseBody) := by
    cases body with
    | none => rfl
    | some body => simp [List.find?_map]
  unfold linkSources
  rw [List.find?_append, List.find?_append, slots, List.find?_map, List.find?_flatMap,
    List.find?_flatMap]
  simp only [List.find?_append, List.find?_map, ofBody, List.map_findSome?]
  rfl

/-- Of the sources, a directive takes the one that it names on its side. -/
theorem directedSource?_linkSources (directive : Directive) :
    directedSource? (linkSources definition operation) directive =
      directedValue? definition operation directive.source := by
  unfold directedSource? directedValue?
  cases directive.source with
  | request name =>
    -- No value of a response passes the test.
    have responses : (operation.responses.findSome? fun response =>
        ((response.headers.find? fun _ => false).map
            (linkSource definition .responseHeader)).or
          ((response.body.bind fun body => (definition.payloadMembers body.type).find?
              fun _ => false).map (linkSource definition .responseBody))) = none := by
      simp
    refine (find?_linkSources _).trans ?_
    exact (congrArg _ responses).trans (Option.or_none)
  | response name =>
    -- The other way round, no value of a request passes it.
    have request : (((operation.slots.map (·.property)).find? fun _ => false).map
          (linkSource definition .requestParameter)).or
        ((operation.bodies.findSome? fun body =>
            (definition.payloadMembers body.type).find? fun _ => false).map
          (linkSource definition .requestBody)) = none := by
      simp
    refine (find?_linkSources _).trans ?_
    exact (congrArg (Option.or · _) request).trans (Option.none_or)

/-- A value of the name is looked for in the customary order. -/
theorem find?_fills (target : String) :
    ((linkSources definition operation).find? fun source => source.fills target) =
      customaryValue? definition operation target :=
  find?_linkSources _

/-- A name is that of a polling parameter just if one of the targets has it. -/
theorem isPollingParameter_iff (name : String) :
    IsPollingParameter definition operation name ↔
      ∃ target ∈ linkTargets definition operation, target.name = name := by
  unfold IsPollingParameter NeedsValue linkTargets
  simp only [List.mem_map, List.mem_append, List.mem_filter, List.mem_flatMap, Bool.not_eq_true']
  -- A target is a parameter that needs a value, or a property within a body.
  constructor
  · rintro ⟨id, ⟨slot, listed, rfl, carries⟩ | ⟨body, listed, within⟩, rfl⟩
    · exact ⟨_, ⟨slot.property, Or.inl ⟨slot, ⟨listed, carries⟩, rfl⟩, rfl⟩, rfl⟩
    · exact ⟨_, ⟨id, Or.inr ⟨body, listed, within⟩, rfl⟩, rfl⟩
  · rintro ⟨_, ⟨id, ⟨slot, ⟨listed, carries⟩, rfl⟩ | ⟨body, listed, within⟩, rfl⟩, rfl⟩
    · exact ⟨slot.property, Or.inl ⟨slot, listed, rfl, carries⟩, rfl⟩
    · exact ⟨id, Or.inr ⟨body, listed, within⟩, rfl⟩

/-- A target of the name is found just if there is such a polling parameter. -/
theorem targetNamed?_isSome_iff (name : String) :
    (targetNamed? definition operation name).isSome ↔
      IsPollingParameter definition operation name := by
  -- The search for a name stops at the first target of that name.
  rw [isPollingParameter_iff, targetNamed?, List.find?_isSome]
  simp only [beq_iff_eq]

/-- The target found for a name has this name. -/
theorem name_of_targetNamed? {name : String} {target : LinkTarget}
    (found : targetNamed? definition operation name = some target) : target.name = name := by
  simpa using List.find?_some found

end

/-! ## Directives -/

namespace Context

variable (context : Context) (initiating polling : OperationId)

/-- The value that the first directive for a parameter which can be followed asks for. -/
def directedTo? (directives : List Directive) (name : String) : Option LinkSource :=
  directives.findSome? fun directive =>
    if directive.target = name then
      directedValue? context.definition (context.definition.operationAt initiating) directive.source
    else none

/-- How a parameter of the polling operation gets its value, if it gets one. -/
def linkedBy? (declared : PollingDecl) (name : String) : Option PropertyMapping :=
  let definition := context.definition
  (targetNamed? definition (definition.operationAt declared.operation) name).bind fun target =>
    ((context.directedTo? initiating declared.directives name).or
      (customaryValue? definition (definition.operationAt initiating) name)).map target.mappedTo

/-- Every parameter of the polling operation gets a value from the exchange that is followed. -/
def Links (declared : PollingDecl) : Prop :=
  ∀ name, IsPollingParameter context.definition
      (context.definition.operationAt declared.operation) name →
    (context.linkedBy? initiating declared name).isSome

/-- An error at the operation that is to be followed. -/
def linkError (code message : String) : Diagnostic :=
  { target := some (.operation initiating), severity := .error, code := some code, message }

/-- The report on a value that a directive asks for and that is not there. -/
def missingValueReport : DirectiveSource → Diagnostic
  | .request name =>
    linkError initiating Code.invalidRequestParameter
      ("'" ++ name ++ "' is not a request parameter of '" ++ context.declaredName initiating ++ "'")
  | .response name =>
    linkError initiating Code.invalidResponseProperty
      ("'" ++ name ++ "' is not a response property of '" ++ context.declaredName initiating ++ "'")

/--
The report on a directive that comes after others, if it makes no sense: it is for no parameter, or
for one that has its value, or it asks for a value that is not there.
-/
def directiveReport? (earlier : List Directive) (directive : Directive) : Option Diagnostic :=
  let definition := context.definition
  if (targetNamed? definition (definition.operationAt polling) directive.target).isNone then
    some (linkError initiating Code.invalidLinkTarget
      ("'" ++ directive.target ++ "' is not a parameter of polling operation '" ++
        context.declaredName polling ++ "'"))
  else if (context.directedTo? initiating earlier directive.target).isSome then
    some (linkError initiating Code.conflictingParameterMapping
      ("polling parameter '" ++ directive.target ++ "' is mapped more than once"))
  else if (directedValue? definition (definition.operationAt initiating) directive.source).isNone
    then some (context.missingValueReport initiating directive.source)
  else none

/-- The reports on directives that come after others, in order. -/
def directiveReports (earlier : List Directive) : List Directive → List Diagnostic
  | [] => []
  | directive :: later =>
    (context.directiveReport? initiating polling earlier directive).toList ++
      directiveReports (earlier ++ [directive]) later

/-- The parameters of the polling operation that get no value, in order. -/
def unlinked (declared : PollingDecl) : List String :=
  ((linkTargets context.definition (context.definition.operationAt declared.operation)).map
    LinkTarget.name).filter fun name => (context.linkedBy? initiating declared name).isNone

/-- The one report on all parameters that get no value, if there are any. -/
def unlinkedReport? (declared : PollingDecl) : Option Diagnostic :=
  let names := context.unlinked initiating declared
  if names.isEmpty then none
  else some
    { target := some (.operation initiating)
      severity := .warning
      code := some Code.invalidPollingLink
      message := "no value found for polling parameter(s) " ++ ", ".intercalate names ++ " of '" ++
        context.declaredName declared.operation ++ "'" }

/-- A map holds what directives say: the value of each parameter that one of them gives a value. -/
structure Follows (directives : List Directive) (links : LinkMap) : Prop where
  get? : ∀ name, links.get? name =
    (targetNamed? context.definition (context.definition.operationAt polling) name).bind
      fun target => (context.directedTo? initiating directives name).map target.mappedTo

variable {context initiating polling}

/-- A directive is reported just if it cannot be followed. -/
theorem directiveReport?_isSome_iff (earlier : List Directive) (directive : Directive) :
    (context.directiveReport? initiating polling earlier directive).isSome ↔
      ¬IsPollingParameter context.definition (context.definition.operationAt polling)
          directive.target ∨
        (context.directedTo? initiating earlier directive.target).isSome ∨
        (directedValue? context.definition (context.definition.operationAt initiating)
          directive.source).isNone := by
  rw [← targetNamed?_isSome_iff, Bool.not_eq_true, Option.isSome_eq_false_iff]
  -- The cases are those in which a directive is reported: no such parameter, a value already, no
  -- source.
  unfold directiveReport?
  dsimp only
  split
  · rename_i unknown
    exact ⟨fun _ => Or.inl unknown, fun _ => rfl⟩
  · rename_i known
    split
    · rename_i has
      exact ⟨fun _ => Or.inr (Or.inl has), fun _ => rfl⟩
    · rename_i free
      split
      · rename_i missing
        exact ⟨fun _ => Or.inr (Or.inr missing), fun _ => rfl⟩
      · rename_i found
        simp only [known, free, found, Option.isSome_none, Bool.false_eq_true, or_self]

/-- What later directives direct counts if the earlier ones direct nothing. -/
theorem directedTo?_append (earlier later : List Directive) (name : String) :
    context.directedTo? initiating (earlier ++ later) name =
      (context.directedTo? initiating earlier name).or
        (context.directedTo? initiating later name) :=
  List.findSome?_append

/-- One directive directs a value to the parameter that it names. -/
theorem directedTo?_singleton (directive : Directive) (name : String) :
    context.directedTo? initiating [directive] name =
      if directive.target = name then
        directedValue? context.definition (context.definition.operationAt initiating)
          directive.source
      else none :=
  List.findSome?_singleton

/-- To report a missing source adds the report and nothing else. -/
theorem reportMissingSource_run (directive : Directive) (state : State) :
    context.reportMissingSource initiating directive state =
      (.ok (), { state with
        diagnostics :=
          state.diagnostics.add (context.missingValueReport initiating directive.source) }) := by
  unfold reportMissingSource
  cases directive.source <;> rfl

/-- A directive that is reported changes no value. -/
theorem directedTo?_of_reported {earlier : List Directive} {directive : Directive}
    {report : Diagnostic}
    (reported : context.directiveReport? initiating polling earlier directive = some report)
    {name : String} {target : LinkTarget}
    (named : targetNamed? context.definition (context.definition.operationAt polling) name =
      some target) :
    context.directedTo? initiating (earlier ++ [directive]) name =
      context.directedTo? initiating earlier name := by
  -- Only a directive for this very name could give it a value.
  rw [directedTo?_append, directedTo?_singleton]
  split
  · rename_i isTarget
    subst isTarget
    unfold directiveReport? at reported
    simp only [named, Option.isNone_some, Bool.false_eq_true, if_false] at reported
    split at reported
    -- Either the parameter has its value already, or there is none to be had.
    · rename_i has
      obtain ⟨value, found⟩ := Option.isSome_iff_exists.mp has
      rw [found, Option.some_or]
    · split at reported
      · rename_i missing
        rw [Option.isNone_iff_eq_none.mp missing, Option.or_none]
      · cases reported
  · exact Option.or_none

/-- A parameter has its value just if a directive gave it one. -/
theorem Follows.contains {directives : List Directive} {links : LinkMap}
    (follows : context.Follows initiating polling directives links) {name : String}
    {target : LinkTarget}
    (named : targetNamed? context.definition (context.definition.operationAt polling) name =
      some target) :
    links.contains target.name = (context.directedTo? initiating directives name).isSome := by
  rw [OrderedMap.contains, name_of_targetNamed? named, follows.get?, named, Option.bind_some,
    Option.isSome_map]

/-- A directive that is reported leaves the links as they follow. -/
theorem Follows.of_reported {earlier : List Directive} {links : LinkMap}
    (follows : context.Follows initiating polling earlier links) {directive : Directive}
    {report : Diagnostic}
    (reported : context.directiveReport? initiating polling earlier directive = some report) :
    context.Follows initiating polling (earlier ++ [directive]) links where
  -- A directive that is reported leads to no target, so the last one that does is the one of
  -- before.
  get? name := by
    rw [follows.get?]
    cases named : targetNamed? context.definition (context.definition.operationAt polling) name with
    | none => rfl
    | some target => rw [directedTo?_of_reported reported named]

/-- A directive that is followed gives its parameter the value that it asks for. -/
theorem Follows.insert {earlier : List Directive} {links : LinkMap}
    (follows : context.Follows initiating polling earlier links) {directive : Directive}
    {target : LinkTarget} {source : LinkSource}
    (named : targetNamed? context.definition (context.definition.operationAt polling)
      directive.target = some target)
    (free : context.directedTo? initiating earlier directive.target = none)
    (found : directedValue? context.definition (context.definition.operationAt initiating)
      directive.source = some source) :
    context.Follows initiating polling (earlier ++ [directive])
      (links.insert target.name (target.mappedTo source)) where
  -- The value is found under the name of the target, and every other name is as before.
  get? name := by
    rw [directedTo?_append, directedTo?_singleton, OrderedMap.get?_insert,
      name_of_targetNamed? named]
    by_cases isTarget : name = directive.target
    · subst isTarget
      simp [named, free, found]
    · rw [if_neg (by simpa using isTarget), if_neg (Ne.symm isTarget), Option.or_none,
        follows.get?]

/-- A directive sets at most the value of its parameter, and is reported if it does not. -/
theorem followDirective_run {earlier : List Directive} {links : LinkMap}
    (follows : context.Follows initiating polling earlier links) (directive : Directive)
    (state : State) :
    ∃ next, context.Follows initiating polling (earlier ++ [directive]) next ∧
      context.followDirective initiating polling
          (linkSources context.definition (context.definition.operationAt initiating))
          (linkTargets context.definition (context.definition.operationAt polling)) links directive
          state =
        (.ok next, { state with
          diagnostics := ⟨state.diagnostics.reports ++
            (context.directiveReport? initiating polling earlier directive).toList⟩ }) := by
  -- What is reported changes no link.
  have reported {report : Diagnostic}
      (reports : context.directiveReport? initiating polling earlier directive = some report)
      {run : Except Failure LinkMap × State}
      (runs : run = (.ok links, { state with diagnostics := state.diagnostics.add report })) :
      ∃ next, context.Follows initiating polling (earlier ++ [directive]) next ∧
        run = (.ok next, { state with
          diagnostics := ⟨state.diagnostics.reports ++
            (context.directiveReport? initiating polling earlier directive).toList⟩ }) :=
    ⟨links, follows.of_reported reports, by rw [runs, reports]; rfl⟩
  unfold followDirective
  cases named : targetNamed? context.definition (context.definition.operationAt polling)
      directive.target with
  | none =>
    -- A target that is no parameter of the polling operation is reported.
    simp only [show (linkTargets context.definition
      (context.definition.operationAt polling)).find? (fun target =>
        target.name == directive.target) = none from named]
    refine reported (by rw [directiveReport?, named]; rfl) ?_
    rfl
  | some target =>
    have isNamed := name_of_targetNamed? named
    simp only [show (linkTargets context.definition
      (context.definition.operationAt polling)).find? (fun target =>
        target.name == directive.target) = some target from named]
    -- The parameter has a value already, or the source is looked for.
    rw [follows.contains named, directedSource?_linkSources]
    cases directed : context.directedTo? initiating earlier directive.target with
    | some value =>
      refine reported (by simp only [directiveReport?, named, directed]; rfl) ?_
      rw [isNamed]
      rfl
    | none =>
      cases found : directedValue? context.definition
          (context.definition.operationAt initiating) directive.source with
      | none =>
        refine reported (by simp only [directiveReport?, named, directed, found]; rfl) ?_
        exact bind_ok (reportMissingSource_run directive state)
      | some source =>
        refine ⟨_, follows.insert named directed found, ?_⟩
        have unreported :
            context.directiveReport? initiating polling earlier directive = none := by
          simp only [directiveReport?, named, directed, found]
          rfl
        rw [unreported, Option.toList_none, List.append_nil]
        rfl

/-- What directives say is followed in order, and so are they reported. -/
theorem followDirectives_run (directives : List Directive) :
    ∀ {earlier : List Directive} {links : LinkMap},
      context.Follows initiating polling earlier links → ∀ state : State,
        ∃ next, context.Follows initiating polling (earlier ++ directives) next ∧
          directives.foldlM (context.followDirective initiating polling
              (linkSources context.definition (context.definition.operationAt initiating))
              (linkTargets context.definition (context.definition.operationAt polling))) links
              state =
            (.ok next, { state with
              diagnostics := ⟨state.diagnostics.reports ++
                context.directiveReports initiating polling earlier directives⟩ }) := by
  -- By induction on the directives, with those before them generalised.
  induction directives with
  | nil =>
    intro earlier links follows state
    exact ⟨links, by rwa [List.append_nil], by rw [directiveReports, List.append_nil]; rfl⟩
  | cons directive later ih =>
    intro earlier links follows state
    obtain ⟨between, stillFollows, first⟩ := followDirective_run follows directive state
    obtain ⟨next, follows, rest⟩ := ih stillFollows _
    refine ⟨next, by rwa [List.append_assoc] at follows, ?_⟩
    rw [List.foldlM_cons, bind_ok first, rest, directiveReports, List.append_assoc]

/-! ## Names -/

/-- A link by name is set for its target unless there is one already. -/
theorem get?_linkByName (sources : List LinkSource) (links : LinkMap) (target : LinkTarget)
    (name : String) :
    (linkByName sources links target).get? name =
      (links.get? name).or
        (if target.name = name then
          (sources.find? fun source => source.fills name).map target.mappedTo
        else none) := by
  unfold linkByName
  -- Only the name of the target is concerned, and a link that is there stays.
  by_cases isTarget : target.name = name
  · subst isTarget
    rw [if_pos rfl, OrderedMap.contains]
    cases known : links.get? target.name with
    | some mapping => simp [known]
    | none =>
      cases sources.find? fun source => source.fills target.name with
      | none => simp [known]
      | some source => simp
  · rw [if_neg isTarget, Option.or_none]
    split
    · rfl
    · split
      · exact OrderedMap.get?_insert_ne links _ (Ne.symm isTarget)
      · rfl

/-- Links by name leave the links that are there, and go by the first target of each name. -/
theorem get?_foldl_linkByName (sources : List LinkSource) (targets : List LinkTarget)
    (name : String) :
    ∀ links : LinkMap, (targets.foldl (linkByName sources) links).get? name =
      (links.get? name).or ((targets.find? fun target => target.name == name).bind fun target =>
        (sources.find? fun source => source.fills name).map target.mappedTo) := by
  -- By induction on the targets: of those with one name the first decides, as the others find it
  -- set.
  induction targets with
  | nil =>
    intro links
    simp
  | cons target targets ih =>
    intro links
    rw [List.foldl_cons, ih, get?_linkByName, Option.or_assoc, List.find?_cons]
    by_cases isTarget : target.name = name
    · -- A name that no source suits has no link by a later target either.
      simp only [if_pos isTarget, show (target.name == name) = true by simpa using isTarget,
        Option.bind_some]
      cases sources.find? fun source => source.fills name with
      | none => simp
      | some source => simp
    · simp only [if_neg isTarget, show (target.name == name) = false by simpa using isTarget,
        Option.none_or]

/-! ## Links -/

/-- Directives first and names after them give every parameter the value that it is to have. -/
theorem Follows.links {declared : PollingDecl} {directed : LinkMap}
    (follows : context.Follows initiating declared.operation declared.directives directed)
    (name : String) :
    ((linkTargets context.definition (context.definition.operationAt declared.operation)).foldl
        (linkByName (linkSources context.definition (context.definition.operationAt initiating)))
        directed).get? name = context.linkedBy? initiating declared name := by
  -- What is linked is read off both lists in the same manner.
  simp only [get?_foldl_linkByName, follows.get?, find?_fills, linkedBy?, targetNamed?]
  cases (linkTargets context.definition
      (context.definition.operationAt declared.operation)).find? fun target =>
        target.name == name with
  | none => rfl
  | some target => cases context.directedTo? initiating declared.directives name <;> rfl

/-- Unlinked is a polling parameter that gets no value from anywhere. -/
theorem mem_unlinked {declared : PollingDecl} {name : String} :
    name ∈ context.unlinked initiating declared ↔
      IsPollingParameter context.definition (context.definition.operationAt declared.operation)
        name ∧ context.linkedBy? initiating declared name = none := by
  -- The names of targets are filtered, and what is left has no value.
  unfold unlinked
  rw [List.mem_filter, List.mem_map, isPollingParameter_iff, Option.isNone_iff_eq_none]

/-- Only parameters of the polling operation get values. -/
theorem isPollingParameter_of_linkedBy? {declared : PollingDecl} {name : String}
    {mapping : PropertyMapping}
    (linked : context.linkedBy? initiating declared name = some mapping) :
    IsPollingParameter context.definition (context.definition.operationAt declared.operation)
      name := by
  -- A value is looked for only where a target of the name was found.
  obtain ⟨target, named, _⟩ := Option.bind_eq_some_iff.mp linked
  exact (targetNamed?_isSome_iff name).mp (by rw [named]; rfl)

/-- A directive that is reported gives no parameter its value. -/
theorem linkedBy?_without_reported {declared : PollingDecl} {before after : List Directive}
    {directive : Directive} (among : declared.directives = before ++ directive :: after)
    (reported : (context.directiveReport? initiating declared.operation before directive).isSome)
    (name : String) :
    context.linkedBy? initiating { declared with directives := before ++ after } name =
      context.linkedBy? initiating declared name := by
  obtain ⟨report, reports⟩ := Option.isSome_iff_exists.mp reported
  unfold linkedBy?
  -- Without a parameter of the name nothing is linked in either case.
  cases named : targetNamed? context.definition
      (context.definition.operationAt declared.operation) name with
  | none => simp only [named, Option.bind_none]
  | some target =>
    have same : context.directedTo? initiating (before ++ after) name =
        context.directedTo? initiating declared.directives name := by
      rw [among, List.append_cons, directedTo?_append, directedTo?_append,
        directedTo?_of_reported reports named]
    simp only [named, same]

/-- Nothing is missing just if every parameter of the polling operation gets a value. -/
theorem unlinkedReport?_isNone_iff {declared : PollingDecl} :
    (context.unlinkedReport? initiating declared).isNone ↔ context.Links initiating declared := by
  -- There is a report just if some name is unlinked.
  have empty : (context.unlinkedReport? initiating declared).isNone ↔
      context.unlinked initiating declared = [] := by
    unfold unlinkedReport?
    cases context.unlinked initiating declared <;> simp
  rw [empty, List.eq_nil_iff_forall_not_mem]
  refine forall_congr' fun name => ?_
  rw [mem_unlinked, not_and, Option.isSome_iff_ne_none]

variable (context initiating) in
/-- A run comes to the links by directives and names if none is missing, and takes its reports. -/
theorem linkMap?_outcome (declared : PollingDecl) (state : State) :
    ∃ links : LinkMap, (∀ name, links.get? name = context.linkedBy? initiating declared name) ∧
      context.linkMap? initiating declared state =
        (.ok (if (context.unlinkedReport? initiating declared).isNone then some links else none),
          { state with
            diagnostics := ⟨state.diagnostics.reports ++
              context.directiveReports initiating declared.operation [] declared.directives ++
              (context.unlinkedReport? initiating declared).toList⟩ }) := by
  have nothing : context.Follows initiating declared.operation [] {} :=
    { get? := fun name => by
        cases targetNamed? context.definition (context.definition.operationAt declared.operation)
          name <;> rfl }
  obtain ⟨directed, follows, run⟩ := followDirectives_run declared.directives nothing state
  rw [List.nil_append] at follows
  -- The targets that the links lack are the ones that get no value.
  have unmatched : (((linkTargets context.definition
      (context.definition.operationAt declared.operation)).filter fun target =>
        !((linkTargets context.definition
            (context.definition.operationAt declared.operation)).foldl
          (linkByName (linkSources context.definition
            (context.definition.operationAt initiating))) directed).contains target.name).map
      LinkTarget.name) = context.unlinked initiating declared := by
    unfold unlinked
    rw [List.filter_map]
    refine congrArg _ (List.filter_congr fun target _ => ?_)
    rw [OrderedMap.contains, follows.links, Function.comp_apply, Option.not_isSome]
  refine ⟨_, follows.links, ?_⟩
  unfold linkMap?
  -- Following the directives comes first, and linking by name notes nothing.
  refine (bind_ok run).trans ?_
  rw [unlinkedReport?, ← unmatched, List.isEmpty_map]
  split
  · rw [Option.toList_none, List.append_nil]
    rfl
  · rfl

/-- What a run has found once all values for polling are settled, with its reports. -/
def linkNoted (context : Context) (initiating : OperationId) (declared : PollingDecl)
    (state : State) : State :=
  { state with
    diagnostics := ⟨state.diagnostics.reports ++
      context.directiveReports initiating declared.operation [] declared.directives ++
      (context.unlinkedReport? initiating declared).toList⟩ }

variable (context initiating) in
/-- Without a value for each parameter there is no link; with them, it is up to the monitor. -/
theorem link?_outcome (declared : PollingDecl) (access : Access) (state : State) :
    ∃ links : LinkMap, (∀ name, links.get? name = context.linkedBy? initiating declared name) ∧
      (¬context.Links initiating declared →
        context.link? initiating declared access state =
          (.ok none, context.linkNoted initiating declared state)) ∧
      (context.Links initiating declared → ∀ outcome next,
        context.statusMonitor? declared.operation access
            (context.linkNoted initiating declared state) = (outcome, next) →
          context.link? initiating declared access state =
            (outcome.map fun monitor => some
              { operation := context.operationRef declared.operation
                parameters := links
                url := context.pollingUrl? initiating
                monitor }, next)) := by
  obtain ⟨links, values, run⟩ := linkMap?_outcome context initiating declared state
  refine ⟨links, values, fun missing => ?_, fun linked outcome next monitored => ?_⟩
  · rw [if_neg (mt unlinkedReport?_isNone_iff.mp missing)] at run
    exact bind_ok run
  · rw [if_pos (unlinkedReport?_isNone_iff.mpr linked)] at run
    refine (bind_ok run).trans ?_
    -- The rest of the link is read off the definition.
    cases outcome with
    | ok monitor => exact bind_ok monitored
    | error failure => exact bind_error monitored

/-- A link fails just if all values are there, but the monitor cannot be derived. -/
theorem link?_error_iff {declared : PollingDecl} {access : Access} {state next : State}
    {failure : Failure} :
    context.link? initiating declared access state = (.error failure, next) ↔
      context.Links initiating declared ∧
        context.statusMonitor? declared.operation access
          (context.linkNoted initiating declared state) = (.error failure, next) := by
  obtain ⟨links, -, unlinked, linked⟩ := link?_outcome context initiating declared access state
  -- By whether all values are at hand: without them the outcome is none, else the monitor's.
  constructor
  · intro fails
    by_cases isLinked : context.Links initiating declared
    · refine ⟨isLinked, ?_⟩
      cases monitored : context.statusMonitor? declared.operation access
          (context.linkNoted initiating declared state) with
      | mk outcome last =>
        rw [linked isLinked outcome last monitored] at fails
        cases outcome with
        | ok monitor => cases fails
        | error other =>
          cases fails
          rfl
    · rw [unlinked isLinked] at fails
      cases fails
  · rintro ⟨isLinked, fails⟩
    exact linked isLinked _ _ fails

/-- What is declared to poll fails just if its link does. -/
theorem polling?_error_iff {declared : PollingDecl} {access : Access} {response : MethodResponse}
    {state next : State} {failure : Failure} :
    context.polling? initiating declared access response state = (.error failure, next) ↔
      context.link? initiating declared access state = (.error failure, next) := by
  refine ⟨fun fails => ?_, bind_error⟩
  unfold polling? at fails
  -- If the link comes to an end, then what is left to do cannot fail.
  cases run : context.link? initiating declared access state with
  | mk outcome between =>
    cases outcome with
    | error other =>
      rw [bind_error run] at fails
      cases fails
      rfl
    | ok found =>
      rw [bind_ok run] at fails
      -- Whether there is a link and a monitor or not, a warning is the most that follows.
      cases found with
      | none => cases fails
      | some link =>
        obtain ⟨polled, parameters, url, monitor⟩ := link
        cases monitor with
        | none => cases fails
        | some monitor => cases fails

end Context

end ClientModel.Derivation
