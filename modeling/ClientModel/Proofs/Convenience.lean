import ClientModel.Proofs.Completeness
import ClientModel.Proofs.TwinPackages

/-!
What becomes of a package when one operation is no longer wanted on typed values.

The operation stays a method of the same client, and all types stay where they are. Only what the
types are used for may become less, and with it what is told from usage.
-/

namespace ClientModel

/-- The method as it is without a form on typed values, if an operation is behind it. -/
def Method.unwanted (operation : OperationId) (method : Method) : Method :=
  if method.origin == some operation then { method with isConvenient := false } else method

/-- The subtypes that a model lists, by the values that each is known by. -/
def ModelNode.listed (model : ModelNode) : List (String × NodeId) :=
  (model.subtypes.map OrderedMap.entries).getD []

/-- The report is on a body that is sent both as a multipart message and otherwise. -/
def Diagnostic.isConflict (report : Diagnostic) : Bool :=
  report.hasCode Code.conflictingMultipartUsage

/-- A package uses no more of the same types than another does. -/
structure Package.UsesLess (whole part : Package) : Prop where
  /-- Nodes differ in usage and access alone, and in the subtypes that are left of a model. -/
  catalogue : part.catalogue.map Node.stem = whole.catalogue.map Node.stem
  usage : ∀ id usage, (part.catalogue.nodeAt id).usage? = some usage →
    ∃ more, (whole.catalogue.nodeAt id).usage? = some more ∧ usage.Subset more
  subtypes : ∀ id model, part.catalogue.model? id = some model →
    ∃ more, whole.catalogue.model? id = some more ∧ model.listed.Sublist more.listed
  models : part.models.Sublist whole.models
  enums : part.enums.Sublist whole.enums
  unions : part.unions.Sublist whole.unions
  reports : part.diagnostics.filter (!·.isConflict) = whole.diagnostics.filter (!·.isConflict)
  conflicts : part.diagnostics.filter (·.isConflict) ⊆ whole.diagnostics.filter (·.isConflict)

namespace Derivation

open Service (Choices Definition)

/-! ## Spreading fewer seeds -/

section

variable {catalogue : Catalogue} {choices : Choices} {sparesBase : Bool} {seeds more : List Seed}
  (kept : seeds ⊆ more)
include kept

/-- A node that is used with fewer seeds is used with more. -/
theorem isUsed_mono {id : NodeId}
    (used : ((spread catalogue choices sparesBase seeds).nodeAt id).usage?.any
      fun usage => !usage.isEmpty) :
    ((spread catalogue choices sparesBase more).nodeAt id).usage?.any
      fun usage => !usage.isEmpty := by
  -- The usage grows with the seeds, and what holds one that is not empty is not empty.
  cases carried : ((spread catalogue choices sparesBase seeds).nodeAt id).usage? with
  | none => simp [carried] at used
  | some usage =>
    have notEmpty : usage.isEmpty = false := by simpa [carried] using used
    obtain ⟨whole, found, subset⟩ := usage?_spread_mono kept carried
    simpa [found] using subset.isEmpty notEmpty

/-- The types of a kind that are used with fewer seeds are used with more. -/
theorem usedOf_sublist {isOfKind : Node → Bool}
    (told : ∀ node, isOfKind node.stem = isOfKind node) :
    (usedOf (spread catalogue choices sparesBase seeds) isOfKind).Sublist
      (usedOf (spread catalogue choices sparesBase more) isOfKind) := by
  -- Neither the places nor the kinds of nodes depend on the seeds.
  have ids (seeds : List Seed) :
      (spread catalogue choices sparesBase seeds).ids = catalogue.ids := by
    rw [Catalogue.ids, sameCores_spread.size, Catalogue.ids]
  have kind (seeds : List Seed) (id : NodeId) :
      isOfKind ((spread catalogue choices sparesBase seeds).nodeAt id) =
        isOfKind (catalogue.nodeAt id) := by
    rw [← told, stem_nodeAt_spread, told]
  rw [usedOf, usedOf, ids, ids]
  apply List.monotone_filter_right
  intro id isUsed
  rw [Bool.and_eq_true, kind] at isUsed ⊢
  exact ⟨isUsed.1, isUsed_mono kept isUsed.2⟩

omit kept in
/-- Where more nodes are used, more subtypes are left. -/
theorem usedSubtypes_sublist {before after : Catalogue}
    (used : ∀ id, (before.nodeAt id).usage?.any (fun usage => !usage.isEmpty) →
      (after.nodeAt id).usage?.any fun usage => !usage.isEmpty)
    (subtypes : OrderedMap String NodeId) :
    (((usedSubtypes before subtypes).map OrderedMap.entries).getD []).Sublist
      (((usedSubtypes after subtypes).map OrderedMap.entries).getD []) := by
  have entries : (subtypes.filterValues fun id =>
        (before.nodeAt id).usage?.any fun usage => !usage.isEmpty).entries.Sublist
      (subtypes.filterValues fun id =>
        (after.nodeAt id).usage?.any fun usage => !usage.isEmpty).entries :=
    List.monotone_filter_right _ fun entry => used entry.2
  -- Subtypes are left only where there are two of them, so the number matters.
  unfold usedSubtypes
  dsimp only
  split
  · exact List.nil_sublist _
  · rename_i several
    -- Where two are left of fewer, two are left of more.
    have severalMore : ¬ (subtypes.filterValues fun id =>
        (after.nodeAt id).usage?.any fun usage => !usage.isEmpty).size ≤ 1 :=
      fun few => several (Nat.le_trans entries.length_le few)
    rw [if_neg severalMore]
    exact entries

/-- With fewer seeds, no subtype is left that is not left with more. -/
theorem listed_sublist {id : NodeId} {model : ModelNode}
    (isModel : (spread catalogue choices sparesBase seeds).model? id = some model) :
    ∃ whole, (spread catalogue choices sparesBase more).model? id = some whole ∧
      model.listed.Sublist whole.listed := by
  have used (other : NodeId)
      (isUsed : ((sown catalogue choices sparesBase seeds).nodeAt other).usage?.any
        fun usage => !usage.isEmpty) :
      ((sown catalogue choices sparesBase more).nodeAt other).usage?.any
        fun usage => !usage.isEmpty := by
    rw [← usage?_prune, ← spread_eq] at isUsed ⊢
    exact isUsed_mono kept isUsed
  rw [spread_eq, model?_prune, Option.map_eq_some_iff] at isModel
  obtain ⟨sownModel, isSown, rfl⟩ := isModel
  -- Before any subtype was forgotten, both knew the same.
  have all (seeds : List Seed) :
      ((sown catalogue choices sparesBase seeds).model? id).map ModelNode.subtypes =
        (catalogue.model? id).map ModelNode.subtypes :=
    subtypes_sown choices seeds id
  have same := (all seeds).trans (all more).symm
  rw [isSown, Option.map_some] at same
  obtain ⟨moreModel, isMore, subtypes⟩ := Option.map_eq_some_iff.mp same.symm
  -- The list that is kept apart in both packages is the same; what is used of it is not.
  refine ⟨_, by rw [spread_eq, model?_prune, isMore, Option.map_some], ?_⟩
  simp only [ModelNode.listed, subtypes]
  cases sownModel.subtypes with
  | none => exact List.Sublist.refl _
  | some subtypes => exact usedSubtypes_sublist used subtypes

end

/-! ## Packages -/

/-- To strip a node of its usage makes no model of it and leaves every model one. -/
theorem isModel_stem (node : Node) : node.stem.model?.isSome = node.model?.isSome := by
  -- Usage and access are in the kind, but they do not tell which kind it is.
  obtain ⟨origin, nullable, deprecation, doc, kind⟩ := node
  cases kind <;> rfl

/-- So it is with enumerations. -/
theorem isEnumeration_stem (node : Node) :
    node.stem.enumeration?.isSome = node.enumeration?.isSome := by
  obtain ⟨origin, nullable, deprecation, doc, kind⟩ := node
  cases kind <;> rfl

/-- So it is with unions that have a name. -/
theorem isNamedUnion_stem (node : Node) :
    (node.stem.union?.any fun union => union.name.isSome) =
      node.union?.any fun union => union.name.isSome := by
  obtain ⟨origin, nullable, deprecation, doc, kind⟩ := node
  cases kind <;> rfl

/-- What is reported of a node does not depend on what it is used for. -/
theorem conflictReport_congr {catalogue other : Catalogue} {id : NodeId}
    (same : (other.nodeAt id).stem = (catalogue.nodeAt id).stem) :
    conflictReport other id = conflictReport catalogue id := by
  -- A report tells the declaration of the node and its name.
  have origin : (other.nodeAt id).origin = (catalogue.nodeAt id).origin :=
    (congrArg Node.origin same :)
  have name : (other.nodeAt id).name? = (catalogue.nodeAt id).name? := by
    rw [← Node.name?_stem, same, Node.name?_stem]
  simp only [conflictReport, origin, name]

/-- The report of a conflict is told from others by its code. -/
theorem isConflict_conflictReport (catalogue : Catalogue) (id : NodeId) :
    (conflictReport catalogue id).isConflict = true := by
  simp [Diagnostic.isConflict, Diagnostic.hasCode, conflictReport]

/-- All that is reported besides conflicts was reported in the run. -/
theorem reports_package (state : State) (context : Context) (clients : List Client) :
    (state.package context clients).diagnostics.filter (!·.isConflict) =
      Diagnostics.distinct (state.diagnostics.reports.filter (!·.isConflict)) := by
  -- Reports of conflicts are all of the kind that is left out here.
  have noOther (ids : List NodeId) (catalogue : Catalogue) :
      (ids.map (conflictReport catalogue)).filter (!·.isConflict) = [] := by
    apply List.filter_eq_nil_iff.mpr
    intro report listed
    obtain ⟨id, _, rfl⟩ := List.mem_map.mp listed
    simp [isConflict_conflictReport]
  rw [diagnostics_package, Diagnostics.filter_distinct, List.filter_append, noOther,
    List.append_nil]

/-- Where fewer bodies were sent, no other is in conflict. -/
theorem multipartConflicts_mono {catalogue other : Catalogue}
    {bodyFormats more : List (NodeId × Bool)} (size : other.size = catalogue.size)
    (kept : bodyFormats ⊆ more) :
    multipartConflicts other bodyFormats ⊆ multipartConflicts catalogue more := by
  intro id conflicts
  rw [multipartConflicts, List.mem_filter, Bool.and_eq_true, List.contains_iff_mem,
    List.contains_iff_mem] at conflicts ⊢
  obtain ⟨listed, multipart, plain⟩ := conflicts
  -- A conflict takes a body of either sort, each of which was noted in the longer list too.
  rw [Catalogue.ids, size, ← Catalogue.ids] at listed
  exact ⟨listed, kept multipart, kept plain⟩

/-- A run that has noted less of the same comes to a package that uses less. -/
theorem package_usesLess (context : Context) (clients others : List Client) {left right : State}
    (catalogue : right.catalogue = left.catalogue)
    (diagnostics : right.diagnostics = left.diagnostics) (seeds : right.seeds ⊆ left.seeds)
    (bodyFormats : right.bodyFormats ⊆ left.bodyFormats) :
    (left.package context clients).UsesLess (right.package context others) := by
  -- Both packages are spread over one catalogue, with the seeds of each, and have the same stems.
  have isSpread : (right.package context others).catalogue =
      spread left.catalogue context.choices context.options.sparesBase right.seeds := by
    rw [← catalogue]
    rfl
  have stems : (right.package context others).catalogue.map Node.stem =
      (left.package context clients).catalogue.map Node.stem := by
    rw [isSpread, stem_spread]
    exact (stem_spread _ _ _ _).symm
  -- A body that is in conflict in both packages is reported alike.
  have reports : conflictReport (right.package context others).catalogue =
      conflictReport (left.package context clients).catalogue := by
    funext id
    have mapped (catalogue : Catalogue) :
        (catalogue.nodeAt id).stem = (catalogue.map Node.stem).nodeAt id :=
      (Catalogue.nodeAt_map _ rfl id).symm
    apply conflictReport_congr
    rw [mapped, stems, ← mapped]
  -- Each of the parts is given by the spread of usage over one and the same catalogue.
  exact
    { catalogue := stems
      usage := fun id usage carried => by
        rw [isSpread] at carried
        exact usage?_spread_mono seeds carried
      subtypes := fun id model isModel => by
        rw [isSpread] at isModel
        exact listed_sublist seeds isModel
      models := by
        rw [models_package, isSpread]
        exact usedOf_sublist seeds isModel_stem
      enums := by
        rw [enums_package, isSpread]
        exact usedOf_sublist seeds isEnumeration_stem
      unions := by
        rw [unions_package, isSpread]
        exact usedOf_sublist seeds isNamedUnion_stem
      reports := by rw [reports_package, reports_package, diagnostics]
      conflicts := by
        intro report isReport
        rw [diagnostics_package, List.mem_filter, Diagnostics.mem_distinct, List.mem_append,
          diagnostics, reports] at isReport
        rw [diagnostics_package, List.mem_filter, Diagnostics.mem_distinct, List.mem_append]
        have size := by simpa using congrArg Catalogue.size stems
        exact isReport.imp_left fun listed => listed.imp_right fun conflict =>
          List.map_subset _ (multipartConflicts_mono size bodyFormats) conflict }

/-! ## Runs -/

/--
Two runs differ in whether one operation is wanted on typed values, and in nothing else.

The first run wants it so, and the second does not.
-/
structure DiffersInConvenience (options : Options) (operation : OperationId)
    (definition other : Definition) : Prop where
  alike : Alike definition other
  /-- All else that holds in the scope of the runs is the same. -/
  choices : { other.customizations.resolve options.scope with
    convenientMethods := (definition.customizations.resolve options.scope).convenientMethods } =
      definition.customizations.resolve options.scope
  wanted : (Context.of definition options).isConvenient operation = true
  unwanted : (Context.of other options).isConvenient operation = false
  others : ∀ id, id ≠ operation →
    (Context.of other options).isConvenient id = (Context.of definition options).isConvenient id

/-- Only the second run may lack notes, and only those on one operation. -/
def quietSlack (operation : OperationId) : Slack :=
  { quiet := fun id => id == operation }

/-- Two definitions that differ in the convenience of one operation are siblings but for that. -/
theorem DiffersInConvenience.sibling {options : Options} {operation : OperationId}
    {definition other : Definition}
    (differs : DiffersInConvenience options operation definition other) :
    Sibling (quietSlack operation) (Context.of definition options) (Context.of other options) := by
  -- What is chosen is the same, so the names that are read off it are.
  have choices := differs.choices
  have names : (Context.of other options).choices.clientName? =
      (Context.of definition options).choices.clientName? :=
    (congrArg Choices.clientName? choices :)
  apply Sibling.of_choices differs.alike
  case choices =>
    exact (congrArg (fun choices => { choices with
      clientNames := (definition.customizations.resolve options.scope).clientNames }) choices :)
  -- All names are the same.
  case clientName? => exact fun target _ => congrFun names target
  case typeName? => exact fun type => Or.inr (congrFun names _)
  case modelName =>
    intro type model name isModel named kept
    exact congrArg (Option.getD · name) (congrFun names _)
  case renamed_isModel => exact fun _ renamed => renamed.elim
  case isConvenient =>
    intro id
    by_cases same : id = operation
    · subst same
      simp [quietSlack, differs.unwanted]
    · simp [quietSlack, same, differs.others id same]
  case spared => exact fun _ _ _ _ renamed => renamed

/-- What is left of a method is the method without its convenient form, if it is the one meant. -/
theorem adapt_quietSlack (operation : OperationId) :
    (quietSlack operation).adapt = Method.unwanted operation := by
  funext method
  obtain ⟨name, origin, access, parameters, apiVersions, crossId, deprecation, isConvenient,
    isProtocol, kind⟩ := method
  -- Only a method that comes from the operation loses anything.
  cases origin with
  | none => simp [Slack.adapt, Method.unwanted]
  | some origin =>
    by_cases same : origin = operation
    · simp [Slack.adapt, Method.unwanted, quietSlack, same]
    · simp [Slack.adapt, Method.unwanted, quietSlack, same]

/--
An operation that is no longer wanted on typed values loses that form and nothing else.

Both runs fail alike, or both end with the same clients over the same types, and with the same
reports but for conflicts; without the form on typed values, no type is used more than with it.
-/
theorem package_without_convenience {definition other : Definition} {options : Options}
    {operation : OperationId}
    (differs : DiffersInConvenience options operation definition other) :
    (∃ failure, derivePackage definition options = .error failure ∧
      derivePackage other options = .error failure) ∨
    ∃ whole part, derivePackage definition options = .ok whole ∧
      derivePackage other options = .ok part ∧ part.name = whole.name ∧
      part.clients = whole.clients.map (Client.mapMethods (Method.unwanted operation)) ∧
      whole.UsesLess part := by
  have sibling := differs.sibling
  -- The two runs are compared as those of siblings; what they note tells what is used.
  refine (derivePackage_siblings sibling).imp_right ?_
  rintro ⟨left, right, clients, twin, isWhole, isPart⟩
  rw [sibling.package, adapt_quietSlack] at isPart
  refine ⟨_, _, isWhole, isPart, ?_, rfl, ?_⟩
  · cases clients with
    | nil => rfl
    | cons client rest => exact client.namespace_mapMethods
  · exact package_usesLess _ _ _ (twin.sameCatalogue fun free => free) twin.diagnostics
      twin.seeds.subset twin.bodyFormats.subset

/-- The reef, whose sharks are fed by raw requests alone. -/
def quietReef : Definition :=
  { reef with customizations := ({} : Service.Customizations).setConvenientMethod ⟨0⟩ none false }

/-- The two reefs differ in the convenience of the first operation and nothing else. -/
theorem quietReef_differs : DiffersInConvenience {} ⟨0⟩ reef quietReef where
  alike := ⟨rfl, rfl, rfl, rfl⟩
  choices := rfl
  wanted := rfl
  unwanted := rfl
  others id apart := by
    have isOther : (id == (⟨0⟩ : OperationId)) = false := beq_eq_false_iff_ne.mpr apart
    show ([((⟨0⟩ : OperationId), false)].lookup id).getD true = true
    rw [List.lookup_cons, isOther]
    rfl

/-- For each client, which of its methods are wanted on typed values. -/
def wantedOf (package : Package) : List (List Bool) :=
  package.clients.map fun client => client.methods.map Method.isConvenient

/-- The reef without its convenient method has all that it had, but uses less. -/
theorem package_without_convenience_reef :
    ∃ whole part, DiffersInConvenience {} ⟨0⟩ reef quietReef ∧
      derivePackage reef {} = .ok whole ∧ derivePackage quietReef {} = .ok part ∧
      wantedOf whole = [[true]] ∧ wantedOf part = [[false]] ∧
      part.clients = whole.clients.map (Client.mapMethods (Method.unwanted ⟨0⟩)) ∧
      whole.UsesLess part := by
  have wanted : (derivePackage reef {}).toOption.map wantedOf = some [[true]] := by
    decide +kernel
  have unwanted : (derivePackage quietReef {}).toOption.map wantedOf = some [[false]] := by
    decide +kernel
  -- Both runs succeed, as was evaluated, so the second case of the theorem is the one.
  rcases package_without_convenience quietReef_differs with
    ⟨failure, fails, _⟩ | ⟨whole, part, isWhole, isPart, _, clients, usesLess⟩
  · rw [fails] at wanted
    cases wanted
  · rw [isWhole] at wanted
    rw [isPart] at unwanted
    exact ⟨whole, part, quietReef_differs, isWhole, isPart, Option.some.inj wanted,
      Option.some.inj unwanted, clients, usesLess⟩

end Derivation

end ClientModel
