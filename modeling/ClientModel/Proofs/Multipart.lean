import ClientModel.Proofs.Convenience
import ClientModel.Proofs.Formats

/-!
Which bodies are reported for being sent both as multipart messages and otherwise.

Formats are only compared from one operation to the next. A single operation that lists content
types of both kinds for its body counts as one that sends multipart messages, and is in no conflict
with itself.
-/

namespace ClientModel

namespace Service.Definition

open ClientModel.Derivation (ContentType.orJson ContentType.isMultipart)

variable (definition : Definition)

/-- All content types that an operation sends its body as are multipart types, or none of them. -/
def IsUniform (operation : OperationId) : Prop :=
  ∀ contentType ∈ definition.contentTypesOf operation,
    ∀ other ∈ definition.contentTypesOf operation,
      ContentType.isMultipart contentType = ContentType.isMultipart other

variable {definition}

/-- There always is a content type, since bodies without one are sent as JSON. -/
theorem contentTypesOf_ne_nil (operation : OperationId) :
    definition.contentTypesOf operation ≠ [] := by
  -- An empty list is replaced by one content type.
  unfold contentTypesOf ContentType.orJson
  split
  · exact List.cons_ne_nil _ _
  · rename_i some
    simpa using some

/-- Where all content types are of one kind, it does not matter whether one or all are asked. -/
theorem IsUniform.any_eq_iff {operation : OperationId} (uniform : definition.IsUniform operation)
    {isMultipart : Bool} :
    (definition.contentTypesOf operation).any ContentType.isMultipart = isMultipart ↔
      ∃ contentType ∈ definition.contentTypesOf operation,
        ContentType.isMultipart contentType = isMultipart := by
  obtain ⟨first, listed⟩ := List.exists_mem_of_ne_nil _ (contentTypesOf_ne_nil operation)
  -- The kind of the first one is that of all others.
  have same : (definition.contentTypesOf operation).any ContentType.isMultipart =
      ContentType.isMultipart first := by
    cases isFirst : ContentType.isMultipart first with
    | true => exact List.any_eq_true.mpr ⟨first, listed, isFirst⟩
    | false =>
      refine List.any_eq_false.mpr fun other isOther => ?_
      rw [uniform other isOther first listed, isFirst]
      exact Bool.false_ne_true
  rw [same]
  refine ⟨fun isFirst => ⟨first, listed, isFirst⟩, fun ⟨other, isOther, isKind⟩ => ?_⟩
  rw [uniform first listed other isOther, isKind]

end Service.Definition

namespace Derivation

open Service (Definition)

variable {context : Context} {state : State}

/-! ## Reports -/

/-- No report of a run is about bodies with two formats. -/
def State.NoConflicts (state : State) : Prop :=
  ∀ report ∈ state.diagnostics.reports, report.isConflict = false

/-- A report of anything else adds no conflict. -/
theorem State.NoConflicts.report (none : state.NoConflicts) {report : Diagnostic}
    (early : report.code ≠ some Code.conflictingMultipartUsage) :
    State.NoConflicts { state with diagnostics := state.diagnostics.add report } := by
  -- The earlier reports are none, and the last one has another code.
  intro other listed
  rcases List.mem_append.mp listed with earlier | last
  · exact none other earlier
  · rw [List.mem_singleton.mp last]
    simpa [Diagnostic.isConflict, Diagnostic.hasCode] using early

/-- No step of a run reports a conflict, for they are looked for at the end. -/
theorem noConflicts_robust (context : Context) :
    Robust context State.NoConflicts fun _ => True := by
  -- Nothing else that a step does is about reports.
  have frame : Frame 0 State.NoConflicts fun _ => True :=
    { violation := fun _ => trivial
      inside := fun _ _ => Nat.zero_le _
      added := fun _ _ none => none
      changed := fun _ _ _ none _ _ => none
      marked := fun _ _ _ none _ => none
      declared := fun _ _ _ none _ => none
      builtins := fun _ _ _ none _ => none
      names := fun _ _ none => none
      diagnostics := fun _ _ early none => none.report early }
  exact
    { toSteady := frame.steady
      node := frame.node
      search := fun _ => Keeps.answerOf _ fun _ _ => trivial
      clientParameter := fun _ _ _ none => none
      endpoints := fun _ _ none => none
      credentials := fun _ _ none => none
      seeds := fun _ _ none => none
      bodyFormats := fun _ _ none => none }

/-! ## Packages -/

namespace Context

variable (context : Context)

/-- An operation sends a body of the type that a node stands for. -/
def SendsBody (operation : OperationId) (node : NodeId) (state : State) : Prop :=
  ∃ type, context.definition.bodyType? operation = some type ∧ Remembered type node state

/--
A body of the type of a node is sent in a format, as far as a run has noted it.

It is that of an operation that is wanted on typed values, and was derived up to the sources for the
request. The format is multipart if any of the content types for the body is.
-/
def SentAs (attempts : List Attempt) (state : State) (node : NodeId) (isMultipart : Bool) : Prop :=
  ∃ attempt ∈ attempts, context.isConvenient attempt.operation = true ∧
    attempt.isGathered = true ∧ context.SendsBody attempt.operation node state ∧
    (context.definition.contentTypesOf attempt.operation).any ContentType.isMultipart = isMultipart

/--
A body of the type of a node is declared with a content type of a kind.

It is that of a method on typed values, and the content type is any of those for the body.
-/
def DeclaredAs (attempts : List Attempt) (state : State) (node : NodeId) (isMultipart : Bool) :
    Prop :=
  ∃ attempt ∈ attempts, context.isConvenient attempt.operation = true ∧
    attempt.method?.isSome = true ∧ context.SendsBody attempt.operation node state ∧
    ∃ contentType ∈ context.definition.contentTypesOf attempt.operation,
      ContentType.isMultipart contentType = isMultipart

end Context

/-- The formats that are noted are those that bodies are sent in. -/
theorem Noted.mem_iff {attempts : List Attempt} (noted : Noted context attempts state)
    {node : NodeId} {isMultipart : Bool} :
    (node, isMultipart) ∈ state.bodyFormats ↔ context.SentAs attempts state node isMultipart := by
  -- A note was left by an attempt that got as far as its body, and each such attempt left one.
  constructor
  · intro listed
    obtain ⟨attempt, isAttempt, type, format, known⟩ := noted.only node isMultipart listed
    unfold Attempt.bodyFormat? at format
    split at format
    · rename_i left
      obtain ⟨wanted, gathered⟩ := Bool.and_eq_true_iff.mp left
      obtain ⟨isType, isKind⟩ := Definition.bodyFormat?_eq_some_iff.mp format
      exact ⟨attempt, isAttempt, wanted, gathered, ⟨type, isType, known⟩, isKind⟩
    · cases format
  · rintro ⟨attempt, isAttempt, wanted, gathered, ⟨type, isType, known⟩, isKind⟩
    have format : attempt.bodyFormat? context = some (type, isMultipart) := by
      rw [Attempt.bodyFormat?, wanted, gathered, Bool.and_self, if_pos rfl]
      exact Definition.bodyFormat?_eq_some_iff.mpr ⟨isType, isKind⟩
    obtain ⟨other, isOther, listed⟩ := noted.all attempt isAttempt type isMultipart format
    -- One node is remembered for a type.
    obtain rfl : node = other := Option.some.inj (known.symm.trans isOther)
    exact listed

/-- Where nothing is lost or reduced, bodies are sent just as they are declared. -/
theorem sentAs_iff_declaredAs {attempts : List Attempt}
    (complete : ∀ attempt ∈ attempts, context.isConvenient attempt.operation = true →
      (attempt.isGathered = true → attempt.method?.isSome = true) ∧
        context.definition.IsUniform attempt.operation)
    (node : NodeId) (isMultipart : Bool) :
    context.SentAs attempts state node isMultipart ↔
      context.DeclaredAs attempts state node isMultipart := by
  refine exists_congr fun attempt => and_congr_right fun listed => and_congr_right fun wanted => ?_
  -- By assumption an attempt that got as far as its body made a method, with a uniform body.
  obtain ⟨kept, uniform⟩ := complete attempt listed wanted
  have gathered : attempt.isGathered = true ↔ attempt.method?.isSome = true := by
    refine ⟨kept, fun made => ?_⟩
    obtain ⟨method, isMethod⟩ := Option.isSome_iff_exists.mp made
    rw [Attempt.isGathered, Attempt.method?_eq_some_iff.mp isMethod]
  rw [gathered, uniform.any_eq_iff]

/-- The conflicts of a package are about those nodes that were noted in both formats. -/
theorem reported_iff_bodyFormats {definition : Definition} {options : Options}
    {clients : List Client} (run : (Context.of definition options).clients.run {} =
      (.ok clients, finalState definition options)) (report : Diagnostic) :
    let state := finalState definition options
    let package := state.package (Context.of definition options) clients
    report ∈ package.diagnostics ∧ report.isConflict = true ↔
      ∃ node, report = conflictReport package.catalogue node ∧
        (node, true) ∈ state.bodyFormats ∧ (node, false) ∈ state.bodyFormats := by
  intro state package
  have none : state.NoConflicts := ((noConflicts_robust _).stable.clients
    fun _ _ _ _ => trivial).ok (fun _ listed => absurd listed List.not_mem_nil) run
  rw [diagnostics_package, Diagnostics.mem_distinct, List.mem_append]
  -- Reports of the run are no conflicts; those at the end are about nodes with both formats.
  constructor
  · rintro ⟨early | late, isConflict⟩
    · rw [none report early] at isConflict
      cases isConflict
    · obtain ⟨node, conflicts, rfl⟩ := List.mem_map.mp late
      rw [multipartConflicts, List.mem_filter, Bool.and_eq_true, List.contains_iff_mem,
        List.contains_iff_mem] at conflicts
      exact ⟨node, rfl, conflicts.2⟩
  · rintro ⟨node, rfl, multipart, other⟩
    refine ⟨Or.inr (List.mem_map_of_mem ?_), isConflict_conflictReport _ _⟩
    -- The node of a type that was met is among those of the package.
    have inside : node ∈ package.catalogue.ids := by
      obtain ⟨records, recorded⟩ := recorded_run run
      have noted := Context.recordedClients_noted.ok (Noted.start _) recorded
      obtain ⟨-, -, type, -, known⟩ := noted.only node true multipart
      obtain ⟨-, consistent, -⟩ := run_consistent run
      have size : package.catalogue.size = state.catalogue.size := sameCores_spread.size
      rw [Catalogue.mem_ids, size]
      exact consistent.orderly.inside type node known
    rw [multipartConflicts, List.mem_filter, Bool.and_eq_true, List.contains_iff_mem,
      List.contains_iff_mem]
    exact ⟨inside, multipart, other⟩

/--
A conflict is reported for just those types of bodies that are sent in both formats.

These are all conflicts that a package reports. Two formats only come from two operations: one that
lists a multipart type for its body, whatever else it lists, and one that lists none. If all methods
on typed values are in the package, and none of them lists both kinds for its body, then it does not
matter in which way the two kinds of content types meet.
-/
theorem conflict_is_reported_iff {definition : Definition} {options : Options} {package : Package}
    (derived : derivePackage definition options = .ok package) :
    let context := Context.of definition options
    let state := finalState definition options
    ∃ records, context.recordedClients {} = (.ok (package.clients, records), state) ∧
      let attempts := records.flatMap Record.attempts
      (∀ report, report ∈ package.diagnostics ∧ report.isConflict = true ↔
        ∃ node, report = conflictReport package.catalogue node ∧
          context.SentAs attempts state node true ∧ context.SentAs attempts state node false) ∧
      ((∀ attempt ∈ attempts, context.isConvenient attempt.operation = true →
          (attempt.isGathered = true → attempt.method?.isSome = true) ∧
            definition.IsUniform attempt.operation) →
        ∀ node isMultipart, context.SentAs attempts state node isMultipart ↔
          context.DeclaredAs attempts state node isMultipart) := by
  -- Notes and attempts tell the same, so both parts follow from what holds of the notes.
  intro context state
  obtain ⟨clients, run, rfl⟩ := derivePackage_ok derived
  obtain ⟨records, recorded⟩ := recorded_run run
  have noted : Noted context (records.flatMap Record.attempts) state :=
    Context.recordedClients_noted.ok (Noted.start context) recorded
  refine ⟨records, recorded, fun report => ?_, fun complete => sentAs_iff_declaredAs complete⟩
  refine (reported_iff_bodyFormats run report).trans (exists_congr fun node => ?_)
  rw [noted.mem_iff, noted.mem_iff]

/--
A darkroom that takes photos as messages of either kind in one operation.

For slides there are two operations: one is sent multipart messages, the other one is sent JSON.
-/
def darkroom : Definition where
  types := #[{ shape := .scalar { name := "string" } },
    { shape := .model { name := some "Photo", properties := [⟨0⟩] } },
    { shape := .model { name := some "Slide", properties := [⟨1⟩] } }]
  properties := #[{ name := "title", model := some ⟨1⟩, type := ⟨0⟩ },
    { name := "frame", model := some ⟨2⟩, type := ⟨0⟩ },
    { name := "photo", type := ⟨1⟩ }, { name := "slide", type := ⟨2⟩ }]
  operations := #[
    { name := "upload", container := ⟨0⟩, verb := .post, path := "/photos"
      parameters := [⟨2⟩]
      bodies := [{ property := some ⟨2⟩, type := ⟨1⟩
                   contentTypes := ["multipart/form-data", "application/json"] }] },
    { name := "scan", container := ⟨0⟩, verb := .post, path := "/scans"
      parameters := [⟨3⟩]
      bodies := [{ property := some ⟨3⟩, type := ⟨2⟩, contentTypes := ["multipart/form-data"] }] },
    { name := "enter", container := ⟨0⟩, verb := .post, path := "/slides"
      parameters := [⟨3⟩]
      bodies := [{ property := some ⟨3⟩, type := ⟨2⟩, contentTypes := ["application/json"] }] }]
  containers := #[
    { name := "Darkroom", operations := [⟨0⟩, ⟨1⟩, ⟨2⟩], service := some {} }]

/-- A slide is sent in both formats, and this is reported. -/
theorem conflict_is_reported_iff_darkroom :
    let context := Context.of darkroom {}
    let state := finalState darkroom {}
    ∃ package records, derivePackage darkroom {} = .ok package ∧
      context.recordedClients {} = (.ok (package.clients, records), state) ∧
      ∃ node, conflictReport package.catalogue node ∈ package.diagnostics ∧
        context.SentAs (records.flatMap Record.attempts) state node true ∧
        context.SentAs (records.flatMap Record.attempts) state node false := by
  intro context state
  obtain ⟨clients, run, derived⟩ :=
    derivePackage_of_isOk (by decide +kernel : (derivePackage darkroom {}).isOk = true)
  obtain ⟨records, recorded, exactly, -⟩ := conflict_is_reported_iff derived
  have noted := Context.recordedClients_noted.ok (Noted.start context) recorded
  -- The run is evaluated to see that the node of a slide was noted in both formats.
  have multipart : (⟨3⟩, true) ∈ state.bodyFormats := by decide +kernel
  have other : (⟨3⟩, false) ∈ state.bodyFormats := by decide +kernel
  have sent := And.intro (noted.mem_iff.mp multipart) (noted.mem_iff.mp other)
  exact ⟨_, records, derived, recorded, _, ((exactly _).mpr ⟨_, rfl, sent⟩).1, sent⟩

/-- A photo is declared with content types of both kinds, and nothing is reported about it. -/
theorem conflict_within_a_body_is_not_reported :
    let context := Context.of darkroom {}
    let state := finalState darkroom {}
    ∃ package records node, derivePackage darkroom {} = .ok package ∧
      context.recordedClients {} = (.ok (package.clients, records), state) ∧
      context.DeclaredAs (records.flatMap Record.attempts) state node true ∧
      context.DeclaredAs (records.flatMap Record.attempts) state node false ∧
      conflictReport package.catalogue node ∉ package.diagnostics := by
  intro context state
  -- That a photo was uploaded is evaluated, and the record of it is read below.
  have found : ((Context.of darkroom {}).recordedClients.run {}).1.toOption.any fun result =>
      (result.2.flatMap Record.attempts).any fun attempt =>
        attempt.operation == ⟨0⟩ && attempt.method?.isSome := by
    decide +kernel
  obtain ⟨clients, run, derived⟩ :=
    derivePackage_of_isOk (by decide +kernel : (derivePackage darkroom {}).isOk = true)
  obtain ⟨records, recorded⟩ := recorded_run run
  rw [show context.recordedClients.run {} = _ from recorded] at found
  simp only [Except.toOption, Option.any_some, Bool.and_eq_true, List.any_eq_true,
    beq_iff_eq] at found
  -- The attempt on record made a method, whose body has content types of both kinds.
  obtain ⟨attempt, listed, isUpload, made⟩ := found
  have sends : context.SendsBody attempt.operation ⟨0⟩ state :=
    ⟨⟨1⟩, by rw [isUpload]; decide +kernel, by unfold Remembered; decide +kernel⟩
  have wanted : context.isConvenient attempt.operation = true := by
    rw [isUpload]
    decide +kernel
  refine ⟨_, records, ⟨0⟩, derived, recorded, ⟨attempt, listed, wanted, made, sends, ?_⟩,
    ⟨attempt, listed, wanted, made, sends, ?_⟩, fun reported => ?_⟩
  · exact ⟨"multipart/form-data", by rw [isUpload]; decide +kernel, by decide +kernel⟩
  · exact ⟨"application/json", by rw [isUpload]; decide +kernel, by decide +kernel⟩
  · -- Slides alone were noted in both formats, and they are no photos.
    obtain ⟨node, same, -, other⟩ :=
      (reported_iff_bodyFormats run _).mp ⟨reported, isConflict_conflictReport _ _⟩
    have formats : (finalState darkroom {}).bodyFormats =
        [(⟨0⟩, true), (⟨3⟩, true), (⟨3⟩, false)] := by
      decide +kernel
    rw [formats] at other
    obtain rfl : node = ⟨3⟩ := by simpa using other
    -- The origins of nodes are those that the run ended with.
    have origins (id : NodeId) :
        (((finalState darkroom {}).package (Context.of darkroom {}) clients).catalogue.nodeAt
          id).origin = ((finalState darkroom {}).catalogue.nodeAt id).origin :=
      sameCores_spread.origin id
    have target := congrArg Diagnostic.target same
    simp only [conflictReport, origins] at target
    exact absurd target (by decide +kernel)

end Derivation

end ClientModel
