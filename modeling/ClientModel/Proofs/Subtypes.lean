import ClientModel.Proofs.Accounts
import ClientModel.Proofs.Identity

/-!
Subtypes that fix the property by which their base tells them apart.

A subtype is listed by the text that it fixes, unless one of its properties leads back to the base:
then the subtype may be entered first, and its base is met before its properties are there.
-/

namespace ClientModel.Derivation

open Service (Definition Model)

variable {context : Context} {state : State}

/-! ## Lists of subtypes -/

/-- A subtype that is listed by a text stays so if whatever else has the text is the same node. -/
theorem get?_foldl_subtypes {later : List Context.Child} {subtypes : OrderedMap String NodeId}
    {value : String} {node : NodeId} (known : subtypes.get? value = some node)
    (alone : ∀ child ∈ later, child.2 = some value → child.1 = node) :
    (later.foldl (fun subtypes child =>
      child.2.elim subtypes fun text => subtypes.insert text child.1) subtypes).get? value =
        some node := by
  -- By induction on the subtypes that come later.
  induction later generalizing subtypes with
  | nil => exact known
  | cons child rest ih =>
    refine ih ?_ fun other member => alone other (List.mem_cons_of_mem _ member)
    obtain ⟨id, text⟩ := child
    cases text with
    | none => exact known
    | some text =>
      -- One with the same text is the same node; any other text leaves the entry alone.
      by_cases same : text = value
      · obtain rfl : id = node := alone _ List.mem_cons_self (congrArg some same)
        exact same ▸ OrderedMap.get?_insert_self _ _ _
      · exact (OrderedMap.get?_insert_ne _ _ (Ne.symm same)).trans known

/-- A subtype is listed by its text if whatever else has the text is the same node. -/
theorem get?_subtypesOf {children : List Context.Child} {value : String} {node : NodeId}
    (listed : (node, some value) ∈ children)
    (alone : ∀ child ∈ children, child.2 = some value → child.1 = node) :
    (Context.subtypesOf children).get? value = some node := by
  -- Whatever came before it, the subtype is listed when its turn comes.
  obtain ⟨earlier, later, rfl⟩ := List.append_of_mem listed
  rw [Context.subtypesOf, List.foldl_append, List.foldl_cons]
  refine get?_foldl_subtypes (OrderedMap.get?_insert_self _ _ _) fun child member => alone child ?_
  exact List.mem_append_right _ (List.mem_cons_of_mem _ member)

/-! ## Reports -/

/-- What a package reports was found during the run, unless it is about the bodies of requests. -/
theorem mem_reports_of_mem_diagnostics {clients : List Client} {report : Diagnostic}
    (reported : report ∈ (state.package context clients).diagnostics)
    (other : report.code ≠ some Code.conflictingMultipartUsage) :
    report ∈ state.diagnostics.reports := by
  -- By induction on the nodes with conflicts: each adds one report, of a code of its own.
  have conflicts (catalogue : Catalogue) (ids : List NodeId) (diagnostics : Diagnostics)
      (there : report ∈ ((ids.map (conflictReport catalogue)).foldl Diagnostics.add
        diagnostics).reports) : report ∈ diagnostics.reports := by
    induction ids generalizing diagnostics with
    | nil => exact there
    | cons id rest ih =>
      rcases List.mem_append.mp (ih _ there) with earlier | new
      · exact earlier
      · rw [List.mem_singleton.mp new] at other
        exact absurd rfl other
  exact conflicts _ _ _ (((mem_foldl_new _ _ _).mp reported).resolve_left List.not_mem_nil)

/-! ## Subtypes -/

/-- A base lists a subtype by a text, the subtype is marked, and nothing is reported about it. -/
structure Context.TellsSubtype (context : Context) (state : State) (diagnostics : List Diagnostic)
    (base : TypeId) (name : String) (subtype : TypeId) (value : String) : Prop where
  listed : ∃ node child model subtypes, Remembered base node state ∧
    context.Stands state subtype child ∧ state.catalogue.model? node = some model ∧
    model.subtypes = some subtypes ∧ subtypes.get? value = some child ∧
    (state.catalogue.nodeAt child).IsFlagged name ∧ (state.catalogue.nodeAt child).IsValued
  unreported : ∀ report ∈ diagnostics, report.code = some Code.discriminatorNotConstant →
    report.target ≠ some (.type subtype)

section

variable {base : TypeId} {declared : Model} {name : String}
  (isModel : context.definition.model? base = some declared)
  (discriminated : declared.discriminator = some name)
include isModel discriminated

/-- The base has met its subtypes, and lists those that were known by a text. -/
theorem exists_children (consistent : Consistent context state) {node : NodeId}
    (known : Remembered base node state) :
    ∃ model children, state.catalogue.model? node = some model ∧
      List.Forall₂ (context.IsChild state base name) declared.derived children ∧
      model.subtypes.getD {} = Context.subtypesOf children := by
  -- The base is rendered, which tells the subtypes that it has met.
  have rendered := consistent.rendered base node known
  rw [Context.Rendered, shapeAt_of_model? isModel] at rendered
  generalize kind : (state.catalogue.nodeAt node).plain.kind = plain at rendered
  cases rendered with
  | @model _ model renders =>
    obtain ⟨children, each, same⟩ := renders.subtypes name discriminated
    -- Without marks the node tells the same subtypes.
    have isPlain := (state.catalogue.nodeAt node).model?_plain
    rw [Node.model?, kind] at isPlain
    obtain ⟨actual, isActual, rfl⟩ := Option.map_eq_some_iff.mp isPlain.symm
    exact ⟨actual, children, isActual, each, same⟩

/-- A subtype that fixes its text and does not lead back is met with that text. -/
theorem text_of_isChild {subtype : TypeId} (isSubtype : subtype ∈ declared.derived)
    (fixed : ¬ context.Unfixed subtype) {child : Context.Child}
    (isChild : context.IsChild state base name subtype child) :
    child.2 = context.fixedText? subtype name :=
  -- To lead back is the only other way, and it is ruled out.
  isChild.text.resolve_right fun ⟨_, leads⟩ =>
    fixed ⟨base, declared, name, isModel, discriminated, isSubtype, Or.inr leads⟩

end

/--
A subtype that fixes the discriminator of its base is listed by the text, and is not reported.

For this no property of the subtype may lead back to the base, nor to another base that lists it.
-/
theorem fixed_subtype_is_listed {definition : Definition} {options : Options} {package : Package}
    (derived : derivePackage definition options = .ok package) {base subtype : TypeId}
    {declared : Model} {name value : String} (isModel : definition.model? base = some declared)
    (discriminated : declared.discriminator = some name)
    (isDerived : ∃ node, Remembered base node (finalState definition options))
    (isSubtype : subtype ∈ declared.derived)
    (text : (Context.of definition options).fixedText? subtype name = some value)
    (alone : ∀ other ∈ declared.derived,
      (Context.of definition options).fixedText? other name = some value → other = subtype)
    (fixed : ¬ (Context.of definition options).Unfixed subtype) :
    (Context.of definition options).TellsSubtype (finalState definition options)
      package.diagnostics base name subtype value := by
  obtain ⟨clients, run, rfl⟩ := derivePackage_ok derived
  obtain ⟨_, consistent, _⟩ := run_consistent run
  obtain ⟨node, known⟩ := isDerived
  refine ⟨?_, fun report reported isCode target => ?_⟩
  -- The base has met the subtype by the text that it fixes, and lists it by that.
  · obtain ⟨model, children, isNode, each, same⟩ :=
      exists_children isModel discriminated consistent known
    obtain ⟨child, isListed, isChild⟩ := partner_of_mem each isSubtype
    have isText : child.2 = some value :=
      (text_of_isChild isModel discriminated isSubtype fixed isChild).trans text
    obtain ⟨flagged, valued⟩ := isChild.marked (by simp [isText])
    have found : (Context.subtypesOf children).get? value = some child.1 := by
      refine get?_subtypesOf (by rwa [← isText]) fun other isOther otherText => ?_
      -- What has the same text is the same subtype, which has one node.
      obtain ⟨type, isType, otherChild⟩ := partner_of_mem each.flip isOther
      rcases otherChild.text with fixes | ⟨none, _⟩
      · obtain rfl := alone type isType (fixes.symm.trans otherText)
        exact otherChild.stands.unique isChild.stands
      · rw [none] at otherText
        cases otherText
    rw [← same] at found
    cases subtypes : model.subtypes with
    | none =>
      rw [subtypes] at found
      cases found
    | some all =>
      rw [subtypes] at found
      exact ⟨node, child.1, model, all, known, isChild.stands, isNode, subtypes, found, flagged,
        valued⟩
  -- The only subtypes reported are those that fix no text or lead back.
  · have noted := mem_reports_of_mem_diagnostics reported (by rw [isCode]; decide)
    obtain ⟨other, isTarget, unfixed⟩ := consistent.unfixed report noted isCode
    rw [target] at isTarget
    cases isTarget
    exact fixed unfixed

/-- A service that feeds sharks. They are fish of a fixed kind, and fish live in schools. -/
def lagoon : Definition where
  types := #[
    { shape := .model
        { name := some "Fish", properties := [⟨2⟩], derived := [⟨1⟩]
          discriminator := some "kind" } },
    { shape := .model { name := some "Shark", properties := [⟨0⟩], base := some ⟨0⟩ } },
    { shape := .literal (.text "shark") }, { shape := .array ⟨0⟩ }]
  properties := #[{ name := "kind", model := some ⟨1⟩, type := ⟨2⟩ },
    { name := "shark", type := ⟨1⟩, binding := some .body },
    { name := "school", model := some ⟨0⟩, type := ⟨3⟩ }]
  operations := #[
    { name := "feed", container := ⟨0⟩, verb := .post, path := "/sharks", parameters := [⟨1⟩]
      bodies := [{ property := some ⟨1⟩, type := ⟨1⟩ }] }]
  containers := #[{ name := "Lagoon", operations := [⟨0⟩], service := some {} }]

/-- The kind of a shark is fixed, and leads nowhere. -/
theorem lagoon_fixed : ¬ (Context.of lagoon {}).Unfixed ⟨1⟩ := by
  rintro ⟨⟨index⟩, declared, name, isModel, discriminated, listed, unfixed⟩
  -- Fish are the only model that tells its subtypes apart.
  match index with
  | 0 =>
    cases isModel
    cases discriminated
    -- The only member of a shark is its kind, which refers to a string.
    rcases unfixed with missing | ⟨shark, isShark, property, isMember, way⟩
    · exact absurd missing (by decide +kernel)
    · cases isShark
      obtain rfl : property = ⟨0⟩ := List.mem_singleton.mp isMember
      exact absurd (Context.not_reaches rfl way) (by decide +kernel)
  | 1 =>
    cases isModel
    cases discriminated
  | 2 | 3 => cases isModel
  | beyond + 4 => cases isModel

/-- In the lagoon a package is derived, and fish list the shark. -/
theorem fixed_subtype_is_listed_lagoon :
    ∃ package, derivePackage lagoon {} = .ok package ∧
      (Context.of lagoon {}).TellsSubtype (finalState lagoon {}) package.diagnostics ⟨0⟩ "kind" ⟨1⟩
        "shark" := by
  have isOk : (derivePackage lagoon {}).isOk = true := by decide +kernel
  have isFish : (finalState lagoon {}).declared.get? ⟨0⟩ = some ⟨2⟩ := by decide +kernel
  cases derived : derivePackage lagoon {} with
  | error failure => simp [derived, Except.isOk, Except.toBool] at isOk
  | ok package =>
    -- The only other subtype that could fix the text is the shark itself.
    exact ⟨package, rfl, fixed_subtype_is_listed derived rfl rfl ⟨_, isFish⟩ List.mem_cons_self rfl
      (fun other listed _ => List.mem_singleton.mp listed) lagoon_fixed⟩

/--
A subtype that fixes the discriminator of its base may be reported all the same.

Sharks prey on fish, so that fish are met before the kind of a shark is there.
-/
theorem fixed_subtype_may_be_reported :
    ¬ ∀ (definition : Definition) (options : Options) (package : Package),
      derivePackage definition options = .ok package →
      ∀ base declared name, definition.model? base = some declared →
        declared.discriminator = some name →
        (∃ node, Remembered base node (finalState definition options)) →
        (∀ other ∈ declared.derived,
          ∃ model, definition.model? other = some model ∧ model.name.isSome) →
        (declared.derived.map fun other =>
          (Context.of definition options).fixedText? other name).Nodup →
        ∀ subtype ∈ declared.derived, ∀ value,
          (Context.of definition options).fixedText? subtype name = some value →
            (Context.of definition options).TellsSubtype (finalState definition options)
              package.diagnostics base name subtype value := by
  -- On the reef everything that is asked for is there, and the shark is reported.
  intro tells
  have isOk : (derivePackage reef {}).isOk = true := by decide +kernel
  have isFish : (finalState reef {}).declared.get? ⟨0⟩ = some ⟨2⟩ := by decide +kernel
  have reported : ((finalState reef {}).diagnostics.reports.any fun report =>
      report.code == some Code.discriminatorNotConstant && report.target == some (.type ⟨1⟩)) =
        true := by
    decide +kernel
  -- Sharks would be unreported by what is to be told, but the report is there.
  cases derived : derivePackage reef {} with
  | error failure => simp [derived, Except.isOk, Except.toBool] at isOk
  | ok package =>
    have told := tells reef {} package derived ⟨0⟩ _ "kind" rfl rfl ⟨_, isFish⟩
      (fun other listed => by
        rw [List.mem_singleton.mp listed]
        exact ⟨_, rfl, rfl⟩)
      (List.nodup_singleton _) ⟨1⟩ List.mem_cons_self "shark" rfl
    obtain ⟨report, noted, isReport⟩ := List.any_eq_true.mp reported
    rw [Bool.and_eq_true, beq_iff_eq, beq_iff_eq] at isReport
    obtain ⟨clients, _, rfl⟩ := derivePackage_ok derived
    have once : ((finalState reef {}).package (Context.of reef {}) clients).diagnostics.count
        report = 1 := count_diagnostics noted
    exact told.unreported report (List.count_pos_iff.mp (once ▸ Nat.one_pos)) isReport.1 isReport.2

end ClientModel.Derivation
