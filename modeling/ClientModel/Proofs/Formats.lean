import ClientModel.Proofs.Accounts
import ClientModel.Proofs.Identity

/-!
What a run notes about the formats in which bodies are sent.

For each operation that is wanted on typed values, a run notes the type of its body, and whether a
multipart type is among all that it is sent as. What else the operation lists for its body leaves no
note. It is taken before the sources for the request are looked for, so that a method that is left
out for want of them has left its note as well.
-/

namespace ClientModel

/-- A list of characters stands in another one just if it is a stretch of it. -/
theorem Text.occursIn_iff {part text : List Char} : occursIn part text = true ↔ part <:+: text := by
  -- It starts the text, or it stands in the rest of it.
  induction text with
  | nil => simp [occursIn]
  | cons first rest ih =>
    rw [occursIn, Bool.or_eq_true, List.isPrefixOf_iff_prefix, ih, List.infix_cons_iff]

/-- Usage in multipart messages is one bit of it. -/
theorem Usage.contains_multipartFormData {usage : Usage} :
    usage.contains multipartFormData = true ↔ usage.Has 5 := by
  have place : multipartFormData.bits.toBitVec = BitVec.twoPow 32 5 := rfl
  rw [contains, beq_iff_eq, ← UInt32.toBitVec_inj, UInt32.toBitVec_and, place, BitVec.and_twoPow,
    Has]
  -- The place is set, or nothing is left of the word.
  split
  · simp [*]
  · rename_i unset
    simp only [unset]
    decide

/-- Two usages together are one in multipart messages if either of them is. -/
@[simp] theorem Usage.contains_union_multipartFormData (left right : Usage) :
    (left ||| right).contains multipartFormData =
      (left.contains multipartFormData || right.contains multipartFormData) := by
  -- Bit by bit, a union has what either has.
  rw [Bool.eq_iff_iff, Bool.or_eq_true]
  simp only [contains_multipartFormData, has_union]

/-! ## Content types -/

namespace Derivation.ContentType

/-- The content type is one of multipart messages, and not taken for one of JSON. -/
def isMultipart (contentType : String) : Bool :=
  Text.starts "multipart/" contentType && !isJson contentType

/-- A merge patch is taken for JSON as well. -/
theorem isJson_of_isMergePatch {contentType : String}
    (found : Text.occurs "merge-patch+json" contentType = true) : isJson contentType = true := by
  -- The word for JSON is the end of the word for a merge patch.
  have inside : "json".toList <:+: "merge-patch+json".toList := ⟨"merge-patch+".toList, [], rfl⟩
  exact Text.occursIn_iff.mpr (inside.trans (Text.occursIn_iff.mp found))

/-- What a content type is used for tells whether it is that of a multipart message. -/
theorem contains_usage (contentType : String) :
    (usage contentType).contains .multipartFormData = isMultipart contentType := by
  unfold usage isMultipart
  -- Whatever is taken for JSON is no multipart message, a merge patch included.
  by_cases isPatch : Text.occurs "merge-patch+json" contentType = true
  · rw [if_pos isPatch, isJson_of_isMergePatch isPatch, Bool.not_true, Bool.and_false]
    rfl
  · rw [if_neg isPatch]
    cases isJson contentType with
    | true =>
      rw [if_pos rfl, Bool.not_true, Bool.and_false]
      rfl
    | false =>
      rw [if_neg Bool.false_ne_true]
      cases Text.starts "multipart/" contentType with
      | true => rw [if_pos rfl]; rfl
      | false => rw [if_neg Bool.false_ne_true]; split <;> rfl

/-- Content types are of use for multipart messages if one of them is. -/
theorem contains_usages (contentTypes : List String) :
    (usages contentTypes).contains .multipartFormData = contentTypes.any isMultipart := by
  -- By induction on the content types, with what was found before on the left.
  have found (before : Usage) : (contentTypes.foldl (fun all contentType =>
      all ||| usage contentType) before).contains .multipartFormData =
        (before.contains .multipartFormData || contentTypes.any isMultipart) := by
    induction contentTypes generalizing before with
    | nil => simp
    | cons contentType rest ih =>
      rw [List.foldl_cons, ih, Usage.contains_union_multipartFormData, contains_usage,
        List.any_cons, Bool.or_assoc]
  rw [usages, found]
  rfl

end Derivation.ContentType

/-! ## Formats of bodies -/

namespace Service.Definition

open ClientModel.Derivation (ContentType.orJson ContentType.isMultipart withoutRepeats)

variable (definition : Definition)

/-- The content types that an operation sends its body as: those of all its bodies, or JSON. -/
def contentTypesOf (operation : OperationId) : List String :=
  ContentType.orJson
    (withoutRepeats ((definition.operationAt operation).bodies.flatMap BodyDecl.contentTypes))

/-- The type of the body that an operation sends, if it sends one. -/
def bodyType? (operation : OperationId) : Option TypeId :=
  match (definition.operationAt operation).bodies with
  | [] => none
  | first :: _ =>
    if definition.isVoidLike first.type then none else some (definition.payloadType first.type)

/-- The type of a body, and whether a multipart type is among what the body is sent as. -/
def bodyFormat? (operation : OperationId) : Option (TypeId × Bool) :=
  (definition.bodyType? operation).map fun type =>
    (type, (definition.contentTypesOf operation).any ContentType.isMultipart)

variable {definition}

/-- The format of a body is told by its type and its content types. -/
theorem bodyFormat?_eq_some_iff {operation : OperationId} {type : TypeId} {isMultipart : Bool} :
    definition.bodyFormat? operation = some (type, isMultipart) ↔
      definition.bodyType? operation = some type ∧
        (definition.contentTypesOf operation).any ContentType.isMultipart = isMultipart := by
  simp [bodyFormat?, Option.map_eq_some_iff]

end Service.Definition

namespace Derivation

open Service (Definition)

variable {context : Context} {operation : OperationId} {client : ContainerId}
  {allowed : Failure → Prop} {state before after : State} {format? : Option (TypeId × Bool)}

/-! ## Notes on formats -/

/-- Nothing known is lost, and no format is noted. -/
def KeepsFormats (before after : State) : Prop :=
  Grown before after ∧ after.bodyFormats = before.bodyFormats

namespace KeepsFormats

instance : Std.Refl KeepsFormats := ⟨fun state => ⟨.refl state, rfl⟩⟩

/-- Nodes, names and reports may be added without any format being noted. -/
theorem frame (start : State) (violation : ∀ cause, allowed (.violation cause)) :
    Frame start.catalogue.size (KeepsFormats start) allowed :=
  (Grown.frame start violation).beside fun _ _ _ _ _ _ same => same

/-- Of the steps towards a method, only the one that derives the body notes a format. -/
theorem elevating (context : Context) (client : ContainerId) (start : State)
    (violation : ∀ cause, allowed (.violation cause)) :
    Elevating context client (KeepsFormats start) allowed where
  toSteady := (frame start violation).steady
  node := (frame start violation).node
  search _ := Keeps.answerOf _ fun _ _ => violation _
  seed _ _ same := ⟨same.1.noted _ _ _ _, same.2⟩
  clientParameter _ parameter same := ⟨same.1.takes client parameter, same.2⟩

/-- No format is noted by what provides a client with its parameters. -/
theorem providing (context : Context) (start : State) :
    Providing context (fun _ => True) (KeepsFormats start) fun _ => True where
  toSteady := (frame start fun _ => trivial).steady
  node := (frame start fun _ => trivial).node
  clientParameter _ client parameter _ same := ⟨same.1.takes client parameter, same.2⟩
  endpointParameter := (frame start fun _ => trivial).steady.endpointParameter
    (frame start fun _ => trivial).node fun _ _ same => ⟨same.1.noted _ _ _ _, same.2⟩
  credentialParameter? := (frame start fun _ => trivial).steady.credentialParameter?
    fun _ _ same => ⟨same.1.noted _ _ _ _, same.2⟩

end KeepsFormats

/-- Nothing known is lost, and the format of a body is noted with the node of its type, if any. -/
def NotesFormat (format? : Option (TypeId × Bool)) (before after : State) : Prop :=
  match format? with
  | none => KeepsFormats before after
  | some (type, isMultipart) => Grown before after ∧
      ∃ node, Remembered type node after ∧
        after.bodyFormats = before.bodyFormats ++ [(node, isMultipart)]

namespace NotesFormat

/-- A step that notes a format lets the catalogue grow. -/
theorem grown (notes : NotesFormat format? before after) : Grown before after := by
  -- Whether there is a format to be noted or not, the growth is the first thing that is told.
  cases format? with
  | none => exact notes.1
  | some format => exact notes.1

/-- No note is lost. -/
theorem kept (notes : NotesFormat format? before after) :
    before.bodyFormats ⊆ after.bodyFormats := by
  -- Either nothing is noted or one note comes last.
  cases format? with
  | none => exact notes.2 ▸ List.Subset.refl _
  | some format =>
    obtain ⟨-, node, -, same⟩ := notes
    exact same ▸ List.subset_append_left _ _

/-- The format that a step is to note is noted when it ends. -/
theorem noted {type : TypeId} {isMultipart : Bool}
    (notes : NotesFormat (some (type, isMultipart)) before after) :
    ∃ node, Remembered type node after ∧ (node, isMultipart) ∈ after.bodyFormats := by
  -- The format is the last entry of the new list.
  obtain ⟨-, node, known, same⟩ := notes
  exact ⟨node, known, same ▸ List.mem_append_right _ (List.mem_singleton_self _)⟩

/-- A format that is noted was noted before, or is the one of the body. -/
theorem mem_cases (notes : NotesFormat format? before after) {node : NodeId} {isMultipart : Bool}
    (listed : (node, isMultipart) ∈ after.bodyFormats) :
    (node, isMultipart) ∈ before.bodyFormats ∨
      ∃ type, format? = some (type, isMultipart) ∧ Remembered type node after := by
  -- Where nothing is noted, all notes are old; where one is, it is the last one.
  cases format? with
  | none => exact .inl (notes.2 ▸ listed)
  | some format =>
    obtain ⟨-, other, known, same⟩ := notes
    rw [same] at listed
    refine (List.mem_append.mp listed).imp_right fun last => ?_
    obtain ⟨rfl, rfl⟩ := Prod.mk.inj (List.mem_singleton.mp last)
    exact ⟨_, rfl, known⟩

/-- A note stays the last one as long as no other format is noted. -/
theorem lasts (format? : Option (TypeId × Bool)) (start : State) :
    LastsAlong KeepsFormats (NotesFormat format? start) := by
  rintro before after notes ⟨grown, same⟩
  -- No other note comes after it, and the node is remembered as before.
  cases format? with
  | none => exact ⟨notes.1.trans grown, same.trans notes.2⟩
  | some format =>
    obtain ⟨had, node, known, noted⟩ := notes
    exact ⟨had.trans grown, node, lasting_remembered _ _ before after known grown,
      same.trans noted⟩

end NotesFormat

/-- A failure of the method leaves the note of its body if sources were looked for, else none. -/
def Leaves (format? : Option (TypeId × Bool)) (start : State) (failure : Failure)
    (state : State) : Prop :=
  failure.endsRun = false →
    if failure.isMissing then NotesFormat format? start state else KeepsFormats start state

section

variable {α : Type} {start : State} {step : Derive α}

/-- A failure for anything but missing sources leaves no note. -/
theorem Leaves.of_found {failure : Failure} (found : failure.isMissing = false)
    (same : failure.endsRun = false → KeepsFormats start state) :
    Leaves format? start failure state := by
  -- Only a failure for missing sources has to leave a note, and this is none.
  intro isOwn
  rw [found]
  exact same isOwn

/-- Before a format is noted, no step fails for want of sources. -/
theorem Keeps.early {held : State → Prop}
    (keeps : Keeps held (fun failure => failure.isMissing = false) step)
    (same : ∀ state, held state → KeepsFormats start state) :
    Ensures held step (fun _ => held) (Leaves format? start) :=
  -- Until then all that is held is told of the formats as they were.
  keeps.weaken (fun _ holds => holds) (fun _ _ holds => holds) fun _ _ fails =>
    .of_found fails.1 fun isOwn => same _ (fails.2 isOwn)

/-- Once a format is noted, all that a method may fail for is that there are no sources. -/
theorem Keeps.late
    (keeps : Keeps (NotesFormat format? start)
      (fun failure => failure.endsRun = true ∨ failure.isMissing = true) step) :
    Ensures (NotesFormat format? start) step (fun _ => NotesFormat format? start)
      (Leaves format? start) := by
  -- Any other failure ends the run, and there is nothing to tell of the state then.
  refine keeps.weaken (fun _ notes => notes) (fun _ _ notes => notes) ?_
  rintro failure state ⟨ends | missing, notes⟩ isOwn
  · rw [ends] at isOwn
    cases isOwn
  · rw [missing]
    exact notes isOwn

end

/-- Until the body is derived, no format is noted, and no sources are looked for. -/
theorem KeepsFormats.found (context : Context) (client : ContainerId) (start : State) :
    Elevating context client (KeepsFormats start) fun failure => failure.isMissing = false :=
  elevating context client start fun _ => rfl

/-- From then on, the note stays, and a failure ends the run or is for want of sources. -/
theorem NotesFormat.stays (context : Context) (client : ContainerId)
    (format? : Option (TypeId × Bool)) (start : State) :
    Elevating context client (NotesFormat format? start)
      fun failure => failure.endsRun = true ∨ failure.isMissing = true :=
  -- The note is there, and none of the later steps takes one back.
  (lasts format? start).elevating fun start =>
    KeepsFormats.elevating context client start fun _ => Or.inl rfl

namespace Context

/-! ## Requests -/

/-- What a body is used for tells whether it is sent as a multipart message. -/
theorem contains_usage_of_body (contentTypes : List String) (isSpread : Bool) :
    (Usage.input ||| ContentType.usages contentTypes |||
      (if isSpread then Usage.spread else Usage.none)).contains .multipartFormData =
        contentTypes.any ContentType.isMultipart := by
  have input : Usage.input.contains .multipartFormData = false := rfl
  have spread : (if isSpread then Usage.spread else Usage.none).contains .multipartFormData =
      false := by
    cases isSpread <;> rfl
  -- Neither input nor a spread body has to do with it.
  rw [Usage.contains_union_multipartFormData, Usage.contains_union_multipartFormData, input,
    ContentType.contains_usages, spread, Bool.false_or, Bool.or_false]

/-- Deriving the body notes its format last, when nothing can go wrong with it any more. -/
theorem body?_notes (access : Access) (start : State) :
    Ensures (KeepsFormats start) (context.body? operation client access)
      (fun _ => NotesFormat (context.definition.bodyFormat? operation) start)
      (Leaves (context.definition.bodyFormat? operation) start) := by
  have lenient : Lenient fun failure => failure.isMissing = false := fun _ _ found => found
  have found := KeepsFormats.found context client
  unfold body? Service.Definition.bodyFormat? Service.Definition.bodyType?
    Service.Definition.contentTypesOf
  dsimp only
  -- Without a body there is nothing to note.
  cases (context.definition.operationAt operation).bodies with
  | nil => exact Ensures.pure fun _ same => same
  | cons first others =>
    dsimp only
    split
    · exact Ensures.throw_bind fun _ same _ => same
    · split
      · exact Ensures.pure fun _ same => same
      · have finds := ((found start).node first.type).both (nodeWithin_finds _ first.type)
        refine Ensures.bind (finds.weaken (fun _ same => ⟨same, trivial⟩) (fun _ _ ends => ends)
          fun _ _ fails => .of_found fails.1.1 fails.1.2) fun type => ?_
        -- The node of the type is remembered until it is noted.
        have lasts : LastsAlong KeepsFormats fun state => KeepsFormats start state ∧
            Remembered (context.definition.payloadType first.type) type state :=
          fun before after held led => ⟨⟨held.1.1.trans led.1, led.2.trans held.1.2⟩,
            lasting_remembered _ _ before after held.2 led.1⟩
        have steps := lasts.elevating found
        refine Ensures.bind ((steps.bodyParameter lenient operation _ type _).early
          fun _ => And.left) fun body => ?_
        refine Ensures.bind ((Keeps.modelAt? type).early fun _ => And.left) fun model => ?_
        refine Ensures.bind ((steps.addSeed type _ access).early fun _ => And.left) fun _ => ?_
        refine Ensures.via (fun _ => NotesFormat _ start) (Ensures.modify ?_)
          fun _ => .pure fun _ => id
        rintro state ⟨⟨grown, same⟩, known⟩
        refine ⟨grown.noted _ _ _ _, type, known, ?_⟩
        rw [contains_usage_of_body, same]

/-- A request notes the format of its body, and a failure before that notes none. -/
theorem httpOperation_notes (access : Access) (parameters : List Property) (start : State) :
    Ensures (KeepsFormats start) (context.httpOperation operation client access parameters)
      (fun _ => NotesFormat (context.definition.bodyFormat? operation) start)
      (Leaves (context.definition.bodyFormat? operation) start) := by
  have lenient : Lenient fun failure => failure.isMissing = false := fun _ _ found => found
  have searching : Searching fun failure => failure.endsRun = true ∨ failure.isMissing = true :=
    fun _ missing => Or.inr missing
  have steps := KeepsFormats.found context client start
  have others := NotesFormat.stays context client (context.definition.bodyFormat? operation) start
  unfold httpOperation
  -- What comes before the body may fail for anything but missing sources, with nothing noted.
  refine Ensures.bind ((steps.outcomes operation access).early fun _ => id) fun outcomes => ?_
  refine Ensures.bind ((Keeps.filterMapM _ fun slot =>
    steps.slotParameter? lenient operation access slot).early fun _ => id) fun wire => ?_
  refine Ensures.bind (body?_notes access start) fun body => ?_
  -- The note is there, and whatever follows leaves it alone.
  refine Ensures.bind (others.negotiateBody operation body wire parameters).late fun _ => ?_
  refine Ensures.bind (others.negotiateResponses operation outcomes _ _).late fun _ => ?_
  refine Ensures.bind (others.elevateAll _).late fun _ => ?_
  refine Ensures.bind (Keeps.mapM _ fun parameter =>
    searching.traceParameter operation client _ parameter).late fun traced => ?_
  exact Ensures.bind (Keeps.optionMapM _ fun parameter =>
    searching.traceParameter operation client _ parameter).late fun _ => .pure fun _ => id

/-! ## Methods -/

/-- A method that is built notes the format of its body. -/
theorem buildMethod_notes (start : State) :
    Ensures (KeepsFormats start) (context.buildMethod operation client)
      (fun _ => NotesFormat (context.definition.bodyFormat? operation) start)
      (Leaves (context.definition.bodyFormat? operation) start) := by
  have steps := KeepsFormats.found context client start
  have others := NotesFormat.stays context client (context.definition.bodyFormat? operation) start
  unfold buildMethod
  dsimp only
  -- Parameters come before the body, and all else after it.
  refine Ensures.bind ((Keeps.filterMapM _ fun id =>
    steps.methodParameter? operation _ id).early fun _ => id) fun parameters => ?_
  refine Ensures.bind (httpOperation_notes _ parameters start) fun http => ?_
  refine Ensures.bind (others.methodResponse operation _ _).late fun response => ?_
  refine Ensures.look fun current => ?_
  split
  · exact Ensures.bind (others.polling? operation _ _ _).late fun _ => .pure fun _ => id
  · exact Ensures.pure fun _ => id

end Context

/-- The attempt came as far as the sources for its request, with the body noted by then. -/
def Attempt.isGathered (attempt : Attempt) : Bool :=
  match attempt.outcome with
  | .ok _ => true
  | .error failure => failure.isMissing

/-- The format that is left noted by an attempt: none where the method is not wanted. -/
def Attempt.bodyFormat? (context : Context) (attempt : Attempt) : Option (TypeId × Bool) :=
  if context.isConvenient attempt.operation && attempt.isGathered then
    context.definition.bodyFormat? attempt.operation
  else none

namespace Context

/-- A method leaves the format of its body, unless it is not wanted or fails before that. -/
theorem method_notes {outcome : Except Failure Method}
    (run : context.method operation client before = (outcome, after))
    (own : ∀ failure, outcome = .error failure → failure.endsRun = false) :
    NotesFormat (Attempt.bodyFormat? context { operation, outcome }) before after := by
  -- Only a method that is wanted on typed values notes a format.
  by_cases wanted : context.isConvenient operation = true
  · have notes := @buildMethod_notes context operation client before
    rw [method_run] at run
    cases builds : context.buildMethod operation client before with
    | mk built between =>
      rw [builds] at run
      simp only [wanted, if_true] at run
      cases built with
      | ok method =>
        cases run
        simpa [Attempt.bodyFormat?, Attempt.isGathered, wanted, Except.map] using
          notes.ok (refl before) builds
      | error failure =>
        cases run
        -- Whether the format is noted depends on whether sources were looked for.
        have leaves := notes.error (refl before) builds (own failure rfl)
        simp only [Attempt.bodyFormat?, Attempt.isGathered, wanted, Except.map, Bool.true_and]
        split at leaves
        · rwa [if_pos ‹_›]
        · rwa [if_neg ‹_›]
  · -- All notes on usage are taken back.
    obtain ⟨accrued, none⟩ := method_accrues run own
    have unwanted : context.isConvenient operation = false := Bool.not_eq_true _ ▸ wanted
    simp only [Attempt.bodyFormat?, unwanted, Bool.false_and]
    exact ⟨accrued.toGrown, (none unwanted).2⟩

end Context

/-! ## Recorded runs -/

/-- All formats that are noted were left by some attempts, and these have left no others. -/
structure Noted (context : Context) (attempts : List Attempt) (state : State) : Prop where
  all : ∀ attempt ∈ attempts, ∀ type isMultipart,
    attempt.bodyFormat? context = some (type, isMultipart) →
      ∃ node, Remembered type node state ∧ (node, isMultipart) ∈ state.bodyFormats
  only : ∀ node isMultipart, (node, isMultipart) ∈ state.bodyFormats →
    ∃ attempt ∈ attempts, ∃ type, attempt.bodyFormat? context = some (type, isMultipart) ∧
      Remembered type node state

namespace Noted

variable {attempts others : List Attempt}

/-- At the start no format is noted and no attempt was made. -/
theorem start (context : Context) : Noted context [] {} :=
  ⟨fun _ none => absurd none List.not_mem_nil, fun _ _ none => absurd none List.not_mem_nil⟩

/-- The order of attempts does not matter. -/
theorem congr (noted : Noted context attempts state)
    (same : ∀ attempt, attempt ∈ others ↔ attempt ∈ attempts) : Noted context others state where
  all attempt listed := noted.all attempt ((same attempt).mp listed)
  only node isMultipart listed := by
    obtain ⟨attempt, left, format⟩ := noted.only node isMultipart listed
    exact ⟨attempt, (same attempt).mpr left, format⟩

/-- What was noted for some attempts lasts as long as no format is noted. -/
theorem lasts (context : Context) (attempts : List Attempt) :
    LastsAlong KeepsFormats (Noted context attempts) := by
  rintro before after noted ⟨grown, same⟩
  -- Both ways: each format has its note, and each note its format.
  refine ⟨fun attempt listed type isMultipart format => ?_, fun node isMultipart listed => ?_⟩
  · obtain ⟨node, known, listed⟩ := noted.all attempt listed type isMultipart format
    exact ⟨node, lasting_remembered _ _ before after known grown, same ▸ listed⟩
  · obtain ⟨attempt, left, type, format, known⟩ := noted.only node isMultipart (same ▸ listed)
    exact ⟨attempt, left, type, format, lasting_remembered _ _ before after known grown⟩

/-- One more attempt leaves its format, if it leaves any. -/
theorem append (noted : Noted context attempts before) {attempt : Attempt}
    (notes : NotesFormat (attempt.bodyFormat? context) before after) :
    Noted context (attempts ++ [attempt]) after := by
  -- The earlier attempts have their notes still; the last one brings its own, if it has any.
  refine ⟨fun other listed type isMultipart format => ?_, fun node isMultipart listed => ?_⟩
  · rcases List.mem_append.mp listed with earlier | last
    · obtain ⟨node, known, left⟩ := noted.all other earlier type isMultipart format
      exact ⟨node, lasting_remembered _ _ before after known notes.grown, notes.kept left⟩
    · rw [← List.mem_singleton.mp last, format] at notes
      exact notes.noted
  · rcases notes.mem_cases listed with earlier | ⟨type, format, known⟩
    · obtain ⟨other, left, type, format, known⟩ := noted.only node isMultipart earlier
      exact ⟨other, List.mem_append_left _ left, type, format,
        lasting_remembered _ _ before after known notes.grown⟩
    · exact ⟨attempt, List.mem_append_right _ (List.mem_singleton_self _), type, format, known⟩

end Noted

namespace Context

/-- An attempt at a method leaves its format along with those of earlier ones. -/
theorem attemptMethod_noted (attempts : List Attempt) (container : ContainerId)
    (operation : OperationId) :
    Ensures (Noted context attempts) (context.attemptMethod container operation)
      (fun attempt => Noted context (attempts ++ [attempt])) fun _ _ => True := by
  refine Ensures.intro ?_ fun _ _ _ _ _ => trivial
  intro before attempt after noted run
  unfold attemptMethod at run
  cases tried : context.method operation container before with
  | mk outcome between =>
    -- A method that was built is the whole attempt, and a failure is reported.
    rw [bind_ok (attempt_run tried)] at run
    cases outcome with
    | ok method =>
      cases run
      exact noted.append (method_notes tried nofun)
    | error failure =>
      dsimp only at run
      split at run
      · cases run
      · rename_i isOwn
        -- The failure is reported, which notes no format.
        have notes := method_notes tried fun other same => by
          cases same
          simpa using isOwn
        cases run
        exact noted.append (NotesFormat.lasts _ _ between _ notes ⟨(Grown.refl _).report _, rfl⟩)

/-- So it is with attempts one after the other. -/
theorem attempts_noted (attempts : List Attempt) (container : ContainerId)
    (operations : List OperationId) :
    Ensures (Noted context attempts) (operations.mapM (context.attemptMethod container))
      (fun made => Noted context (attempts ++ made)) fun _ _ => True := by
  -- One by one, with those that were made so far in front.
  have all : Ensures (Noted context (attempts ++ []))
      (operations.mapM (context.attemptMethod container))
      (fun made => Noted context (attempts ++ ([] ++ made))) fun _ _ => True := by
    refine Ensures.mapM (fun made => Noted context (attempts ++ made)) operations
      (fun operation _ made => ?_) []
    simpa using attemptMethod_noted (attempts ++ made) container operation
  simpa using all

mutual

/-- The attempts of a client come after those of its sub-clients. -/
theorem recordedClientOf_noted (isRoot : Bool) (name : String) : (tree : ClientTree) →
    (attempts : List Attempt) →
    Ensures (Noted context attempts) (context.recordedClientOf isRoot name tree)
      (fun result => Noted context (attempts ++ result.2.flatMap Record.attempts))
      fun _ _ => True
  | .node container groups, attempts => by
    have providing (attempts : List Attempt) :=
      (Noted.lasts context attempts).providing (KeepsFormats.providing context)
    unfold recordedClientOf
    refine Keeps.told ((providing attempts).initializationOf container isRoot) fun ways => ?_
    refine Keeps.told (Keeps.mapM _ fun id => (providing attempts).customParameter trivial id)
      fun custom => ?_
    refine Ensures.bind (recordedClientsOf_noted groups attempts) fun below => ?_
    refine Ensures.bind (attempts_noted _ container _) fun made => ?_
    refine Keeps.told ((providing _).initializationParameters container below.1 custom)
      fun parameters => Ensures.pure fun state noted => noted.congr fun attempt => ?_
    -- The record of the client stands first, though its attempts were made last.
    simp only [List.flatMap_cons, List.mem_append]
    tauto

/-- So it is with clients, one after the other, by induction on their trees. -/
theorem recordedClientsOf_noted : (trees : List ClientTree) → (attempts : List Attempt) →
    Ensures (Noted context attempts) (context.recordedClientsOf trees)
      (fun result => Noted context (attempts ++ result.2.flatMap Record.attempts))
      fun _ _ => True
  | [], attempts => by
    unfold recordedClientsOf
    exact Ensures.pure fun _ noted => by simpa using noted
  | group :: rest, attempts => by
    unfold recordedClientsOf
    refine Ensures.bind (recordedClientOf_noted false _ group attempts) fun first => ?_
    -- What the first client has noted comes before the formats of those after it.
    refine Ensures.bind (recordedClientsOf_noted rest _) fun others => Ensures.pure ?_
    exact fun _ noted => by simpa [List.append_assoc] using noted

end

/-- In the end, the formats that are noted are those that the attempts on record have left. -/
theorem recordedClients_noted :
    Ensures (Noted context []) context.recordedClients
      (fun result => Noted context (result.2.flatMap Record.attempts)) fun _ _ => True := by
  -- Clients come first, and orphan types leave no format.
  have each : Ensures (Noted context []) ((rootClients context.definition context.choices).mapM
      fun root => context.recordedClientOf true (context.rootName root)
        (context.clientTree root.container))
      (fun parts => Noted context ((parts.flatMap Prod.snd).flatMap Record.attempts))
      fun _ _ => True := by
    refine Ensures.mapM (fun parts => Noted context ((parts.flatMap Prod.snd).flatMap
      Record.attempts)) _ (fun root _ done => ?_) []
    simpa using recordedClientOf_noted true (context.rootName root)
      (context.clientTree root.container) ((done.flatMap Prod.snd).flatMap Record.attempts)
  unfold recordedClients
  refine Ensures.bind each fun parts => ?_
  have providing := (Noted.lasts context ((parts.flatMap Prod.snd).flatMap
    Record.attempts)).providing (KeepsFormats.providing context)
  exact Keeps.told providing.orphans fun _ => Ensures.pure fun _ noted => noted

end Context

end Derivation

end ClientModel
