import ClientModel.Proofs.Tracing

/-!
Which method parameters for segments of a path are dropped, and what a method loses by it.

A method parameter that is bound to a segment is kept if the path of the request has a segment that
was declared with it. Sources, however, are also found by name and by alias, and for parameters at
any place. What is sent may thus lose each parameter that it could have been taken from.
-/

namespace ClientModel.Derivation

open Service (Definition)

namespace Context

variable (context : Context)

/-- A parameter is bound to a segment, and no segment that is sent was declared with it. -/
def IsStray (wire : List Property) (parameter : Property) : Prop :=
  ∃ origin name, parameter.origin = some origin ∧
    (context.definition.propertyAt origin).binding = some (.path name) ∧
    ∀ segment ∈ wire, ∀ urlEncode, segment.role = .path urlEncode →
      context.sameDeclaration parameter segment = false

/-- All that a parameter of a request could be taken from are stray parameters of the method. -/
structure DependsOnStrays (client : ContainerId) (supply : Supply) (wire : List Property)
    (wanted : Property) : Prop where
  ofClient : context.clientSupplier? client supply wanted = none
  same : ∀ parameter ∈ supply.methodParameters, context.isSame wanted parameter = true →
    context.IsStray wire parameter
  /-- No body is put together either: it has no members, or one of them has strays alone. -/
  members : bodyMembers supply wanted ≠ [] → ∃ member ∈ bodyMembers supply wanted,
    (∀ parameter ∈ supply.clientParameters, context.isSame member parameter = false) ∧
      ∀ parameter ∈ supply.methodParameters, context.isSame member parameter = true →
        context.IsStray wire parameter
  holders : ∀ parameter ∈ supply.methodParameters, ∀ model,
    supply.catalogue.model? parameter.type = some model →
      (∃ member ∈ model.properties, context.isSame wanted member = true) →
        context.IsStray wire parameter

variable {context} {operation : OperationId} {client : ContainerId} {supply : Supply}
  {wire method : List Property} {wanted parameter : Property}

/-! ## What is kept -/

/-- What was declared shares its declaration with whatever has the same root. -/
theorem sameDeclaration_iff {origin : PropertyId} {other : Property}
    (isOrigin : parameter.origin = some origin) :
    context.sameDeclaration parameter other = true ↔
      other.origin.map context.definition.rootSource =
        some (context.definition.rootSource origin) := by
  -- Only a declared parameter has a root, and roots are compared.
  rw [sameDeclaration, isOrigin]
  cases other.origin with
  | none => simp
  | some second =>
    simp only [Option.map_some, Option.some.injEq, beq_iff_eq]
    exact eq_comm

/-- A parameter of a method is dropped just if it is a stray one. -/
theorem mem_dropUnusedSegments :
    parameter ∈ context.dropUnusedSegments wire method ↔
      parameter ∈ method ∧ ¬context.IsStray wire parameter := by
  unfold dropUnusedSegments IsStray
  dsimp only
  rw [List.mem_filter]
  apply and_congr_right
  intro _
  -- Only what was declared and bound to a segment can be dropped.
  cases isOrigin : parameter.origin with
  | none => simp
  | some origin =>
    dsimp only
    cases isBinding : (context.definition.propertyAt origin).binding with
    | none => simp [isBinding]
    | some binding =>
      cases binding with
      | path name =>
        simp only [List.contains_iff_mem, List.mem_filterMap, List.mem_filter]
        constructor
        -- A segment with the root of the parameter speaks against its being stray.
        · rintro ⟨segment, ⟨sent, isSegment⟩, sameRoot⟩ ⟨other, _, isOther, _, apart⟩
          obtain rfl := Option.some.inj isOther
          split at isSegment
          · rename_i urlEncode role
            have shared := (sameDeclaration_iff isOrigin).mpr sameRoot
            rw [apart segment sent urlEncode role] at shared
            cases shared
          · cases isSegment
        -- If no segment had it, the parameter would be stray.
        · intro notStray
          by_contra missing
          refine notStray ⟨origin, name, rfl, isBinding, fun segment sent urlEncode role => ?_⟩
          by_contra shared
          have sameRoot := (sameDeclaration_iff isOrigin).mp (by simpa using shared)
          exact missing ⟨segment, ⟨sent, by rw [role]⟩, sameRoot⟩
      | _ => simp [isBinding]

/-- What was declared with a segment that is sent is kept. -/
theorem not_isStray_of_sameDeclaration {segment : Property} (sent : segment ∈ wire)
    {urlEncode : Bool} (role : segment.role = .path urlEncode)
    (shared : context.sameDeclaration parameter segment = true) :
    ¬context.IsStray wire parameter := by
  -- A stray has no segment that is sent among its declarations.
  intro isStray
  obtain ⟨_, _, _, _, apart⟩ := isStray
  rw [apart segment sent urlEncode role] at shared
  cases shared

/-! ## What is lost -/

/-- Beside the parameters that a client supplies, what is kept is what is no stray. -/
theorem hasSame_kept_iff :
    context.HasSame
        { supply with methodParameters := context.dropUnusedSegments wire supply.methodParameters }
        wanted ↔
      (∃ parameter ∈ supply.clientParameters, context.isSame wanted parameter = true) ∨
        ∃ parameter ∈ supply.methodParameters, context.isSame wanted parameter = true ∧
          ¬context.IsStray wire parameter := by
  -- What is kept is what the client supplies and, of the method's own, what is no stray.
  simp only [HasSame, List.mem_append, mem_dropUnusedSegments]
  constructor
  · intro has
    obtain ⟨parameter, ofClient | ⟨ofMethod, kept⟩, same⟩ := has
    · exact .inl ⟨parameter, ofClient, same⟩
    · exact .inr ⟨parameter, ofMethod, same, kept⟩
  · intro found
    rcases found with ⟨parameter, ofClient, same⟩ | ⟨parameter, ofMethod, same, kept⟩
    · exact ⟨parameter, .inl ofClient, same⟩
    · exact ⟨parameter, .inr ⟨ofMethod, kept⟩, same⟩

/-- Without stray parameters, what does not resolve is what depends on them. -/
theorem not_resolves_kept_iff :
    ¬context.Resolves client
        { supply with methodParameters := context.dropUnusedSegments wire supply.methodParameters }
        wanted ↔ context.DependsOnStrays client supply wire wanted := by
  rw [resolves_iff, holder?_isSome_iff]
  simp only [mem_dropUnusedSegments, not_or]
  constructor
  · -- Each of the four ways to resolve is closed, by strays being dropped.
    intro lacks
    obtain ⟨ofClient, same, incomplete, holders⟩ := lacks
    refine
      { ofClient := Option.not_isSome_iff_eq_none.mp ofClient
        same := fun parameter ofMethod isSame => ?same
        members := fun some => ?members
        holders := fun parameter ofMethod model isModel holds => ?holders }
    case same =>
      by_contra kept
      exact same ⟨parameter, ⟨ofMethod, kept⟩, isSame⟩
    case members =>
      -- Some member is left without a parameter, or the body could be put together.
      have unsupplied : ∃ member ∈ bodyMembers supply wanted, ¬context.HasSame
          { supply with
            methodParameters := context.dropUnusedSegments wire supply.methodParameters }
          member := by
        by_contra none
        push Not at none
        exact incomplete ⟨some, none⟩
      obtain ⟨member, isMember, lacks⟩ := unsupplied
      rw [hasSame_kept_iff, not_or] at lacks
      refine ⟨member, isMember, fun parameter ofClient => ?_, fun parameter ofMethod isSame => ?_⟩
      · by_contra isSame
        exact lacks.1 ⟨parameter, ofClient, by simpa using isSame⟩
      · by_contra kept
        exact lacks.2 ⟨parameter, ofMethod, isSame, kept⟩
    case holders =>
      by_contra kept
      exact holders ⟨parameter, ⟨ofMethod, kept⟩, model, isModel, holds⟩
  · -- Conversely each of the ways to resolve would take a parameter that is left, and those are
    -- strays.
    intro depends
    refine ⟨Option.not_isSome_iff_eq_none.mpr depends.ofClient, ?_, ?_, ?_⟩
    · rintro ⟨parameter, ⟨ofMethod, kept⟩, isSame⟩
      exact kept (depends.same parameter ofMethod isSame)
    · rintro ⟨some, each⟩
      obtain ⟨member, isMember, noneOfClient, strays⟩ := depends.members some
      rcases hasSame_kept_iff.mp (each member isMember) with
        ⟨parameter, ofClient, isSame⟩ | ⟨parameter, ofMethod, isSame, kept⟩
      · rw [noneOfClient parameter ofClient] at isSame
        cases isSame
      · exact kept (strays parameter ofMethod isSame)
    · rintro ⟨parameter, ⟨ofMethod, kept⟩, model, isModel, holds⟩
      exact kept (depends.holders parameter ofMethod model isModel holds)

/-- What resolves among all parameters, but depends on strays, shows that there are some. -/
theorem exists_isStray (resolves : context.Resolves client supply wanted)
    (depends : context.DependsOnStrays client supply wire wanted) :
    ∃ parameter ∈ supply.methodParameters, context.IsStray wire parameter := by
  -- By the way in which it resolves: what it resolves by is a stray, as it depends on strays.
  rcases resolves_iff.mp resolves with ofClient | same | complete | held
  · rw [depends.ofClient] at ofClient
    cases ofClient
  · obtain ⟨parameter, ofMethod, isSame⟩ := same
    exact ⟨parameter, ofMethod, depends.same parameter ofMethod isSame⟩
  · -- The member that has strays alone has a parameter all the same.
    obtain ⟨member, isMember, noneOfClient, strays⟩ := depends.members complete.1
    obtain ⟨parameter, listed, isSame⟩ := complete.2 member isMember
    rcases List.mem_append.mp listed with ofClient | ofMethod
    · rw [noneOfClient parameter ofClient] at isSame
      cases isSame
    · exact ⟨parameter, ofMethod, strays parameter ofMethod isSame⟩
  · obtain ⟨parameter, ofMethod, model, isModel, holds⟩ := holder?_isSome_iff.mp held
    exact ⟨parameter, ofMethod, depends.holders parameter ofMethod model isModel holds⟩

/-- What is missing is reported with one of two codes. -/
theorem code_missing :
    (context.missing operation supply wanted).code = Code.noCorrespondingParameter ∨
      (context.missing operation supply wanted).code = Code.spreadNotResolved := by
  unfold missing
  dsimp only
  split
  · exact .inl rfl
  · exact .inr rfl

/-- If all that is sent would resolve, a method fails just if some of it depends on strays. -/
theorem method_fails_iff_dependsOnStrays {state between : State} {request : Request}
    (run : context.gather operation client state = (.ok request, between)) :
    (∃ failure : Failure, failure.endsRun = false ∧
        (context.method operation client state).1 = .error failure) ↔
      ∃ wanted ∈ request.sent, context.DependsOnStrays client
        (between.supply context client request.parameters) request.wire wanted := by
  have kept : between.supply context client (context.keptParameters request) =
      { between.supply context client request.parameters with
        methodParameters := context.dropUnusedSegments request.wire request.parameters } := rfl
  -- To depend on strays is to be left without sources by what is kept.
  simp only [← not_resolves_kept_iff]
  rw [← exists_isFirstMissing]
  constructor
  · intro fails
    obtain ⟨failure, structural, isFailure⟩ := fails
    obtain ⟨wanted, first, -⟩ := (method_error_iff_missing run structural).mp isFailure
    exact ⟨wanted, kept ▸ first⟩
  · intro missing
    obtain ⟨wanted, first⟩ := missing
    exact ⟨_, missing_structural,
      (method_error_iff_missing run missing_structural).mpr ⟨wanted, kept ▸ first, rfl⟩⟩

end Context

/--
Method parameters for segments that the path does not have are dropped, whatever depends on them.

Whatever was declared with a segment that is sent is kept. What matches a parameter of a request by
its name or an alias, or one that is sent elsewhere than in the path, is a stray one, and is dropped
with the others. A method of which all that is sent would find sources among all parameters then
fails just if some of it depends on strays: if no client supplies it, all parameters that it matches
are strays, and so are all that might supply a member of it or hold it as a member.
-/
theorem dropping_fails_what_depends_on_strays (definition : Definition) (options : Options) :
    let context := Context.of definition options
    (∀ wire method,
      (∀ segment ∈ wire, ∀ urlEncode, segment.role = .path urlEncode → ∀ parameter ∈ method,
        context.sameDeclaration parameter segment = true →
          parameter ∈ context.dropUnusedSegments wire method) ∧
      ∀ wanted,
        (¬∃ parameter ∈ context.dropUnusedSegments wire method,
          context.isSame wanted parameter = true) ↔
        ∀ parameter ∈ method, context.isSame wanted parameter = true →
          context.IsStray wire parameter) ∧
    ∀ operation client state request between,
      context.gather operation client state = (.ok request, between) →
      (∀ wanted ∈ request.sent, context.Resolves client
        (between.supply context client request.parameters) wanted) →
      ((∃ failure : Failure, failure.endsRun = false ∧
          (context.method operation client state).1 = .error failure) ↔
        ∃ wanted ∈ request.sent, context.DependsOnStrays client
          (between.supply context client request.parameters) request.wire wanted) ∧
      ∀ failure : Failure, failure.endsRun = false →
        (context.method operation client state).1 = .error failure →
          (failure.code = Code.noCorrespondingParameter ∨
            failure.code = Code.spreadNotResolved) ∧
          ∃ parameter ∈ request.parameters, context.IsStray request.wire parameter := by
  -- First what dropping does to any list, and then what it does to methods.
  intro context
  refine ⟨fun wire method => ⟨?segments, fun wanted => ?lost⟩, ?methods⟩
  case segments =>
    intro segment sent urlEncode role parameter ofMethod shared
    exact Context.mem_dropUnusedSegments.mpr
      ⟨ofMethod, Context.not_isStray_of_sameDeclaration sent role shared⟩
  case lost =>
    simp only [Context.mem_dropUnusedSegments, not_exists, not_and]
    constructor
    · intro lost parameter ofMethod isSame
      by_contra kept
      exact lost parameter ⟨ofMethod, kept⟩ isSame
    · intro strays parameter kept isSame
      exact kept.2 (strays parameter kept.1 isSame)
  case methods =>
    intro operation client state request between run resolves
    have iff := Context.method_fails_iff_dependsOnStrays run
    refine ⟨iff, fun failure structural fails => ⟨?_, ?_⟩⟩
    · obtain ⟨wanted, -, rfl⟩ := (Context.method_error_iff_missing run structural).mp fails
      exact Context.code_missing
    · -- What fails would have resolved among all parameters, so that one of them is a stray.
      obtain ⟨wanted, sent, depends⟩ := iff.mp ⟨failure, structural, fails⟩
      exact Context.exists_isStray (resolves wanted sent) depends

/-- A plant is asked for by an identifier, for which the method declares a parameter of its own. -/
def garden : Definition where
  types := #[{ shape := .scalar { name := "string" } }]
  properties := #[{ name := "id", type := ⟨0⟩, binding := some (.path "id") },
    { name := "id", type := ⟨0⟩, binding := some (.path "id") }]
  operations := #[
    { name := "get", container := ⟨0⟩, verb := .get, path := "/plants/\x7bid\x7d"
      parameters := [⟨1⟩], slots := [⟨⟨0⟩, none⟩] }]
  containers := #[{ name := "Garden", operations := [⟨0⟩], service := some {} }]

/-- In the garden the segment depends on the one parameter, which is a stray one. -/
theorem dropping_fails_what_depends_on_strays_garden :
    ∃ request between, (Context.of garden {}).gather ⟨0⟩ ⟨0⟩ {} = (.ok request, between) ∧
      (∀ wanted ∈ request.sent, (Context.of garden {}).Resolves ⟨0⟩
        (between.supply (Context.of garden {}) ⟨0⟩ request.parameters) wanted) ∧
      (∃ wanted ∈ request.sent, (Context.of garden {}).DependsOnStrays ⟨0⟩
        (between.supply (Context.of garden {}) ⟨0⟩ request.parameters) request.wire wanted) ∧
      ∃ parameter ∈ request.parameters,
        (Context.of garden {}).IsStray request.wire parameter := by
  have supplied : (((Context.of garden {}).gather ⟨0⟩ ⟨0⟩ {}).1.toOption.any fun request =>
      ∀ wanted ∈ request.sent, ((Context.of garden {}).supplier? ⟨0⟩
        (((Context.of garden {}).gather ⟨0⟩ ⟨0⟩ {}).2.supply (Context.of garden {}) ⟨0⟩
          request.parameters) wanted).isSome) = true := by
    decide +kernel
  -- That the method fails is decided; that it does for its strays is told by the theorem.
  have fails : ∃ failure : Failure, failure.endsRun = false ∧
      ((Context.of garden {}).method ⟨0⟩ ⟨0⟩ {}).1 = .error failure := by
    have reported : (((Context.of garden {}).method ⟨0⟩ ⟨0⟩ {}).1.map fun _ => ()).mapError
        Failure.endsRun = .error false := by
      decide +kernel
    cases outcome : ((Context.of garden {}).method ⟨0⟩ ⟨0⟩ {}).1 with
    | ok method => simp [outcome, Except.map, Except.mapError] at reported
    | error failure =>
      exact ⟨failure, by simpa [outcome, Except.map, Except.mapError] using reported, rfl⟩
  obtain ⟨_, methods⟩ := dropping_fails_what_depends_on_strays garden {}
  rcases run : (Context.of garden {}).gather ⟨0⟩ ⟨0⟩ {} with ⟨failure | request, between⟩
  · rw [run] at supplied
    cases supplied
  · rw [run] at supplied
    -- Every parameter of the request is supplied as a whole, which makes it resolve.
    have all : ∀ wanted ∈ request.sent, _ := of_decide_eq_true supplied
    have resolves : ∀ wanted ∈ request.sent, (Context.of garden {}).Resolves ⟨0⟩
        (between.supply (Context.of garden {}) ⟨0⟩ request.parameters) wanted := by
      intro wanted sent
      obtain ⟨supplier, found⟩ := Option.isSome_iff_exists.mp (all wanted sent)
      exact .whole supplier found
    obtain ⟨iff, blames⟩ := methods ⟨0⟩ ⟨0⟩ {} request between run resolves
    obtain ⟨failure, structural, failed⟩ := fails
    exact ⟨request, between, rfl, resolves, iff.mp ⟨failure, structural, failed⟩,
      (blames failure structural failed).2⟩

/-- The parameter has the name of the segment; it is dropped, and the method fails. -/
theorem dropped_segment_may_be_needed :
    ∃ request between, (Context.of garden {}).gather ⟨0⟩ ⟨0⟩ {} = (.ok request, between) ∧
      (∀ wanted ∈ request.wire, ∃ parameter ∈ request.parameters,
        (Context.of garden {}).isSame wanted parameter = true) ∧
      ¬(∀ wanted ∈ request.wire,
        ∃ parameter ∈ (Context.of garden {}).dropUnusedSegments request.wire request.parameters,
          (Context.of garden {}).isSame wanted parameter = true) ∧
      ((Context.of garden {}).method ⟨0⟩ ⟨0⟩ {}).1.toOption.isNone ∧
      (finalState garden {}).diagnostics.reports.map (·.code) =
        [some Code.noCorrespondingParameter] := by
  -- What was gathered is decided, and so is what is reported in the end.
  have gathered : (((Context.of garden {}).gather ⟨0⟩ ⟨0⟩ {}).1.toOption.any fun request =>
      (∀ wanted ∈ request.wire, ∃ parameter ∈ request.parameters,
        (Context.of garden {}).isSame wanted parameter = true) ∧
      ¬(∀ wanted ∈ request.wire,
        ∃ parameter ∈ (Context.of garden {}).dropUnusedSegments request.wire request.parameters,
          (Context.of garden {}).isSame wanted parameter = true)) = true := by decide +kernel
  rcases run : (Context.of garden {}).gather ⟨0⟩ ⟨0⟩ {} with ⟨failure | request, between⟩
  · rw [run] at gathered
    cases gathered
  · rw [run] at gathered
    have same : _ ∧ _ := of_decide_eq_true gathered
    exact ⟨request, between, rfl, same.1, same.2, by decide +kernel, by decide +kernel⟩

end ClientModel.Derivation
