import ClientModel.Proofs.Polling
import ClientModel.Proofs.Totality

/-!
When an operation is linked to the one that polls for its end.

Whether there is a link is up to the parameters of the polling operation: each of them needs a value
from the exchange that is followed. The monitor of a link may be missing, but its nodes may not:
where one of them cannot be derived there is no link, and no package either. That does not happen in
a definition where only models and unions come back to themselves and all searches end.
-/

namespace ClientModel.Derivation

open Service (Definition Draft PollingDecl)

namespace Context

variable (context : Context) (initiating : OperationId) (declared : PollingDecl)

/-- A link holds the parameters of the polling operation with their values, and no others. -/
structure IsLink (link : Link) : Prop where
  operation : link.operation = context.operationRef declared.operation
  url : link.url = context.pollingUrl? initiating
  mem_keys_iff : ∀ name, name ∈ link.parameters.keys ↔
    IsPollingParameter context.definition (context.definition.operationAt declared.operation) name
  get? : ∀ name, link.parameters.get? name = context.linkedBy? initiating declared name

/-- The members of an enum have nodes just if the enum has one. -/
def EnumsWhole (state : State) : Prop :=
  ∀ id member, context.definition.shapeAt id = .member member →
    ((state.declared.get? id).isSome ↔ (state.declared.get? member.parent).isSome)

variable {context initiating declared}

/-- At the start of a run no type has a node. -/
theorem EnumsWhole.start : context.EnumsWhole {} :=
  fun _ _ _ => Iff.rfl

/-- A run that does not fail keeps enums whole, from its start on. -/
theorem enumsWhole_robust (placed : context.definition.MembersPlaced) (safe : context.IsSafe)
    (searchable : Searchable context.definition) :
    Robust context context.EnumsWhole (Fatal False) := by
  -- Enums are whole just where a run is ready with nothing entered and nothing pending, of which
  -- the lemma about runs speaks.
  have same : context.EnumsWhole = Knows (Derivation.Ready context [] []) :=
    funext fun state => propext ⟨fun whole => ⟨whole, by simp, by simp⟩, fun ready => ready.members⟩
  rw [same]
  exact ready_robust placed safe searchable

/-- With a value for each parameter, a link is what it should be, whichever monitor it gets. -/
theorem isLink_of_values (linked : context.Links initiating declared) {links : LinkMap}
    (values : ∀ name, links.get? name = context.linkedBy? initiating declared name)
    (monitor : Option StatusMonitor) :
    context.IsLink initiating declared
      { operation := context.operationRef declared.operation
        parameters := links
        url := context.pollingUrl? initiating
        monitor } where
  operation := rfl
  url := rfl
  mem_keys_iff name := by
    -- A parameter has a value just if one is computed for it, and one is for each.
    rw [OrderedMap.mem_keys_iff, values]
    refine ⟨fun given => ?_, linked name⟩
    obtain ⟨mapping, isMapping⟩ := Option.isSome_iff_exists.mp given
    exact isPollingParameter_of_linkedBy? isMapping
  get? := values

variable (context initiating declared) in
/-- Where the nodes of its monitor can be derived, there is a link just if all values are there. -/
theorem link?_total (placed : context.definition.MembersPlaced) (safe : context.IsSafe)
    (searchable : Searchable context.definition) (access : Access) {state : State}
    (whole : context.EnumsWhole state) :
    ∃ found next, context.link? initiating declared access state = (.ok found, next) ∧
      context.EnumsWhole next ∧ (found.isSome ↔ context.Links initiating declared) := by
  -- No step of a link can fail where nodes can be derived and searches end.
  have seeding := ((enumsWhole_robust placed safe searchable).accruing ⟨0⟩).toSeeding
  have keeps := seeding.link? initiating declared access
  cases run : context.link? initiating declared access state with
  | mk outcome next =>
    cases outcome with
    | error failure => exact (keeps.error whole run).1.1.elim
    | ok found =>
      refine ⟨found, next, rfl, keeps.ok whole run, ?_⟩
      -- What came of it tells whether all values were there.
      have yields := (link?_yields initiating declared access).ok trivial run
      by_cases linked : context.Links initiating declared
      · obtain ⟨link, rfl, -⟩ := yields.2 linked
        exact ⟨fun _ => linked, fun _ => rfl⟩
      · obtain ⟨rfl, -⟩ := yields.1 linked
        exact ⟨nofun, fun all => absurd all linked⟩

end Context

/--
A link is made of the initiating exchange just if every parameter of the polling operation gets a
value and the nodes of the monitor can be derived, and it then holds exactly these parameters.

Directives that make no sense are reported in order and give no values, and parameters without a
value are reported in one warning. With all values at hand, the rest is up to the status monitor,
whose failures are faults of the derivation. There are none of these where only models and unions
come back to themselves and all searches end: from any state of a run, there is a link just if every
parameter gets a value.
-/
theorem Context.link?_run (context : Context) (initiating : OperationId) (declared : PollingDecl)
    (access : Access) (state : State) :
    let polling := context.definition.operationAt declared.operation
    let noted := context.linkNoted initiating declared state
    ((context.link? initiating declared access state).1 = .ok none ↔
      ¬context.Links initiating declared) ∧
    (¬context.Links initiating declared →
      (context.unlinkedReport? initiating declared).isSome ∧
        context.link? initiating declared access state = (.ok none, noted)) ∧
    (context.Links initiating declared →
      context.unlinkedReport? initiating declared = none ∧
      ∀ outcome next,
        context.statusMonitor? declared.operation access noted = (outcome, next) →
          ∃ link : Link, context.IsLink initiating declared link ∧
            context.link? initiating declared access state =
              (outcome.map fun monitor => some { link with monitor }, next)) ∧
    (∀ link next, context.link? initiating declared access state = (.ok (some link), next) →
      context.IsLink initiating declared link ∧
        context.statusMonitor? declared.operation access noted = (.ok link.monitor, next)) ∧
    (∀ failure next, context.link? initiating declared access state = (.error failure, next) →
      failure.endsRun = true) ∧
    (context.definition.MembersPlaced → context.IsSafe → Searchable context.definition →
      context.EnumsWhole state → ∃ found next,
        context.link? initiating declared access state = (.ok found, next) ∧
          context.EnumsWhole next ∧ (found.isSome ↔ context.Links initiating declared)) ∧
    ∀ before directive after, declared.directives = before ++ directive :: after →
      ((context.directiveReport? initiating declared.operation before directive).isSome ↔
        ¬IsPollingParameter context.definition polling directive.target ∨
          (context.directedTo? initiating before directive.target).isSome ∨
          (directedValue? context.definition (context.definition.operationAt initiating)
            directive.source).isNone) ∧
      ((context.directiveReport? initiating declared.operation before directive).isSome →
        ∀ name, context.linkedBy? initiating { declared with directives := before ++ after } name =
          context.linkedBy? initiating declared name) := by
  intro polling noted
  -- All follows from what the whole comes to, for values that are there and for such that are not.
  obtain ⟨links, values, unlinked, linked⟩ :=
    Context.link?_outcome context initiating declared access state
  have complete := @Context.unlinkedReport?_isNone_iff context initiating declared
  refine ⟨⟨fun none all => ?_, fun missing => congrArg Prod.fst (unlinked missing)⟩, ?_, ?_, ?_, ?_,
    fun placed safe searchable =>
      Context.link?_total context initiating declared placed safe searchable access,
    fun before directive after among => ⟨Context.directiveReport?_isSome_iff before directive,
      Context.linkedBy?_without_reported among⟩⟩
  · -- Whatever comes of the monitor, it is no missing link.
    cases monitored : context.statusMonitor? declared.operation access noted with
    | mk outcome next =>
      rw [linked all outcome next monitored] at none
      cases outcome <;> cases none
  · -- That a value is missing is the same as that there is a report about it.
    intro missing
    refine ⟨?_, unlinked missing⟩
    rw [← complete, Bool.not_eq_true, Option.isNone_eq_false_iff] at missing
    exact missing
  · intro all
    refine ⟨Option.isNone_iff_eq_none.mp (complete.mpr all), fun outcome next monitored => ?_⟩
    exact ⟨_, Context.isLink_of_values all values none, linked all outcome next monitored⟩
  · intro link next run
    -- A link was made, so all values are there, and its monitor is the one that was found.
    by_cases all : context.Links initiating declared
    · cases monitored : context.statusMonitor? declared.operation access noted with
      | mk outcome last =>
        rw [linked all outcome last monitored] at run
        cases outcome with
        | error failure => cases run
        | ok monitor =>
          cases run
          exact ⟨Context.isLink_of_values all values monitor, rfl⟩
    · rw [unlinked all] at run
      cases run
  · -- A failure is one of deriving nodes, each of which ends the run.
    intro failure next fails
    have seeding := ((Robust.anything context).accruing ⟨0⟩).toSeeding
    exact ((seeding.link? initiating declared access).error trivial fails).1

/-- In the bakery nothing stands in the way of a link for baking, whose number is handed out. -/
theorem link?_run_bakery :
    (Context.of bakery {}).definition.MembersPlaced ∧ (Context.of bakery {}).IsSafe ∧
      Searchable (Context.of bakery {}).definition ∧ (Context.of bakery {}).EnumsWhole {} ∧
      (Context.of bakery {}).Links ⟨2⟩ { operation := ⟨0⟩ } ∧
      ∃ link next,
        (Context.of bakery {}).link? ⟨2⟩ { operation := ⟨0⟩ } .everyone {} =
          (.ok (some link), next) ∧
          (Context.of bakery {}).IsLink ⟨2⟩ { operation := ⟨0⟩ } link := by
  have placed : (Context.of bakery {}).definition.MembersPlaced := by decide +kernel
  have safe : (Context.of bakery {}).IsSafe := isSafe_of_earlier (by decide +kernel)
  have searchable : Searchable (Context.of bakery {}).definition := by decide +kernel
  have linked : (Context.of bakery {}).Links ⟨2⟩ { operation := ⟨0⟩ } :=
    Context.unlinkedReport?_isNone_iff.mp (by decide +kernel)
  refine ⟨placed, safe, searchable, .start, linked, ?_⟩
  -- The conditions are checked by evaluation; the theorem gives the run.
  have told := Context.link?_run (Context.of bakery {}) ⟨2⟩ { operation := ⟨0⟩ } .everyone {}
  obtain ⟨found, next, run, -, isSome⟩ := told.2.2.2.2.2.1 placed safe searchable .start
  obtain ⟨link, rfl⟩ := Option.isSome_iff_exists.mp (isSome.mpr linked)
  exact ⟨link, next, run, (told.2.2.2.1 link next run).1⟩

/--
Jobs, each of which has a list of items with lists of further ones: what starts a job hands out its
number, by which it can be watched.
-/
def jobs : Definition :=
  let steps : Service.Drafting Unit := do
    let root ← Draft.addContainer "Jobs" false none
    Draft.setService root {}
    let string ← Draft.scalar "string"
    let stage ← Draft.enumeration "Stage" (some root) ["Running", "Succeeded", "Failed"]
    let item ← Draft.model { name := some "Item", namespaceId := some root }
    let items ← Draft.array item
    let _ ← Draft.property item "more" items
    let job ← Draft.model { name := some "Job", namespaceId := some root }
    let _ ← Draft.property job "status" stage
    let _ ← Draft.property job "items" items
    let number ← Draft.freeProperty "number" string (some (.header "number"))
    let start ← Draft.operation root "start" .post "/jobs"
    Draft.addResponse start { status := .code 202, headers := [number] }
    let watch ← Draft.operation root "watch" .get "/jobs/{number}"
    let _ ← Draft.parameter watch "number" string (.path "number")
    Draft.addResponse watch { status := .code 200, body := some { type := job } }
    Draft.modifyOperation start fun declared =>
      { declared with polling := some { operation := watch } }
  (steps.run {}).2.definition

/--
A link may fail though all values are there, and every cycle of types passes through a model.

The list of items is met on the way to the monitor and noted last, when the way through an item has
noted another node for it.
-/
theorem link_may_fail :
    jobs.MembersPlaced ∧ (Context.of jobs {}).IsGuarded ∧ Searchable jobs ∧
      (¬∀ initiating declared access state,
        (∃ link next, (Context.of jobs {}).link? initiating declared access state =
          (.ok (some link), next)) ↔ (Context.of jobs {}).Links initiating declared) ∧
      derivePackage jobs {} = .error (.violation (.projectedTwice ⟨6⟩ ⟨7⟩ ⟨8⟩)) := by
  -- Each of these is checked by evaluating the run over the definition.
  have guarded : (Context.of jobs {}).IsGuarded := isGuarded_of_earlier (by decide +kernel)
  have fails :
      ((Context.of jobs {}).link? ⟨0⟩ { operation := ⟨1⟩ } .everyone {}).1.toOption.isNone =
      true := by decide +kernel
  have linked : (Context.of jobs {}).Links ⟨0⟩ { operation := ⟨1⟩ } :=
    Context.unlinkedReport?_isNone_iff.mp (by decide +kernel)
  -- The link fails and the values are there; and the failure is that of the whole run.
  refine ⟨by decide +kernel, guarded, by decide +kernel, fun always => ?_, ?_⟩
  · obtain ⟨link, next, run⟩ := (always ⟨0⟩ { operation := ⟨1⟩ } .everyone {}).mpr linked
    rw [run] at fails
    cases fails
  · have stops : (match derivePackage jobs {} with
        | .error failure => some failure
        | .ok _ => none) = some (.violation (.projectedTwice ⟨6⟩ ⟨7⟩ ⟨8⟩)) := by decide +kernel
    cases derived : derivePackage jobs {} with
    | ok package =>
      rw [derived] at stops
      cases stops
    | error failure =>
      rw [derived] at stops
      exact congrArg Except.error (Option.some.inj stops)

end ClientModel.Derivation
