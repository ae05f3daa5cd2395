import ClientModel.Proofs.Growth

/-!
How the notes of a run grow.

While a client is derived, notes are only added to those that are there, and only the clients that
are being derived take parameters. A method is a single step here: one that is not wanted on typed
values takes back its own notes on usage, and no others.
-/

namespace ClientModel.Derivation

variable {allowed : Failure → Prop} {context : Context} {among : ContainerId → Prop}
  {first second third start state : State}

/--
Notes are only added to, and only some clients take further parameters.

Whatever else was known is still known.
-/
structure Accrued (among : ContainerId → Prop) (before after : State) : Prop extends
    Grown before after where
  seeds : before.seeds <+: after.seeds
  bodyFormats : before.bodyFormats <+: after.bodyFormats
  taken : ∀ client, (before.clientParameters.get? client).getD [] <+:
    (after.clientParameters.get? client).getD []
  others : ∀ client, ¬ among client →
    after.clientParameters.get? client = before.clientParameters.get? client

namespace Accrued

/-- Doing nothing adds nothing. -/
theorem refl (state : State) : Accrued among state state where
  toGrown := .refl state
  seeds := List.prefix_refl _
  bodyFormats := List.prefix_refl _
  taken _ := List.prefix_refl _
  others _ _ := rfl

/-- What is added in two runs one after the other is added in both together. -/
theorem trans (left : Accrued among first second) (right : Accrued among second third) :
    Accrued among first third where
  toGrown := left.toGrown.trans right.toGrown
  seeds := left.seeds.trans right.seeds
  bodyFormats := left.bodyFormats.trans right.bodyFormats
  taken client := (left.taken client).trans (right.taken client)
  others client outside := (right.others client outside).trans (left.others client outside)

/-- More clients may have taken parameters. -/
theorem mono {more : ContainerId → Prop} (accrued : Accrued among first second)
    (includes : ∀ client, among client → more client) : Accrued more first second where
  toGrown := accrued.toGrown
  seeds := accrued.seeds
  bodyFormats := accrued.bodyFormats
  taken := accrued.taken
  others client outside := accrued.others client fun inside => outside (includes client inside)

/-- What grows without notes changes none. -/
theorem along {next : State} (accrued : Accrued among start state) (grown : Grown start next)
    (seeds : next.seeds = state.seeds) (bodyFormats : next.bodyFormats = state.bodyFormats)
    (parameters : next.clientParameters = state.clientParameters) : Accrued among start next where
  toGrown := grown
  -- The three equations carry over what is told of notes from one state to the other.
  seeds := seeds ▸ accrued.seeds
  bodyFormats := bodyFormats ▸ accrued.bodyFormats
  taken := parameters ▸ accrued.taken
  others := parameters ▸ accrued.others

/-- A seed goes to the end of the seeds. -/
theorem addSeed (accrued : Accrued among start state) (seed : Seed) :
    Accrued among start { state with seeds := state.seeds ++ [seed] } where
  toGrown := accrued.noted _ _ _ _
  seeds := accrued.seeds.trans (List.prefix_append _ _)
  bodyFormats := accrued.bodyFormats
  taken := accrued.taken
  others := accrued.others

/-- The format of a body goes to the end of the formats. -/
theorem addBodyFormat (accrued : Accrued among start state) (format : NodeId × Bool) :
    Accrued among start { state with bodyFormats := state.bodyFormats ++ [format] } where
  toGrown := accrued.noted _ _ _ _
  seeds := accrued.seeds
  bodyFormats := accrued.bodyFormats.trans (List.prefix_append _ _)
  taken := accrued.taken
  others := accrued.others

/-- A client that may take parameters takes one more. -/
theorem takes (accrued : Accrued among start state) {client : ContainerId}
    (inside : among client) (parameter : Property) :
    Accrued among start { state with
      clientParameters :=
        state.clientParameters.alter client fun before => before.getD [] ++ [parameter] } where
  toGrown := accrued.toGrown.takes client parameter
  seeds := accrued.seeds
  bodyFormats := accrued.bodyFormats
  taken other := by
    -- Only the list of the one client changes, and that at its end.
    have before := accrued.taken other
    rw [OrderedMap.alter, OrderedMap.get?_insert]
    by_cases same : other = client
    · subst same
      simp only [beq_self_eq_true, if_true, Option.getD_some]
      exact before.trans (List.prefix_append _ _)
    · have apart : ¬ (other == client) = true := by simpa using same
      rw [if_neg apart]
      exact before
  others other outside := by
    -- Clients outside take nothing, and this one is inside.
    have apart : other ≠ client := fun same => outside (same ▸ inside)
    rw [OrderedMap.alter, OrderedMap.get?_insert_ne _ _ apart]
    exact accrued.others other outside

/-- Deriving nodes takes no notes. -/
theorem frame (start : State) (violation : ∀ cause, allowed (.violation cause)) :
    Frame start.catalogue.size (Accrued among start) allowed where
  -- One field for each kind of step: a node that is added or one of the run's own is accrued,
  -- whatever else happens to it.
  violation := violation
  inside _ accrued := accrued.size
  added _ node accrued := accrued.along (accrued.push node) rfl rfl rfl
  changed _ _ _ accrued fresh _ := accrued.along (accrued.modify (Or.inl fresh)) rfl rfl rfl
  marked _ _ _ accrued same := accrued.along (accrued.modify (Or.inr same)) rfl rfl rfl
  declared _ _ _ accrued same := accrued.along (accrued.insert same) rfl rfl rfl
  builtins _ _ builtin accrued fresh :=
    accrued.along ((accrued.push { kind := .builtin builtin }).makes _ fresh) rfl rfl rfl
  names _ names accrued := accrued.along (accrued.rename names) rfl rfl rfl
  diagnostics _ report _ accrued := accrued.along (accrued.report report) rfl rfl rfl

/-- What needs no declaration takes no notes. -/
theorem steady (start : State) : Steady (Accrued among start) fun _ => True :=
  (frame start fun _ => trivial).steady

/-- Deriving nodes and taking notes only adds to what is known. -/
theorem noting (context : Context) (start : State) :
    Noting context (Accrued among start) fun _ => True where
  toSteady := steady start
  node type := (frame start fun _ => trivial).node type
  search _ := Keeps.answerOf _ fun _ _ => trivial
  seed _ seed accrued := accrued.addSeed seed
  bodyFormat _ format accrued := accrued.addBodyFormat format

/-- The steps towards a method only add notes, and only its client takes parameters. -/
theorem accruing (context : Context) (start : State) {client : ContainerId}
    (inside : among client) :
    Accruing context client (Accrued among start) fun _ => True where
  toNoting := noting context start
  clientParameter _ parameter accrued := accrued.takes inside parameter

/-- Taking back all notes on usage since a state leads back to those that it had. -/
theorem discarded (accrued : Accrued among start state) :
    state.seeds.take start.usageMark.seeds = start.seeds ∧
      state.bodyFormats.take start.usageMark.bodyFormats = start.bodyFormats :=
  -- The notes at the start are the first ones of those that there are.
  ⟨(List.prefix_iff_eq_take.mp accrued.seeds).symm,
    (List.prefix_iff_eq_take.mp accrued.bodyFormats).symm⟩

end Accrued

namespace Context

variable {operation : OperationId} {client : ContainerId}

/-- What a method is built with is there whether it is built in the end or not. -/
theorem buildMethod_accrues {next : State} {outcome : Except Failure Method}
    (run : context.buildMethod operation client state = (outcome, next))
    (own : ∀ failure, outcome = .error failure → failure.endsRun = false) :
    Accrued (· = client) state next := by
  -- That nothing is lost does not depend on how the run ends.
  have accrues : Keeps (Accrued (· = client) state) (fun _ => True)
      (context.buildMethod operation client) := by
    have accruing : Accruing context client (Accrued (· = client) state) fun _ => True :=
      Accrued.accruing context state rfl
    exact accruing.buildMethod (fun _ _ => trivial) operation
  cases outcome with
  | ok method => exact accrues.ok (.refl state) run
  | error failure => exact (accrues.error (.refl state) run).2 (own failure rfl)

/-- A method only adds to the notes; one that is not wanted on typed values adds none on usage. -/
theorem method_accrues {next : State} {outcome : Except Failure Method}
    (run : context.method operation client state = (outcome, next))
    (own : ∀ failure, outcome = .error failure → failure.endsRun = false) :
    Accrued (· = client) state next ∧
      (context.isConvenient operation = false →
        next.seeds = state.seeds ∧ next.bodyFormats = state.bodyFormats) := by
  rw [method_run] at run
  cases builds : context.buildMethod operation client state with
  | mk built before =>
    rw [builds] at run
    -- A failure of the method is one of the method's parts, so it does not end the run either.
    have accrued : Accrued (· = client) state before := by
      refine buildMethod_accrues builds fun failure isError => own failure ?_
      have same : built.map _ = outcome := congrArg Prod.fst run
      rw [← same, isError]
      rfl
    obtain ⟨seeds, bodyFormats⟩ := accrued.discarded
    have ends := (congrArg Prod.snd run).symm
    dsimp only at ends
    by_cases wanted : context.isConvenient operation = true
    · -- On typed values, what was noted stays.
      rw [if_pos wanted] at ends
      subst ends
      exact ⟨accrued, fun unwanted => by simp [wanted] at unwanted⟩
    · -- What was noted is taken back, and what is left is what was there at the start.
      rw [if_neg wanted, seeds, bodyFormats] at ends
      subst ends
      refine ⟨?_, fun _ => ⟨rfl, rfl⟩⟩
      exact
        { toGrown := accrued.noted _ _ _ _
          seeds := List.prefix_refl _
          bodyFormats := List.prefix_refl _
          taken := accrued.taken
          others := accrued.others }

end Context

namespace Accrued

instance : Std.Refl (Accrued among) := ⟨refl⟩

/-- The steps towards some clients only add notes, and only these clients take parameters. -/
theorem stable (context : Context) (start : State) :
    Stable context among (Accrued among start) fun _ => True where
  toSteady := steady start
  node type := (frame start fun _ => trivial).node type
  clientParameter _ client parameter inside accrued := accrued.takes inside parameter
  endpointParameter := (steady start).endpointParameter
    (frame start fun _ => trivial).node
    fun _ _ accrued => accrued.along (accrued.noted _ _ _ _) rfl rfl rfl
  credentialParameter? := (steady start).credentialParameter?
    fun _ _ accrued => accrued.along (accrued.noted _ _ _ _) rfl rfl rfl
  method operation client inside := by
    -- Its own client is one of those that may take parameters.
    have single (only : ContainerId) (same : only = client) : among only := same ▸ inside
    refine Ensures.intro ?_ ?_
    · intro before method next accrued run
      exact accrued.trans ((Context.method_accrues run (by simp)).1.mono single)
    · intro before failure next accrued run
      refine ⟨Or.inl trivial, fun isOwn => accrued.trans ?_⟩
      refine (Context.method_accrues run fun other same => ?_).1.mono single
      cases same
      exact isOwn

end Accrued

end ClientModel.Derivation
