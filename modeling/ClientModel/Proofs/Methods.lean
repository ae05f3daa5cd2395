import ClientModel.Proofs.Accrual

/-!
What is told of all methods of a run.

What is told of each method when it is derived, and is not broken by what is noted later on, is told
of all methods of the package, whatever client they belong to.
-/

namespace ClientModel.Derivation

open Service (Definition)

/-! ## Clients below a client -/

/-- Below a client there are itself and what is below its sub-clients. -/
theorem mem_walk {client inner : Client} :
    inner ∈ client.walk ↔ inner = client ∨ inner ∈ Client.walkAll client.children := by
  -- The walk goes through a client before those below it.
  cases client
  simp [Client.walk]

/-- Below some clients there is what is below each. -/
theorem mem_walkAll {clients : List Client} {inner : Client} :
    inner ∈ Client.walkAll clients ↔ ∃ client ∈ clients, inner ∈ client.walk := by
  -- By induction on the clients, as the walk goes.
  induction clients with
  | nil => simp [Client.walkAll]
  | cons client rest ih => simp [Client.walkAll, ih]

/-! ## Methods -/

/-- The method in a method of any form is the one it was built around. -/
theorem service?_methodKind (method : ServiceMethod) (pages : Option Paging)
    (progress : Option Polling) :
    (Context.methodKind method pages progress).service? = some method := by
  -- All four forms hold the same method.
  cases pages with
  | none => cases progress <;> rfl
  | some pages => cases progress <;> rfl

/-- The polling of a method is what it was built with. -/
theorem polling?_methodKind (method : ServiceMethod) (pages : Option Paging)
    (progress : Option Polling) :
    (Context.methodKind method pages progress).polling? = progress := by
  -- Polling is kept with pages or without.
  cases pages with
  | none => cases progress <;> rfl
  | some pages => cases progress <;> rfl

/-- Once it holds, it holds whatever is found and noted later on. -/
abbrev Enduring (holds : State → Prop) : Prop :=
  LastsAlong (Accrued fun _ => True) holds

/-- What lasts as the catalogue grows endures what methods note. -/
theorem Lasting.enduring {holds : State → Prop} (lasting : Lasting holds) : Enduring holds :=
  fun before after held accrued => lasting before after held accrued.toGrown

variable {context : Context} {told : ContainerId → Method → State → Prop}

/-- What is told of the methods of some clients, and of the clients below them. -/
def OfMethods (told : ContainerId → Method → State → Prop) (clients : List Client)
    (state : State) : Prop :=
  ∀ client ∈ Client.walkAll clients, ∀ method ∈ client.methods, told client.origin method state

/-- What is told of methods endures if it does for each of them. -/
theorem OfMethods.enduring (lasting : ∀ container method, Enduring (told container method))
    (clients : List Client) : Enduring (OfMethods told clients) :=
  -- What is told of a method does not depend on the others.
  fun before after held accrued client below method member =>
    lasting client.origin method before after (held client below method member) accrued

/-- What is told of every method that is derived, and of the methods that hand out sub-clients. -/
structure Telling (context : Context) (told : ContainerId → Method → State → Prop) : Prop where
  lasting : ∀ container method, Enduring (told container method)
  method : ∀ container operation, Yields (context.method operation container) (told container)
  accessor : ∀ container crossId apiVersions child state,
    told container (Context.accessor crossId apiVersions child) state

namespace Telling

section

variable (telling : Telling context told)
include telling

/-- What is told of a method is told of one that may be reported instead. -/
theorem methodOrReport (container : ContainerId) (operation : OperationId) :
    Yields (context.methodOrReport container operation) fun found state =>
      ∀ method ∈ found, told container method state := by
  unfold Context.methodOrReport
  refine Ensures.bind (telling.method container operation).attempt fun outcome => ?_
  cases outcome with
  | ok method =>
    refine Ensures.pure fun state held value isValue => ?_
    cases isValue
    exact held method rfl
  | error failure =>
    -- A method that fails is left out.
    dsimp only
    split
    · exact Ensures.throw fun _ _ => trivial
    · refine Ensures.via (fun _ _ => True) (Ensures.modify fun _ _ => trivial) fun _ => ?_
      exact Ensures.pure fun _ _ _ isValue => by cases isValue

/-- So it is told of all methods of a container. -/
theorem methodsOf (container : ContainerId) (operations : List OperationId) :
    Yields (context.methodsOf container operations) fun methods state =>
      ∀ method ∈ methods, told container method state :=
  -- Each method that is made, or reported, leaves the telling of those before it alone.
  Yields.filterMapM (telling.lasting container)
    (fun operation start => (Accrued.stable context start).methodOrReport trivial operation)
    (telling.methodOrReport container) operations

end

/-! ## Clients -/

mutual

/-- So it is told of all methods of a client and of those below it, by induction on the tree. -/
theorem clientOf (telling : Telling context told) (isRoot : Bool) (name : String) :
    (tree : ClientTree) → Yields (context.clientOf isRoot name tree) fun client =>
      OfMethods told [client]
  | .node container groups => by
    unfold Context.clientOf
    refine .after fun ways => .after fun custom => ?_
    refine Ensures.bind (telling.clientsOf groups) fun children => ?_
    -- What is told of the sub-clients lasts while the methods beside them are derived.
    have below := OfMethods.enduring telling.lasting children
    refine Ensures.bind ((telling.methodsOf container _).beside below fun start =>
      (Accrued.stable context start).methodsOf trivial _) fun methods => ?_
    have both : Enduring fun state => OfMethods told children state ∧ ∀ method ∈ methods,
        told container method state :=
      fun before after held accrued => ⟨below before after held.1 accrued, fun method member =>
        telling.lasting container method before after (held.2 method member) accrued⟩
    refine Keeps.told (both.keeps fun start => (Accrued.stable context
      start).initializationParameters container children custom) fun parameters => Ensures.pure ?_
    rintro state ⟨inner, own⟩ client member
    -- Beside the methods of operations, a client has those that hand out its sub-clients.
    rw [Client.walkAll, Client.walkAll, List.append_nil, mem_walk] at member
    rcases member with rfl | inWalk
    · intro method listed
      rcases List.mem_append.mp listed with served | handsOut
      · exact own method served
      · obtain ⟨child, _, rfl⟩ := List.mem_map.mp handsOut
        exact telling.accessor ..
    · exact inner client inWalk

/-- So it is told of several clients, one after the other. -/
theorem clientsOf (telling : Telling context told) : (trees : List ClientTree) →
    Yields (context.clientsOf trees) (OfMethods told)
  | [] => by
    unfold Context.clientsOf
    exact Ensures.pure fun _ _ client none => by simp [Client.walkAll] at none
  | group :: rest => by
    unfold Context.clientsOf
    refine Ensures.bind (telling.clientOf false _ group) fun client => ?_
    -- What is told of the methods of the first group lasts while the other groups are derived.
    refine Ensures.bind ((telling.clientsOf rest).beside
      (OfMethods.enduring telling.lasting [client]) fun start =>
        (Accrued.stable context start).clientsOf rest fun _ _ => trivial) fun clients =>
          Ensures.pure ?_
    -- A client below is below the first group or below one of the others.
    rintro state ⟨first, others⟩ inner member
    rcases List.mem_append.mp member with own | other
    · exact first inner (List.mem_append_left _ own)
    · exact others inner other

end

/-- What is told of each method is told of all methods at the end of a run. -/
theorem clients (telling : Telling context told) : Yields context.clients (OfMethods told) := by
  unfold Context.clients
  -- Each root is told of by itself, and keeps what was told of those before it.
  have roots : Yields ((rootClients context.definition context.choices).mapM context.rootClient)
      fun clients state => ∀ client ∈ clients, OfMethods told [client] state :=
    Yields.mapM (fun client => OfMethods.enduring telling.lasting [client])
      (fun root start => (Accrued.stable context start).rootClient root fun _ _ => trivial)
      (fun root => telling.clientOf true _ _) _
  refine Ensures.bind roots fun clients => ?_
  have lasting : Enduring fun state => ∀ client ∈ clients, OfMethods told [client] state :=
    fun before after held accrued client member =>
      OfMethods.enduring telling.lasting [client] before after (held client member) accrued
  -- Orphan types come last, and there are no methods among them.
  refine Keeps.told (lasting.keeps fun start =>
    (@Accrued.stable (fun _ => True) context start).orphans) fun _ => Ensures.pure ?_
  intro state held inner below
  obtain ⟨client, member, within⟩ := mem_walkAll.mp below
  exact held client member inner (by simpa [Client.walkAll] using within)

end Telling

/-! ## The package -/

/-- What a run has found in the end. -/
def finalState (definition : Definition) (options : Options) : State :=
  ((Context.of definition options).clients.run {}).2

/-- A package is made of the clients that a run ends with, and of what it has found. -/
theorem derivePackage_ok {definition : Definition} {options : Options} {package : Package}
    (derived : derivePackage definition options = .ok package) :
    ∃ clients, (Context.of definition options).clients.run {} =
        (.ok clients, finalState definition options) ∧
      package =
        (finalState definition options).package (Context.of definition options) clients := by
  unfold derivePackage at derived
  dsimp only at derived
  -- A package is only made if the clients could be derived.
  cases run : (Context.of definition options).clients.run {} with
  | mk outcome state =>
    rw [run] at derived
    cases outcome with
    | error failure => cases derived
    | ok clients =>
      cases derived
      have final : finalState definition options = state := by
        rw [finalState, run]
      exact ⟨clients, by rw [final], by rw [final]⟩

/-- Where there is a package, it is the one made of the clients that the run ends with. -/
theorem derivePackage_of_isOk {definition : Definition} {options : Options}
    (isOk : (derivePackage definition options).isOk = true) :
    ∃ clients, (Context.of definition options).clients.run {} =
        (.ok clients, finalState definition options) ∧
      derivePackage definition options =
        .ok ((finalState definition options).package (Context.of definition options) clients) := by
  -- A run that fails makes no package.
  cases derived : derivePackage definition options with
  | error failure => simp [derived, Except.isOk, Except.toBool] at isOk
  | ok package =>
    obtain ⟨clients, run, rfl⟩ := derivePackage_ok derived
    exact ⟨clients, run, rfl⟩

end ClientModel.Derivation
