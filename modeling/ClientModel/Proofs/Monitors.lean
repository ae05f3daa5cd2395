import ClientModel.Proofs.Acceptance
import ClientModel.Proofs.Polling

/-!
Where the status monitor of a long-running operation comes from.

Of the responses of the polling operation, that to any status is passed over, and the first other
one whose payload comes to a status that tells success from failure is watched. Whether a response
is an error is told by its payload as well, and nothing of that is asked here: the response that is
watched is a success just if it carries no error model.
-/

namespace ClientModel.Derivation

open Service (Definition Draft ResponseDecl)

namespace Context

variable (context : Context)

/-- A response carries an error model, or one that copies it whole. -/
def CarriesError (response : ResponseDecl) : Prop :=
  ∃ body ∈ context.payload? response,
    ∃ model ∈ context.definition.model? (context.definition.payloadType body.type),
      model.isError = true

/-- A response whose payload comes to a status that tells success from failure. -/
def hasStatus (response : ResponseDecl) : Bool :=
  (context.payload? response).any fun body => (context.foundMonitor? body.type).isSome

/-- The response that is watched: the first one with a status, but not that to any status code. -/
def watchedResponse? (polling : OperationId) : Option ResponseDecl :=
  (context.definition.operationAt polling).responses.find? fun response =>
    response.status != .wildcard && context.hasStatus response

/-- A status monitor is that of the payload of the response that is watched. -/
structure Watches (polling : OperationId) (response : ResponseDecl) (monitor : StatusMonitor)
    (state : State) : Prop where
  isFirst : context.watchedResponse? polling = some response
  found : ∃ body ∈ context.payload? response, ∃ model,
    context.finalMonitor? body.type = .ok (some (model, monitor.status.origin, monitor.states)) ∧
      Remembered (context.definition.payloadType model) monitor.type state

variable {context : Context}

/-! ## Responses -/

/-- A response is one of an error if it is for any status or carries an error. -/
theorem isErrorResponse_eq_true_iff {response : ResponseDecl} :
    context.isErrorResponse response = true ↔
      response.status = .wildcard ∨ context.CarriesError response := by
  simp [isErrorResponse, CarriesError, Option.any_eq_true]

/-- For each status some response is kept, so that the outcomes have one for it as well. -/
theorem any_firstOfEach (responses : List ResponseDecl) (status : Service.Statuses) :
    ((firstOfEach responses).any fun kept => kept.status == status) =
      responses.any fun response => response.status == status := by
  -- By induction from the last one, which is kept unless an earlier one is for its status.
  induction responses using List.reverseRecOn with
  | nil => rfl
  | append_singleton front last ih =>
    rw [firstOfEach_concat, List.any_append, List.any_cons, List.any_nil, Bool.or_false, ← ih]
    split
    · rename_i known
      by_cases same : last.status = status
      · subst same
        simp [known]
      · simp [beq_false_of_ne same]
    · rw [List.any_append, List.any_cons, List.any_nil, Bool.or_false]

/-- A response goes to the errors just if it is one, and there is an entry for its status there. -/
theorem RetainsAll.get?_isSome {declared : List ResponseDecl} {outcomes : Outcomes}
    (retains : context.RetainsAll declared outcomes) {response : ResponseDecl}
    (listed : response ∈ declared) :
    ((if context.isErrorResponse response then outcomes.errors else outcomes.successes).get?
      response.status).isSome := by
  -- The entry was made when the first response for the status came, which is this one or before it.
  cases isError : context.isErrorResponse response with
  | true =>
    rw [if_pos rfl, retains.errors.get?_isSome, any_firstOfEach]
    exact List.any_eq_true.mpr ⟨response, List.mem_filter.mpr ⟨listed, isError⟩, beq_self_eq_true _⟩
  | false =>
    rw [if_neg Bool.false_ne_true, retains.successes.get?_isSome, any_firstOfEach]
    exact List.any_eq_true.mpr
      ⟨response, List.mem_filter.mpr ⟨listed, by rw [isError]; rfl⟩, beq_self_eq_true _⟩

/-! ## Monitors -/

/-- What carries no value comes to no model. -/
theorem finalMonitor?_of_isVoidLike {id : TypeId}
    (empty : context.definition.isVoidLike id = true) : context.finalMonitor? id = .ok none := by
  unfold Definition.isVoidLike at empty
  -- A type like void is neither a model nor a union, so that the search ends there.
  have none : monitor? context.definition id = .ok none := by
    unfold monitor? monitorWithin
    split at empty
    · rename_i isVoid
      rw [payloadType_eq (by simp [Definition.model?, isVoid])]
      simp [isVoid]
    · rename_i isNever
      rw [payloadType_eq (by simp [Definition.model?, isNever])]
      simp [isNever]
    · cases empty
  simp [finalMonitor?, none, Except.map]

/-- Nor is a status found for what carries no value. -/
theorem foundMonitor?_of_isVoidLike {id : TypeId}
    (empty : context.definition.isVoidLike id = true) : context.foundMonitor? id = none := by
  -- What carries no value has no model in which to look for a status.
  rw [foundMonitor?, finalMonitor?_of_isVoidLike empty]
  rfl

/-- A body that comes to a status is the payload of its response. -/
theorem hasStatus_eq (response : ResponseDecl) :
    context.hasStatus response =
      (response.body.bind fun body => context.foundMonitor? body.type).isSome := by
  -- A body is no payload if its type is like void, and then nothing is found for it either.
  unfold hasStatus payload?
  cases response.body with
  | none => rfl
  | some body =>
    cases empty : context.definition.isVoidLike body.type with
    | true => simp [empty, foundMonitor?_of_isVoidLike empty]
    | false => simp [Option.filter, empty]

/-- The first status found among the bodies is that of the response that is watched. -/
theorem findSome?_foundMonitor?_eq (polling : OperationId) :
    (context.statusTypes polling).findSome? context.foundMonitor? =
      (context.watchedResponse? polling).bind fun response =>
        (context.payload? response).bind fun body => context.foundMonitor? body.type := by
  unfold watchedResponse? statusTypes
  -- Along the responses; the two searches pass over the same ones.
  induction (context.definition.operationAt polling).responses with
  | nil => rfl
  | cons response rest ih =>
    rw [List.filter_cons, List.find?_cons, hasStatus_eq]
    -- A response is passed over for its status, for want of a body, or for what this comes to.
    cases hasCode : response.status != .wildcard with
    | false => simpa using ih
    | true =>
      rw [if_pos rfl, Bool.true_and, List.filterMap_cons]
      cases carries : response.body with
      | none => simpa using ih
      | some body =>
        rw [Option.map_some, List.findSome?_cons, Option.bind_some]
        cases found : context.foundMonitor? body.type with
        | none => simpa using ih
        | some monitor =>
          have valued : context.definition.isVoidLike body.type = false := by
            by_contra empty
            rw [foundMonitor?_of_isVoidLike (by simpa using empty)] at found
            cases found
          simp [payload?, carries, Option.filter, valued, found]

/-- The property of a monitor comes from the one it was made for. -/
theorem monitorProperty_origin (id : PropertyId) :
    Yields (context.monitorProperty id) fun property _ => property.origin = id :=
  .after fun _ => .pure fun _ => rfl

/-- The monitor of a polled operation is that of the response that is watched. -/
theorem statusMonitor?_watches (polling : OperationId) (access : Access) :
    Yields (context.statusMonitor? polling access) fun found state =>
      ∀ monitor ∈ found, ∃ response, context.Watches polling response monitor state := by
  unfold statusMonitor?
  dsimp only
  refine Yields.bind_told (firstMonitor?_finds polling) fun first found => ?_
  rw [findSome?_foundMonitor?_eq] at found
  -- Without a status there is no monitor; with one, its model is derived.
  split
  · exact Yields.pure fun _ => nofun
  · rename_i model status states
    obtain ⟨response, isFirst, carried⟩ := Option.bind_eq_some_iff.mp found
    obtain ⟨body, isBody, isFound⟩ := Option.bind_eq_some_iff.mp carried
    have isMonitor := foundMonitor?_eq_some_iff.mp isFound
    refine Ensures.bind (nodeWithin_finds _ model) fun type => ?_
    -- The model has its node from here on, whatever is made for its properties.
    have lasting := lasting_remembered (context.definition.payloadType model) type
    have keeps := ((lasting.robust context).accruing ⟨0⟩).toNoting
    refine Keeps.told (keeps.addSeed _ _ _) fun _ => ?_
    refine Ensures.bind ((monitorProperty_origin status).beside lasting fun start =>
      (((Grown.robust context start).accruing ⟨0⟩).monitorProperty status)) fun property => ?_
    have known : Lasting fun state =>
        Remembered (context.definition.payloadType model) type state ∧ property.origin = status :=
      lasting.and (.const _)
    have still := ((known.robust context).accruing ⟨0⟩).toNoting
    refine Keeps.told (Keeps.optionMapM _ still.monitorProperty) fun success => ?_
    refine Keeps.told (Keeps.optionMapM _ still.monitorProperty) fun error => Ensures.pure ?_
    rintro state ⟨isType, rfl⟩ monitor isFound
    cases isFound
    exact ⟨response, isFirst, body, isBody, model, isMonitor, isType⟩

/-! ## Methods -/

/-- What a monitor watches lasts. -/
theorem lasting_watches (polling : OperationId) (monitor : StatusMonitor) :
    Lasting fun state => ∃ response, context.Watches polling response monitor state := by
  -- The response and its body are of the definition; only the node of the type is in the state.
  rintro before after ⟨response, isFirst, body, isBody, model, isMonitor, isType⟩ grown
  exact ⟨response, isFirst, body, isBody, model, isMonitor, grown.declared _ _ isType⟩

/-- What a method polls is declared, and the response that is watched is that of its monitor. -/
def WatchesOwn (operation : OperationId) (method : Method) (state : State) : Prop :=
  ∀ progress ∈ method.kind.polling?, ∃ declared,
    (context.definition.operationAt operation).polling = some declared ∧
      ∃ response, context.Watches declared.operation response progress.monitor state

/-- The monitor that a link has is that of the response that is watched. -/
theorem link?_watches (operation : OperationId) (declared : Service.PollingDecl)
    (access : Access) :
    Yields (context.link? operation declared access) fun found state =>
      ∀ link ∈ found, ∀ monitor ∈ link.monitor,
        ∃ response, context.Watches declared.operation response monitor state := by
  -- Without a value for each parameter there is no link, and so no monitor.
  unfold link?
  refine .after fun parameters => ?_
  split
  · exact .pure fun _ => nofun
  · refine Ensures.bind (statusMonitor?_watches _ _) fun monitor => Ensures.pure ?_
    intro state watches link isLink
    cases isLink
    exact watches

/-- What is polled comes with the monitor of its link. -/
theorem polling?_watches (operation : OperationId) (declared : Service.PollingDecl)
    (access : Access) (response : MethodResponse) :
    Yields (context.polling? operation declared access response) fun found state =>
      ∀ progress ∈ found, ∃ response,
        context.Watches declared.operation response progress.monitor state := by
  -- Polling takes the monitor of the link as it is.
  unfold polling?
  refine Ensures.bind (link?_watches operation declared access) fun found => ?_
  split
  · exact .pure fun _ _ => nofun
  · rename_i link
    split
    · exact Yields.after (fun _ => .pure fun _ => nofun) |>.starting fun _ _ => trivial
    · rename_i monitor isMonitor
      refine Ensures.pure fun state watches progress isFound => ?_
      cases isFound
      exact watches link rfl monitor isMonitor

/-- A method that is built watches what its own polling operation tells. -/
theorem buildMethod_watches (operation : OperationId) (client : ContainerId) :
    Yields (context.buildMethod operation client) (context.WatchesOwn operation) := by
  unfold buildMethod
  refine .after fun parameters => .after fun http => .after fun response => .after fun current => ?_
  -- Only an operation that is declared to be polled has any polling.
  dsimp only
  split
  · rename_i declared isDeclared
    refine Ensures.bind (polling?_watches operation declared _ _) fun found => Ensures.pure ?_
    intro state watches progress isFound
    rw [polling?_methodKind] at isFound
    exact ⟨declared, isDeclared, watches progress isFound⟩
  · rw [pure_bind]
    refine .pure fun _ progress isFound => ?_
    rw [polling?_methodKind] at isFound
    cases isFound

/-- A method that is derived does so too, whatever its form. -/
theorem method_watches (operation : OperationId) (client : ContainerId) :
    Yields (context.method operation client) (context.WatchesOwn operation) := by
  -- Wanted in one form or another, a method keeps the kind that it was built with.
  refine method_yields (fun method before after held grown progress isFound => ?_)
    (buildMethod_watches operation client) fun _ _ _ _ held => held
  obtain ⟨declared, isDeclared, watches⟩ := held progress isFound
  exact ⟨declared, isDeclared, lasting_watches _ _ before after watches grown⟩

end Context

/-! ## Packages -/

variable {context : Context}

variable (context) in
/-- What methods watch is told throughout a run. -/
theorem watches_telling : Telling context fun _ method state =>
    ∀ operation, method.origin = some operation → context.WatchesOwn operation method state where
  lasting _ method := Lasting.enduring fun before after told grown operation isOrigin progress
      isFound => by
    obtain ⟨declared, isDeclared, watches⟩ := told operation isOrigin progress isFound
    exact ⟨declared, isDeclared, Context.lasting_watches _ _ before after watches grown⟩
  method container operation :=
    Context.method_of_origin (Context.method_watches operation container)
  accessor container crossId apiVersions child state operation isOrigin := by cases isOrigin

/--
A status monitor comes from the response that is watched, whether this is a success or not.

That is the first response whose payload comes to a status that tells success from failure, where
the response to any status is passed over. It is sorted into the successes unless it carries an
error model, and the monitor of every method that polls comes from it.
-/
theorem monitor_is_of_success_iff (definition : Definition) (options : Options) :
    let context := Context.of definition options
    (∀ polling access state monitor next,
      context.statusMonitor? polling access state = (.ok (some monitor), next) →
        ∃ response, context.Watches polling response monitor next) ∧
    (∀ polling response, context.watchedResponse? polling = some response →
      (context.isErrorResponse response = false ↔ ¬context.CarriesError response) ∧
      ∀ access state outcomes next,
        context.outcomes polling access state = (.ok outcomes, next) →
          ((if context.isErrorResponse response then outcomes.errors
            else outcomes.successes).get? response.status).isSome) ∧
    ∀ package, derivePackage definition options = .ok package →
      ∀ client ∈ Client.walkAll package.clients, ∀ method ∈ client.methods, ∀ operation,
        method.origin = some operation →
          context.WatchesOwn operation method (finalState definition options) := by
  intro context
  -- For any single call; for the kind of response that is watched; and for whole packages.
  refine ⟨?_, ?_, ?_⟩
  · intro polling access state monitor next run
    exact (Context.statusMonitor?_watches polling access).ok trivial run monitor rfl
  · intro polling response isWatched
    -- What is watched has a status of its own, so only the type that it carries can make an error
    -- of it.
    have hasCode : response.status ≠ .wildcard := by
      have both := List.find?_some isWatched
      simp only [Bool.and_eq_true, bne_iff_ne] at both
      exact both.1
    refine ⟨?_, fun access state outcomes next run => ?_⟩
    · rw [← Bool.not_eq_true, Context.isErrorResponse_eq_true_iff, or_iff_right hasCode]
    · exact (Context.outcomes_retain.ok trivial run).get?_isSome
        (List.mem_of_find?_eq_some isWatched)
  · intro package derived client below method member operation isOrigin
    obtain ⟨clients, run, rfl⟩ := derivePackage_ok derived
    exact (watches_telling context).clients.ok trivial run client below method member operation
      isOrigin

/-- A pottery where only the error that asking for a firing may answer with tells how it fares. -/
def pottery : Definition :=
  let steps : Service.Drafting Unit := do
    let root ← Draft.addContainer "Pottery" false none
    Draft.setService root {}
    let stage ← Draft.enumeration "Stage" none ["Heating", "Succeeded", "Failed"]
    let fault ← Draft.model { name := some "Fault", isError := true }
    let _ ← Draft.property fault "status" stage
    let watch ← Draft.operation root "watch" .get "/firing"
    Draft.addResponse watch { status := .code 200 }
    Draft.addResponse watch { status := .code 400, body := some { type := fault } }
    let fire ← Draft.operation root "fire" .post "/firing"
    Draft.addResponse fire { status := .code 202 }
    Draft.modifyOperation fire fun declared =>
      { declared with polling := some { operation := watch } }
  (steps.run {}).2.definition

/-- Whoever fires in the pottery polls for the status that the error carries. -/
theorem monitor_is_of_success_iff_pottery :
    ∃ response, (Context.of pottery {}).watchedResponse? ⟨0⟩ = some response ∧
      (Context.of pottery {}).isErrorResponse response = true ∧
      (Context.of pottery {}).CarriesError response ∧
      ∃ package, derivePackage pottery {} = .ok package ∧
        ∃ client ∈ Client.walkAll package.clients, ∃ method ∈ client.methods,
          method.origin = some ⟨1⟩ ∧ ∃ progress ∈ method.kind.polling?,
            (Context.of pottery {}).Watches ⟨0⟩ response progress.monitor
              (finalState pottery {}) := by
  obtain ⟨_, ofResponses, ofPackages⟩ := monitor_is_of_success_iff pottery {}
  -- That something is watched and polled is decided; what it is, the theorem tells.
  have watched : ((Context.of pottery {}).watchedResponse? ⟨0⟩).any
      (Context.of pottery {}).isErrorResponse = true := by decide +kernel
  have polls : ((Context.of pottery {}).clients.run {}).1.toOption.any fun clients =>
      clients.any fun client => client.methods.any fun method =>
        method.origin == some (⟨1⟩ : OperationId) && method.kind.polling?.isSome := by
    decide +kernel
  have polled : (pottery.operationAt ⟨1⟩).polling.map (·.operation) = some ⟨0⟩ := by
    decide +kernel
  obtain ⟨response, isWatched, isError⟩ := (Option.any_eq_true _ _).mp watched
  obtain ⟨clients, run, derived⟩ :=
    derivePackage_of_isOk (by decide +kernel : (derivePackage pottery {}).isOk = true)
  rw [run] at polls
  simp only [Except.toOption, Option.any_some, List.any_eq_true, Bool.and_eq_true,
    beq_iff_eq] at polls
  obtain ⟨client, isClient, method, isMethod, isOrigin, isPolling⟩ := polls
  obtain ⟨progress, isProgress⟩ := Option.isSome_iff_exists.mp isPolling
  have below := mem_walkAll.mpr ⟨client, isClient, mem_walk.mpr (Or.inl rfl)⟩
  have carries : (Context.of pottery {}).CarriesError response := by
    by_contra success
    rw [(ofResponses ⟨0⟩ response isWatched).1.mpr success] at isError
    cases isError
  obtain ⟨declared, isDeclared, other, watches⟩ :=
    ofPackages _ derived client below method isMethod ⟨1⟩ isOrigin progress isProgress
  -- The operation that is polled is the one that is looked at above, and so is its response.
  have same : declared.operation = ⟨0⟩ := by
    rw [show (pottery.operationAt ⟨1⟩).polling = some declared from isDeclared] at polled
    simpa using polled
  rw [same] at watches
  obtain rfl : other = response := Option.some.inj (watches.isFirst.symm.trans isWatched)
  exact ⟨other, isWatched, isError, carries, _, derived, client, below, method, isMethod, isOrigin,
    progress, isProgress, watches⟩

/-- The firing is polled for the status of an error, though no success tells any. -/
theorem monitor_may_be_of_an_error :
    ¬∀ polling access state monitor next,
      (Context.of pottery {}).statusMonitor? polling access state = (.ok (some monitor), next) →
        ∃ response ∈ (pottery.operationAt polling).responses,
          (Context.of pottery {}).isErrorResponse response = false ∧
            ∃ body ∈ (Context.of pottery {}).payload? response, ∃ model,
              (Context.of pottery {}).finalMonitor? body.type =
                .ok (some (model, monitor.status.origin, monitor.states)) := by
  -- The monitor that is found would have to be that of a success, and no success has a status.
  intro always
  have finds : ((Context.of pottery {}).statusMonitor? ⟨0⟩ .everyone {}).1.toOption.any
      Option.isSome = true := by decide +kernel
  have none : ∀ response ∈ (pottery.operationAt ⟨0⟩).responses,
      (Context.of pottery {}).isErrorResponse response = true ∨
        (Context.of pottery {}).hasStatus response = false := by decide +kernel
  cases run : (Context.of pottery {}).statusMonitor? ⟨0⟩ .everyone {} with
  | mk outcome next =>
    rw [run] at finds
    cases outcome with
    | error failure => cases finds
    | ok found =>
      obtain ⟨monitor, rfl⟩ := Option.isSome_iff_exists.mp finds
      obtain ⟨response, listed, success, body, isBody, model, isMonitor⟩ :=
        always _ _ _ monitor next run
      rcases none response listed with isError | hasNone
      · rw [success] at isError
        cases isError
      · simp only [Context.hasStatus, Option.mem_def.mp isBody, Option.any_some,
          Context.foundMonitor?_eq_some_iff.mpr isMonitor, Option.isSome_some] at hasNone
        cases hasNone

end ClientModel.Derivation
