import ClientModel.Proofs.Arrangement
import ClientModel.Proofs.Calls
import ClientModel.Proofs.Sources

/-!
Who hands over the parameters of clients that requests read.

A parameter of a client is handed over when the client is made, or when one that it is below is.
Only where the container of a root client lies in that of another root client, a request may read
what is handed over to a client in another tree.
-/

namespace ClientModel.Derivation

open Service (Definition Draft)

variable {context : Context}

/-- Of all methods, it is told that their own parameters are given to every call. -/
theorem telling_onCalls : Telling context fun _ method _ => Context.OnCalls method.parameters where
  lasting _ _ := (Lasting.const _).enduring
  method container operation := Context.method_onCalls operation container
  accessor _ _ _ _ _ := by simp [Context.OnCalls, Context.accessor]

/-- What lies in a container of a service belongs to a service. -/
theorem serviceRoot?_isSome_of_encloses {definition : Definition} (linked : definition.IsLinked)
    {outer inner : ContainerId} (inService : (definition.serviceRoot? outer).isSome)
    (encloses : outer ∈ definition.enclosing inner) :
    (definition.serviceRoot? inner).isSome := by
  unfold Definition.serviceRoot? at inService ⊢
  rw [List.find?_isSome] at inService ⊢
  -- A service around the outer container is around the inner one as well.
  obtain ⟨service, around, isService⟩ := inService
  exact ⟨service, linked.enclosing_trans around encloses, isService⟩

section

variable {roots : List ContainerId} {clients : List Client} {state : State}
  (arranged : List.Forall₂ (fun root client => client.origin = root ∧
    Arranged context (context.clientTree root).containers client.walk state) roots clients)
include arranged

/-- Each client of an arranged list is that of one of the roots, with its whole tree arranged. -/
theorem arranged_of_client {client : Client} (member : client ∈ clients) :
    client.origin ∈ roots ∧
      Arranged context (context.clientTree client.origin).containers client.walk state := by
  -- Along the list of roots, which that of the clients follows one by one.
  induction arranged with
  | nil => cases member
  | cons first _ ih =>
    rcases List.mem_cons.mp member with rfl | later
    · rw [first.1]
      exact ⟨List.mem_cons_self, first.2⟩
    · exact ⟨List.mem_cons_of_mem _ (ih later).1, (ih later).2⟩

/-- Each root has a client in an arranged list. -/
theorem client_of_root {root : ContainerId} (member : root ∈ roots) :
    ∃ client ∈ clients, client.origin = root := by
  -- Along the list of roots again, this time to find the client that stands for the one wanted.
  induction arranged with
  | nil => cases member
  | cons first _ ih =>
    rcases List.mem_cons.mp member with rfl | later
    · exact ⟨_, List.mem_cons_self, first.1⟩
    · obtain ⟨client, listed, same⟩ := ih later
      exact ⟨client, List.mem_cons_of_mem _ listed, same⟩

end

/--
What is in scope of a client is handed over within its own tree, if its root is in no other one.

The containers around that of the client lie in the same tree, or else in one of a root further
out.
-/
theorem announced_of_inScope (sound : context.IsSound) {clients : List Client} {state : State}
    (run : context.clients {} = (.ok clients, state)) {root : Client} (isRoot : root ∈ clients)
    (inService : (context.definition.serviceRoot? root.origin).isSome)
    (outermost : ∀ other ∈ clients,
      other.origin ∈ context.definition.enclosing root.origin → other.origin = root.origin)
    {client : Client} (inWalk : client ∈ root.walk) {parameter : Property}
    (inScope : parameter ∈ state.scopeOf context client.origin) :
    ∃ ancestor ∈ root.walk, client ∈ ancestor.walk ∧
      parameter.name ∈ ancestor.initialization.parameters.map Property.name := by
  have linked := sound.linked
  have each := (Context.clients_arranged sound).ok trivial run
  obtain ⟨amongRoots, arranged⟩ := arranged_of_client each isRoot
  obtain ⟨container, around, taken⟩ := List.mem_flatMap.mp inScope
  -- It was given to the client of a container around, which is in the tree of some root.
  have takes : state.clientParameters.get? container ≠ none := by
    intro none
    simp [none] at taken
  obtain ⟨top, isTop, inTop⟩ := Context.clients_takers sound run takes
  have inTree : client.origin ∈ (context.clientTree root.origin).containers := by
    rw [← arranged.origins]
    exact List.mem_map_of_mem inWalk
  have below := Context.isBelow_of_mem linked inTree
  have fromTop := (Context.isBelow_of_mem linked inTop).encloses
  -- Both roots are around the client, and of two roots around it the inner one is its own.
  obtain rfl : top = root.origin := by
    have topAround := linked.enclosing_trans fromTop around
    by_contra apart
    rcases linked.enclosing_total topAround below.encloses with further | within
    · -- Were the other root further out, then this one would lie in it.
      obtain ⟨other, isOther, same⟩ := client_of_root each isTop
      rw [← same] at further apart
      exact apart (outermost other isOther further)
    · exact below.noRoot top topAround within apart isTop
  -- The taker is a client of the same tree, and around this one.
  rw [← arranged.origins] at inTop
  obtain ⟨ancestor, isAncestor, rfl⟩ := List.mem_map.mp inTop
  refine ⟨ancestor, isAncestor, ?_, ?_⟩
  · refine mem_walk_of_encloses linked ?_ arranged.nested isAncestor inWalk fromTop around
    rw [arranged.origins]
    exact Context.containers_nodup linked _ _
  · exact arranged.announced ancestor isAncestor
      (serviceRoot?_isSome_of_encloses linked inService fromTop) parameter taken

/--
A request reads no parameter of a client that nobody hands over.

In the tree of a root client that belongs to a service and lies in no other root, each parameter of
a client that a source reads is one that the client of the method, or one that this client is below,
is made with.
-/
theorem client_parameters_are_announced {draft : Draft} (made : draft.IsMade) {options : Options}
    {package : Package} (derived : derivePackage draft.definition options = .ok package)
    {root : Client} (isRoot : root ∈ package.clients)
    (inService : (draft.definition.serviceRoot? root.origin).isSome)
    (outermost : ∀ other ∈ package.clients,
      other.origin ∈ draft.definition.enclosing root.origin → other.origin = root.origin) :
    ∀ client ∈ root.walk, ∀ method ∈ client.methods, ∀ operation,
      method.operation? = some operation → ∀ wire ∈ operation.wireParameters,
        ∀ source ∈ wire.sources, source.root.onClient = true →
          ∃ ancestor ∈ root.walk, client ∈ ancestor.walk ∧
            source.root.name ∈ ancestor.initialization.parameters.map Property.name := by
  obtain ⟨clients, run, rfl⟩ := derivePackage_ok derived
  intro client inWalk method listed operation behind wire inRequest source isSource onClient
  have inAll : client ∈ Client.walkAll clients := mem_walkAll.mpr ⟨root, isRoot, inWalk⟩
  -- What a source reads is one of the parameters of the method, or in scope of its client.
  have supplied := telling_isSupplied.clients.ok trivial run client inAll method listed operation
    behind wire inRequest
  have onCalls := telling_onCalls.clients.ok trivial run client inAll method listed
  refine announced_of_inScope (Context.isSound_of made.isLinked options) run isRoot inService
    outermost inWalk ?_
  -- It is none of the former, since no parameter of a method is given to a client.
  rcases (supplied.2 source isSource).root with own | inScope
  · simp [onCalls source.root own] at onClient
  · exact inScope

/-- A fleet with an administration below it, each with a method that sends the version. -/
def fleet : Draft :=
  let steps : Service.Drafting Unit := do
    let root ← Draft.addContainer "Fleet" false none
    Draft.setService root { apiVersions := ["1"] }
    let admin ← Draft.addContainer "Admin" true (some root)
    let string ← Draft.scalar "string"
    let list ← Draft.operation root "list" .get "/ships"
    let _ ← Draft.parameter list "apiVersion" string (.query "api-version")
    let reset ← Draft.operation admin "reset" .post "/reset"
    let _ ← Draft.parameter reset "apiVersion" string (.query "api-version")
  (steps.run {}).2

/-- The fleet is put together by the steps of a draft. -/
theorem fleet_isMade : fleet.IsMade := by
  have root := Draft.IsMade.empty.container "Fleet" false none (by simp)
  have service := root.service ⟨0⟩ fun _ => { apiVersions := ["1"] }
  have admin := service.container "Admin" true (some ⟨0⟩) (by decide +kernel)
  have string := admin.scalar "string"
  -- Both parameters are made in three steps: the property, the declaration, and the slot.
  have parameter {draft : Draft} (made : draft.IsMade) (property : PropertyId)
      (operation : OperationId) :=
    ((made.addProperty { name := "apiVersion", type := ⟨0⟩, binding := some (.query "api-version") }
      ).modifyOperation operation (fun declared =>
        { declared with parameters := declared.parameters ++ [property] }) fun _ => rfl
      ).modifyOperation operation (fun declared =>
        { declared with slots := declared.slots ++ [{ property, location := some .query }] })
      fun _ => rfl
  have list := parameter (string.operation ⟨0⟩ "list" .get "/ships" (by decide +kernel)) ⟨0⟩ ⟨0⟩
  exact parameter (list.operation ⟨1⟩ "reset" .post "/reset" (by decide +kernel)) ⟨1⟩ ⟨1⟩

/-- The same fleet with both containers declared to be clients without a parent. -/
def dividedFleet : Draft :=
  let steps : Service.Drafting Unit := do
    Draft.customize fun all => all.addClient ⟨0⟩ none {}
    Draft.customize fun all => all.addClient ⟨1⟩ none {}
  (steps.run fleet).2

/-- The divided fleet is put together by the steps of a draft as well. -/
theorem dividedFleet_isMade : dividedFleet.IsMade :=
  (fleet_isMade.client ⟨0⟩ none {}).client ⟨1⟩ none {}

/-- What was chosen is in order, so that sorting it changes nothing. -/
theorem dividedFleet_choices : dividedFleet.definition.customizations.resolve none =
    { clients := [(⟨0⟩, {}), (⟨1⟩, {})] } := by
  have resolved : dividedFleet.definition.customizations.resolve none =
      { locations := ([] : List (OperationId × ContainerId)).mergeSort
          fun left right => left.1.index ≤ right.1.index
        clients := [((⟨0⟩ : ContainerId), ({} : Service.ClientDecl)), (⟨1⟩, {})].mergeSort
          fun left right => left.1.index ≤ right.1.index } := rfl
  -- Both sorted lists are short and in order, where sorting is known to change nothing.
  have sorted : [((⟨0⟩ : ContainerId), ({} : Service.ClientDecl)), (⟨1⟩, {})].mergeSort
      (fun left right => left.1.index ≤ right.1.index) = [(⟨0⟩, {}), (⟨1⟩, {})] :=
    List.mergeSort_of_pairwise (by decide)
  rw [resolved, List.mergeSort_nil, sorted]

/-- The fleet has one client, and what its methods take from a client is announced there. -/
theorem client_parameters_are_announced_fleet :
    fleet.IsMade ∧ ∃ package root, derivePackage fleet.definition {} = .ok package ∧
      root ∈ package.clients ∧ (fleet.definition.serviceRoot? root.origin).isSome ∧
      (∀ other ∈ package.clients,
        other.origin ∈ fleet.definition.enclosing root.origin → other.origin = root.origin) ∧
      ∀ client ∈ root.walk, ∀ method ∈ client.methods, ∀ operation,
        method.operation? = some operation → ∀ wire ∈ operation.wireParameters,
          ∀ source ∈ wire.sources, source.root.onClient = true →
            ∃ ancestor ∈ root.walk, client ∈ ancestor.walk ∧
              source.root.name ∈ ancestor.initialization.parameters.map Property.name := by
  -- The one root is read off by evaluation; the theorem does the rest.
  have origins : (match derivePackage fleet.definition {} with
      | .ok package => package.clients.map Client.origin
      | .error _ => []) = [⟨0⟩] := by
    decide +kernel
  cases derived : derivePackage fleet.definition {} with
  | error failure => simp [derived] at origins
  | ok package =>
    rw [derived] at origins
    dsimp only at origins
    obtain ⟨root, clients, isOrigin⟩ := List.map_eq_singleton_iff.mp origins
    have isRoot : root ∈ package.clients := by simp [clients]
    have inService : (fleet.definition.serviceRoot? root.origin).isSome := by
      rw [isOrigin]
      decide +kernel
    -- There is but one client, so no other one can lie around it.
    have outermost : ∀ other ∈ package.clients,
        other.origin ∈ fleet.definition.enclosing root.origin → other.origin = root.origin := by
      simp [clients]
    exact ⟨fleet_isMade, package, root, rfl, isRoot, inService, outermost,
      client_parameters_are_announced fleet_isMade derived isRoot inService outermost⟩

/--
A method of a root client within another one reads a parameter that only the other one is made
with.
-/
theorem client_parameter_of_other_tree :
    ¬ ∀ (draft : Draft) (options : Options) (package : Package), draft.IsMade →
      derivePackage draft.definition options = .ok package →
      ∀ root ∈ package.clients, ∀ client ∈ root.walk, ∀ method ∈ client.methods, ∀ operation,
        method.operation? = some operation → ∀ wire ∈ operation.wireParameters,
          ∀ source ∈ wire.sources, source.root.onClient = true →
            ∃ ancestor ∈ root.walk, client ∈ ancestor.walk ∧
              source.root.name ∈ ancestor.initialization.parameters.map Property.name := by
  intro announced
  -- The run is evaluated on the two clients, and the parameter is not among those of the root.
  have missing : (match derivePackage dividedFleet.definition {} with
      | .ok package => package.clients.any fun root => root.children.isEmpty &&
        root.methods.any fun method => method.operation?.any fun operation =>
          operation.wireParameters.any fun wire => wire.sources.any fun source =>
            source.root.onClient &&
              !(root.initialization.parameters.map Property.name).contains source.root.name
      | .error _ => false) = true := by
    unfold derivePackage Context.of
    rw [dividedFleet_choices]
    decide +kernel
  cases derived : derivePackage dividedFleet.definition {} with
  | error failure => simp [derived] at missing
  | ok package =>
    rw [derived] at missing
    simp only [List.any_eq_true, Option.any_eq_true, Bool.and_eq_true, Bool.not_eq_true',
      List.isEmpty_iff] at missing
    obtain ⟨root, isRoot, alone, method, isMethod, operation, behind, wire, inRequest, source,
      isSource, onClient, unannounced⟩ := missing
    obtain ⟨ancestor, inWalk, _, named⟩ := announced dividedFleet {} package dividedFleet_isMade
      derived root isRoot root (mem_walk_self root) method isMethod operation behind wire inRequest
      source isSource onClient
    -- Nothing but the root itself could be made with the parameter.
    rw [mem_walk, alone] at inWalk
    rcases inWalk with rfl | none
    · simp [named] at unannounced
    · cases none

end ClientModel.Derivation
