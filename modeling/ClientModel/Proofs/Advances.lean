import ClientModel.Proofs.EnteringModels
import ClientModel.Proofs.Methods

/-!
What is known between any two steps of a run.

All types that were met are rendered, and whatever clients and services were given so far names
nodes that are there. Each step keeps this, and adds to what is known without taking anything back.
-/

namespace ClientModel.Derivation

open Service (AuthScheme)

variable {α β : Type} {context : Context} {state before after : State}

/-! ## Parameters -/

/--
A parameter names nodes that are there.

It has the name that it was declared with, and is a version only if the name says so.
-/
structure Admits (context : Context) (catalogue : Catalogue) (parameter : Property) : Prop where
  names : catalogue.Holds parameter.nodeIds
  declared : ∀ id ∈ parameter.origin, parameter.name = (context.definition.propertyAt id).name
  version : parameter.isApiVersion = true → isVersionName parameter.name = true

/-- All of some parameters are admitted. -/
def AdmitsAll (context : Context) (catalogue : Catalogue) (parameters : List Property) : Prop :=
  ∀ parameter ∈ parameters, Admits context catalogue parameter

/-- The parameters that the client of a container has taken so far. -/
def State.takenBy (state : State) (client : ContainerId) : List Property :=
  (state.clientParameters.get? client).getD []

/-- The parameters that were chosen for the client of a container. -/
def Context.chosenFor (context : Context) (client : ContainerId) : List PropertyId :=
  ((context.choices.setup? client).map (·.parameters)).getD []

/-- The parameter for the endpoint of a service. -/
structure IsEndpoint (context : Context) (catalogue : Catalogue) (parameter : Property) :
    Prop where
  admits : Admits context catalogue parameter
  name : parameter.name = endpointName
  role : parameter.role = .endpoint
  plain : parameter.isApiVersion = false

/-- The parameter for the credential of a service, if it wants one. -/
structure IsCredential (context : Context) (catalogue : Catalogue) (root : ContainerId)
    (found : Option Property) : Prop where
  wanted : found.isSome ↔ ∃ scheme ∈ (context.serviceAt root).auth, scheme ≠ .noAuth
  admits : ∀ parameter ∈ found, Admits context catalogue parameter
  name : ∀ parameter ∈ found, parameter.name = "credential"
  role : ∀ parameter ∈ found, parameter.role = .credential
  plain : ∀ parameter ∈ found, parameter.isApiVersion = false

/-! ## Consistent states -/

/-- What clients have taken after one more parameter is given to one of them. -/
theorem State.takenBy_alter (state : State) (client other : ContainerId) (parameter : Property) :
    State.takenBy { state with
        clientParameters :=
          state.clientParameters.alter client fun before => before.getD [] ++ [parameter] } other =
      if other = client then state.takenBy client ++ [parameter] else state.takenBy other := by
  simp only [State.takenBy, OrderedMap.alter, OrderedMap.get?_insert, beq_iff_eq]
  -- Only the client that takes the parameter has one more.
  split
  · rfl
  · rfl

/-- What is known between any two steps of a run. -/
structure Consistent (context : Context) (state : State) : Prop where
  orderly : Orderly context state
  rendered : ∀ id node, state.declared.get? id = some node → context.Rendered state id node
  taken : ∀ client, AdmitsAll context state.catalogue (state.takenBy client)
  single : ∀ client, context.chosenFor client = [] →
    ((state.takenBy client).filter Property.isApiVersion).length ≤ 1
  endpoints : ∀ root parameter, state.endpoints.get? root = some parameter →
    IsEndpoint context state.catalogue parameter
  credentials : ∀ root found, state.credentials.get? root = some found →
    IsCredential context state.catalogue root found
  unfixed : ∀ report ∈ state.diagnostics.reports,
    report.code = some Code.discriminatorNotConstant →
      ∃ derived, report.target = some (.type derived) ∧ context.Unfixed derived

/-- Both states have the same nodes, and know them alike. -/
structure SameNodes (before after : State) : Prop where
  catalogue : after.catalogue = before.catalogue
  declared : after.declared = before.declared
  builtins : after.builtins = before.builtins

/-- One state comes after another in single steps: moves, and notes that leave all nodes alone. -/
def Passes (context : Context) : State → State → Prop :=
  Relation.ReflTransGen fun before after => Move context before after ∨ SameNodes before after

/-- One state comes after another: nothing known is lost, and consistency is kept. -/
structure Advances (context : Context) (before after : State) : Prop where
  passes : Passes context before after
  grown : Grown before after
  endpoints : ∀ root parameter, before.endpoints.get? root = some parameter →
    after.endpoints.get? root = some parameter
  credentials : ∀ root found, before.credentials.get? root = some found →
    after.credentials.get? root = some found
  consistent : Consistent context before → Consistent context after

instance : Leading (Consistent context) (Advances context) where
  refl state :=
    ⟨.refl, .refl state, fun _ _ known => known, fun _ _ known => known, fun known => known⟩
  trans _ left right :=
    { passes := left.passes.trans right.passes
      grown := left.grown.trans right.grown
      endpoints := fun root parameter known =>
        right.endpoints root parameter (left.endpoints root parameter known)
      credentials := fun root found known =>
        right.credentials root found (left.credentials root found known)
      consistent := fun known => right.consistent (left.consistent known) }
  sound consistent advances := advances.consistent consistent

instance : Growing (Advances context) :=
  ⟨fun advances => advances.grown⟩

section

variable {smaller larger : Catalogue} (grows : smaller.size ≤ larger.size)
include grows

/-- In a larger catalogue a parameter is still admitted. -/
theorem Admits.mono {parameter : Property} (admits : Admits context smaller parameter) :
    Admits context larger parameter :=
  ⟨admits.names.mono grows, admits.declared, admits.version⟩

/-- In a larger catalogue all parameters are still admitted. -/
theorem AdmitsAll.mono {parameters : List Property}
    (admits : AdmitsAll context smaller parameters) : AdmitsAll context larger parameters :=
  fun parameter listed => (admits parameter listed).mono grows

/-- In a larger catalogue an endpoint is one still. -/
theorem IsEndpoint.mono {parameter : Property} (isEndpoint : IsEndpoint context smaller parameter) :
    IsEndpoint context larger parameter where
  admits := isEndpoint.admits.mono grows
  name := isEndpoint.name
  role := isEndpoint.role
  plain := isEndpoint.plain

/-- In a larger catalogue a credential is one still. -/
theorem IsCredential.mono {root : ContainerId} {found : Option Property}
    (isCredential : IsCredential context smaller root found) :
    IsCredential context larger root found where
  wanted := isCredential.wanted
  admits parameter isFound := (isCredential.admits parameter isFound).mono grows
  name := isCredential.name
  role := isCredential.role
  plain := isCredential.plain

end

/-- At the start of a run nothing is known. -/
theorem Consistent.start : Consistent context {} := by
  -- No type was met, and no parameter was given to anyone.
  refine ⟨.start, ?_, ?_, ?_, ?_, ?_, ?_⟩ <;>
    simp [OrderedMap.get?, State.takenBy, AdmitsAll]

/-! ## Notes -/

namespace SameNodes

variable (same : SameNodes before after)
include same

/-- States with the same nodes are in order alike. -/
theorem orderly (orderly : Orderly context before) : Orderly context after := by
  -- What is known of nodes is read off the parts of the state that are the same.
  obtain ⟨inside, suits, own, registered, builtins, shared, names⟩ := orderly
  rw [← same.catalogue, ← same.declared] at *
  rw [← same.builtins] at builtins shared
  exact ⟨inside, suits, own, registered, builtins, shared, names⟩

/-- States with the same nodes have them rendered alike. -/
theorem rendered {id : TypeId} {node : NodeId} (rendered : context.Rendered before id node) :
    context.Rendered after id node := by
  -- Where all nodes are the same, so is whatever a rendering relies on.
  have sustains : Sustains before after :=
    { declared := fun _ _ known => by rwa [same.declared]
      builtins := fun _ _ known => by rwa [same.builtins]
      marks := fun _ _ => .of_kind (by rw [same.catalogue]) }
  exact sustains.rendered rendered (by rw [same.catalogue])

end SameNodes

/-- Notes that leave all nodes alone keep a state consistent if what they tell fits. -/
theorem Consistent.noted (known : Consistent context before) (same : SameNodes before after)
    (diagnostics : after.diagnostics = before.diagnostics)
    (taken : ∀ client, AdmitsAll context before.catalogue (after.takenBy client))
    (single : ∀ client, context.chosenFor client = [] →
      ((after.takenBy client).filter Property.isApiVersion).length ≤ 1)
    (endpoints : ∀ root parameter, after.endpoints.get? root = some parameter →
      IsEndpoint context before.catalogue parameter)
    (credentials : ∀ root found, after.credentials.get? root = some found →
      IsCredential context before.catalogue root found) : Consistent context after where
  -- The nodes are the same, so what is said of them holds as before; the notes are told by
  -- assumption.
  orderly := same.orderly known.orderly
  rendered id node isKnown := same.rendered (known.rendered id node (same.declared ▸ isKnown))
  taken client := same.catalogue ▸ taken client
  single := single
  endpoints root parameter isKnown := same.catalogue ▸ endpoints root parameter isKnown
  credentials root found isKnown := same.catalogue ▸ credentials root found isKnown
  unfixed := diagnostics ▸ known.unfixed

namespace Advances

/-- Notes on usage are no part of what is known. -/
theorem note (seeds : List Seed) (bodyFormats : List (NodeId × Bool)) :
    Advances context state { state with seeds, bodyFormats } where
  passes := .single (Or.inr ⟨rfl, rfl, rfl⟩)
  grown := (Grown.refl state).noted _ _ _ _
  endpoints _ _ known := known
  credentials _ _ known := known
  consistent known :=
    known.noted ⟨rfl, rfl, rfl⟩ rfl known.taken known.single known.endpoints known.credentials

/-- A client takes a parameter; a second version only where parameters were chosen for it. -/
theorem take {client : ContainerId} {parameter : Property}
    (admits : Admits context state.catalogue parameter)
    (alone : context.chosenFor client = [] → parameter.isApiVersion = true →
      ∀ other ∈ state.takenBy client, other.isApiVersion = false) :
    Advances context state { state with
      clientParameters :=
        state.clientParameters.alter client fun before => before.getD [] ++ [parameter] } where
  passes := .single (Or.inr ⟨rfl, rfl, rfl⟩)
  grown := (Grown.refl state).takes client parameter
  endpoints _ _ known := known
  credentials _ _ known := known
  consistent known := by
    refine known.noted ⟨rfl, rfl, rfl⟩ rfl (fun other => ?_) (fun other none => ?_)
      known.endpoints known.credentials
    -- Another client has what it had before; this one has the parameter as well.
    · rw [State.takenBy_alter]
      split
      · intro found listed
        rcases List.mem_append.mp listed with old | new
        · exact known.taken client found old
        · rw [List.mem_singleton.mp new]
          exact admits
      · exact known.taken other
    · rw [State.takenBy_alter]
      split
      · rename_i isClient
        subst isClient
        -- A version that is taken is the only one.
        cases isVersion : parameter.isApiVersion with
        | false => simpa [List.filter_append, isVersion] using known.single other none
        | true =>
          have others : (state.takenBy other).filter Property.isApiVersion = [] :=
            List.filter_eq_nil_iff.mpr fun found listed => by
              simp [alone none isVersion found listed]
          simp [List.filter_append, others, isVersion]
      · exact known.single other none

/-- A service without an endpoint gets one. -/
theorem addEndpoint {root : ContainerId} {parameter : Property}
    (fresh : state.endpoints.get? root = none)
    (isEndpoint : IsEndpoint context state.catalogue parameter) :
    Advances context state { state with endpoints := state.endpoints.insert root parameter } where
  passes := .single (Or.inr ⟨rfl, rfl, rfl⟩)
  grown := (Grown.refl state).noted _ _ _ _
  endpoints other found known := OrderedMap.get?_insert_of_get?
    (fun first had => by rw [fresh] at had; cases had) known
  credentials _ _ known := known
  consistent known := by
    refine known.noted ⟨rfl, rfl, rfl⟩ rfl known.taken known.single (fun other found isKnown => ?_)
      known.credentials
    -- The service is the one that just got its endpoint, or another one.
    rcases OrderedMap.get?_insert_cases isKnown with ⟨_, rfl⟩ | earlier
    · exact isEndpoint
    · exact known.endpoints other found earlier

/-- A service about whose credential nothing is known yet gets one, or none. -/
theorem addCredential {root : ContainerId} {found : Option Property}
    (fresh : state.credentials.get? root = none)
    (isCredential : IsCredential context state.catalogue root found) :
    Advances context state { state with credentials := state.credentials.insert root found } where
  passes := .single (Or.inr ⟨rfl, rfl, rfl⟩)
  grown := (Grown.refl state).noted _ _ _ _
  endpoints _ _ known := known
  credentials other found known := OrderedMap.get?_insert_of_get?
    (fun first had => by rw [fresh] at had; cases had) known
  consistent known := by
    refine known.noted ⟨rfl, rfl, rfl⟩ rfl known.taken known.single known.endpoints
      fun other had isKnown => ?_
    -- The service is the one whose credential was just settled, or another one.
    rcases OrderedMap.get?_insert_cases isKnown with ⟨rfl, rfl⟩ | earlier
    · exact isCredential
    · exact known.credentials other had earlier

end Advances

/-! ## Nodes -/

/-- By induction on the moves: deriving nodes gives nothing to clients or services. -/
theorem path_notes (path : Path context before after) :
    after.clientParameters = before.clientParameters ∧ after.endpoints = before.endpoints ∧
      after.credentials = before.credentials := by
  induction path with
  | refl => exact ⟨rfl, rfl, rfl⟩
  -- No move touches these tables.
  | tail _ last ih => cases last <;> exact ih

/-- By induction on the moves: only a subtype without a text is reported as such. -/
theorem path_unfixed (path : Path context before after) {report : Diagnostic}
    (noted : report ∈ after.diagnostics.reports)
    (isCode : report.code = some Code.discriminatorNotConstant) :
    report ∈ before.diagnostics.reports ∨
      ∃ derived, report.target = some (.type derived) ∧ context.Unfixed derived := by
  induction path with
  | refl => exact Or.inl noted
  | tail _ last ih =>
    -- Only the last two kinds of moves report anything.
    cases last with
    | unfixed missing target =>
      rcases List.mem_append.mp noted with earlier | new
      · exact ih earlier
      · rw [List.mem_singleton.mp new]
        exact Or.inr ⟨_, target, missing⟩
    | reported other =>
      rcases List.mem_append.mp noted with earlier | new
      · exact ih earlier
      · rw [List.mem_singleton.mp new] at isCode
        exact absurd isCode other
    | registered | shared | made | loose | changed | named => exact ih noted

/-- Deriving nodes renders whatever is met, and takes nothing from clients or services. -/
theorem Advances.derive (derived : Derived context before after) :
    Advances context before after := by
  obtain ⟨parameters, endpoints, credentials⟩ := path_notes derived.later.path
  have larger := derived.later.grown.size
  have taken (client : ContainerId) : after.takenBy client = before.takenBy client := by
    rw [State.takenBy, parameters, State.takenBy]
  -- Each move is a single step of the run.
  have passes : Passes context before after :=
    Relation.ReflTransGen.mono (fun _ _ => Or.inl) _ _ derived.later.path
  refine ⟨passes, derived.later.grown, fun _ _ known => by rwa [endpoints],
    fun _ _ known => by rwa [credentials], fun known => ?_⟩
  refine
    { orderly := known.orderly.path derived.later.path
      rendered := fun id node isKnown => ?_
      taken := fun client => ?_
      single := fun client none => ?_
      endpoints := fun root parameter isKnown => ?_
      credentials := fun root found isKnown => ?_
      unfixed := fun report noted isCode => ?_ }
  -- Met before and rendered by then, or new and rendered.
  · rcases derived.rendered id node isKnown with earlier | rendered
    · have inside := known.orderly.inside id node earlier
      exact derived.later.sustains.rendered (known.rendered id node earlier)
        (derived.later.grown.nodes node inside)
    · exact rendered
  · rw [taken]
    exact (known.taken client).mono larger
  · rw [taken]
    exact known.single client none
  · rw [endpoints] at isKnown
    exact (known.endpoints root parameter isKnown).mono larger
  · rw [credentials] at isKnown
    exact (known.credentials root found isKnown).mono larger
  -- The report was there before, or it is about a subtype that fixes no text.
  · rcases path_unfixed derived.later.path noted isCode with earlier | told
    · exact known.unfixed report earlier isCode
    · exact told

/-- Where all is rendered, any type may be derived. -/
theorem Consistent.ready (consistent : Consistent context state) (target : TypeId) :
    context.Ready target state :=
  ready_of_rendered consistent.rendered target

/-- What deriving nodes conveys is conveyed along a run. -/
theorem Conveys.advance {needed needed' : State → Prop} {step : Derive α}
    {told : α → State → Prop} (conveys : Conveys (Derived context) needed step told)
    (has : ∀ state, Consistent context state → needed' state → needed state) :
    Conveys (Advances context) needed' step told := fun start consistent =>
  -- A consistent state is an orderly one, and ready for whatever is derived.
  (conveys start consistent.orderly).weaken
    (fun _ begins => ⟨begins.1, has _ (begins.1 ▸ consistent) begins.2⟩)
    (fun _ _ ends => ⟨.derive ends.1, ends.2⟩) fun _ _ fails isOwn => .derive (fails isOwn)

end ClientModel.Derivation
