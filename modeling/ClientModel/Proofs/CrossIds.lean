import ClientModel.Proofs.Chains
import ClientModel.Proofs.Exports
import ClientModel.Proofs.Identity
import ClientModel.Proofs.Nameplates

/-!
The identifiers under which types are known in every language.

Where declared names are told apart, two types of a package share an identifier only if one of them
was declared with a name and the same name was made up for the other one.
-/

namespace ClientModel

/-- The models, the enums and the unions that a package lists. -/
def Package.listed (package : Package) : List NodeId :=
  package.models ++ package.enums ++ package.unions

/-- What the models, the enums and the unions of a package are known by. -/
def Package.nameplates (package : Package) : List Nameplate :=
  package.listed.filterMap fun id => (package.catalogue.nodeAt id).nameplate?

/-- Whatever has a label is a model, an enum or a named union, all of which are listed. -/
theorem Package.Lists.mem_listed {package : Package} {id : NodeId} (lists : package.Lists id)
    {plate : Nameplate} (isPlate : (package.catalogue.nodeAt id).nameplate? = some plate) :
    id ∈ package.listed := by
  -- The kind of node tells under which of the three sorts it is listed.
  rw [Package.listed, List.mem_append, List.mem_append]
  cases kind : (package.catalogue.nodeAt id).kind with
  | model model => exact Or.inl (Or.inl (lists.model (by simp [Node.model?, kind])))
  | enumeration enumeration =>
    exact Or.inl (Or.inr (lists.enumeration (by simp [Node.enumeration?, kind])))
  | union union =>
    simp only [Node.nameplate?, kind, Option.map_eq_some_iff] at isPlate
    obtain ⟨name, isName, _⟩ := isPlate
    exact Or.inr (lists.union union (by simp [Node.union?, kind]) (by simp [isName]))
  | _ => simp [Node.nameplate?, kind] at isPlate

/-- Usage, access and subtypes are no part of what a node is known by. -/
theorem Node.nameplate?_of_core {node other : Node} (same : other.kind.core = node.kind.core) :
    other.nameplate? = node.nameplate? := by
  -- The core of a kind has its name and namespace in it, and kinds of different sorts have
  -- different cores.
  cases kind : node.kind <;> cases otherKind : other.kind <;>
    simp [NodeKind.core, nameplate?, kind, otherKind] at same ⊢ <;> simp [same]

/-- No identifier is in range twice. -/
theorem Catalogue.ids_nodup (catalogue : Catalogue) : catalogue.ids.Nodup :=
  List.nodup_range.map fun left right same => (NodeId.mk.injEq left right).mp same

namespace Derivation

open Service (Definition)
open Text (Dotless)

variable {context : Context} {state : State}

/-! ## Names of declarations -/

/-- Declared models, enums and unions are told apart by namespace and name in clients. -/
structure Context.NamesApart (context : Context) : Prop where
  dotless : ∀ id name, context.givenName? id = some name → Dotless name
  single : ∀ id other name, context.givenName? id = some name →
    context.givenName? other = some name → context.namespaceName id = context.namespaceName other →
    id = other

/-- Beyond the table there are no names. -/
theorem Context.mem_typeIds_of_givenName? {id : TypeId} {name : String}
    (given : context.givenName? id = some name) : id ∈ context.definition.typeIds := by
  -- A place beyond the table reads as the unknown type, to which nobody gives a name.
  by_contra outside
  simp [givenName?, Definition.shapeAt_of_notMem outside] at given

/-- Whether names are told apart is seen from the table of types. -/
instance (context : Context) : Decidable context.NamesApart :=
  decidable_of_iff
    ((∀ id ∈ context.definition.typeIds, ∀ name ∈ context.givenName? id, Dotless name) ∧
      ∀ id ∈ context.definition.typeIds, ∀ other ∈ context.definition.typeIds,
        ∀ name ∈ context.givenName? id, context.givenName? other = some name →
          context.namespaceName id = context.namespaceName other → id = other)
    ⟨fun checked =>
      { dotless := fun id name given =>
          checked.1 id (Context.mem_typeIds_of_givenName? given) name given
        single := fun id other name given otherGiven =>
          checked.2 id (Context.mem_typeIds_of_givenName? given) other
            (Context.mem_typeIds_of_givenName? otherGiven) name given otherGiven },
      fun apart => ⟨fun id _ name given => apart.dotless id name given,
        fun id _ other _ name given otherGiven => apart.single id other name given otherGiven⟩⟩

/-! ## Labels -/

namespace Labelled

variable {id other : NodeId} {plate otherPlate : Nameplate} (labelled : Labelled context state)
  (apart : context.NamesApart)
  (isPlate : (state.catalogue.nodeAt id).nameplate? = some plate)
  (isOther : (state.catalogue.nodeAt other).nameplate? = some otherPlate)

include labelled apart

include isPlate in
/-- The name on a label has no dot in it. -/
theorem dotless : Dotless plate.name := by
  have labels := labelled.fits id plate isPlate
  cases generated : plate.isGeneratedName with
  | false =>
    -- Names that are declared are free of dots by assumption, and made-up ones are so anyway.
    obtain ⟨_, _, given, _⟩ := labels.given generated
    exact apart.dotless _ _ given
  | true => exact (labels.madeUp generated).dotless

include isPlate isOther

/-- An identifier tells the namespace and the name of a type. -/
theorem name_of_crossId (same : plate.crossId = otherPlate.crossId) :
    plate.namespace = otherPlate.namespace ∧ plate.name = otherPlate.name := by
  -- A name has no dots in it, so the last dot parts the namespace from the name.
  rw [(labelled.fits id plate isPlate).crossId,
    (labelled.fits other otherPlate isOther).crossId] at same
  exact qualified_inj (labelled.dotless apart isPlate) (labelled.dotless apart isOther) same

/-- Two nodes share an identifier only if the name of exactly one of them was made up. -/
theorem eq_of_crossId
    (single : ∀ type id other, (state.catalogue.nodeAt id).origin = some type →
      (state.catalogue.nodeAt other).origin = some type → id = other)
    (same : plate.crossId = otherPlate.crossId)
    (alike : plate.isGeneratedName = otherPlate.isGeneratedName) : id = other := by
  obtain ⟨inside, name⟩ := labelled.name_of_crossId apart isPlate isOther same
  have labels := labelled.fits id plate isPlate
  have otherLabels := labelled.fits other otherPlate isOther
  cases generated : plate.isGeneratedName with
  | false =>
    -- Both are declared, and have the names that tell their declarations apart.
    obtain ⟨type, origin, given, isNamespace⟩ := labels.given generated
    obtain ⟨otherType, otherOrigin, otherGiven, isOtherNamespace⟩ :=
      otherLabels.given (alike ▸ generated)
    rw [isNamespace, isOtherNamespace] at inside
    obtain rfl := apart.single type otherType _ given (name ▸ otherGiven) inside
    exact single type id other origin otherOrigin
  | true =>
    have madeUp := labels.madeUp generated
    have otherMadeUp := otherLabels.madeUp (alike ▸ generated)
    have origins := madeUp.origin_eq (name ▸ otherMadeUp)
    -- The name was made up for one declaration, or else for one union without a declaration.
    cases origin : (state.catalogue.nodeAt id).origin with
    | none =>
      exact labelled.apart id other plate otherPlate origin (origins ▸ origin) isPlate isOther name
    | some type => exact single type id other origin (origins ▸ origin)

end Labelled

/-! ## Packages -/

section

variable {clients : List Client}

/-- No type is listed twice, since none is of two sorts. -/
theorem listed_nodup : let package := state.package context clients; package.listed.Nodup := by
  intro package
  -- Each list is picked from the ids of the nodes, by a kind that its members have.
  have once (wanted : NodeId → Bool) : (package.catalogue.ids.filter wanted).Nodup :=
    package.catalogue.ids_nodup.filter wanted
  have sorted (isOfKind : Node → Bool) {id : NodeId}
      (listed : id ∈ package.catalogue.ids.filter fun id =>
        isOfKind (package.catalogue.nodeAt id) &&
          (package.catalogue.nodeAt id).usage?.any fun usage => !usage.isEmpty) :
      isOfKind (package.catalogue.nodeAt id) = true := by
    simp only [List.mem_filter, Bool.and_eq_true] at listed
    exact listed.2.1
  have models {id : NodeId} (listed : id ∈ package.models) := sorted (·.model?.isSome) listed
  have enums {id : NodeId} (listed : id ∈ package.enums) := sorted (·.enumeration?.isSome) listed
  have unions {id : NodeId} (listed : id ∈ package.unions) :=
    sorted (fun node => node.union?.any (·.name.isSome)) listed
  -- Three lists without repetition; a node in two of them would be of two kinds.
  refine List.nodup_append'.mpr ⟨List.nodup_append'.mpr ⟨once _, once _, ?_⟩, once _, ?_⟩
  · intro id isModel isEnum
    have first := models isModel
    have second := enums isEnum
    cases kind : (package.catalogue.nodeAt id).kind <;>
      simp [Node.model?, Node.enumeration?, kind] at first second
  · intro id isOther isUnion
    have last := unions isUnion
    rcases List.mem_append.mp isOther with isModel | isEnum
    · have first := models isModel
      cases kind : (package.catalogue.nodeAt id).kind <;>
        simp [Node.model?, Node.union?, kind] at first last
    · have first := enums isEnum
      cases kind : (package.catalogue.nodeAt id).kind <;>
        simp [Node.enumeration?, Node.union?, kind] at first last

/-- Usage does not change what a node is known by. -/
theorem nameplate?_package (id : NodeId) :
    ((state.package context clients).catalogue.nodeAt id).nameplate? =
      (state.catalogue.nodeAt id).nameplate? :=
  Node.nameplate?_of_core (sameCores_spread.core id)

/-- A label is among those of a package just if a listed node has it. -/
theorem mem_nameplates_package {plate : Nameplate} :
    plate ∈ (state.package context clients).nameplates ↔
      ∃ id ∈ (state.package context clients).listed,
        (state.catalogue.nodeAt id).nameplate? = some plate := by
  simp only [Package.nameplates, List.mem_filterMap, nameplate?_package]

/-- A node that has a label is in range. -/
theorem mem_ids_of_nameplate? {id : NodeId} {plate : Nameplate}
    (isPlate : (state.catalogue.nodeAt id).nameplate? = some plate) : id ∈ state.catalogue.ids := by
  rw [Catalogue.mem_ids]
  -- Out of range the table answers a node without a name.
  refine Nat.lt_of_not_le fun outside => ?_
  rw [Catalogue.nodeAt_of_ge _ outside] at isPlate
  cases isPlate

/-- A labelled type that is noted to be used is listed. -/
theorem mem_nameplates_of_noted {seed : Seed} (noted : seed ∈ state.seeds)
    (passed : seed.usage.IsPassedOn) {plate : Nameplate}
    (isPlate : (state.catalogue.nodeAt seed.type).nameplate? = some plate) :
    plate ∈ (state.package context clients).nameplates := by
  -- A seed that is passed on marks the very type that it is noted for.
  have lists : (state.package context clients).Lists seed.type :=
    lists_of_used fun _ carried => isUsed_spread noted passed .refl carried
  exact mem_nameplates_package.mpr
    ⟨seed.type, lists.mem_listed ((nameplate?_package seed.type).trans isPlate), isPlate⟩

end

/--
The models, the enums and the unions of a package are told apart by their identifiers, unless a name
that was made up for one of them is that of a declared one in the same namespace.
-/
theorem crossIds_nodup_iff {definition : Definition} {options : Options} {package : Package}
    (derived : derivePackage definition options = .ok package)
    (apart : (Context.of definition options).NamesApart) :
    (package.nameplates.map Nameplate.crossId).Nodup ↔
      ∀ made ∈ package.nameplates, made.isGeneratedName = true →
        ∀ given ∈ package.nameplates, given.isGeneratedName = false →
          made.namespace = given.namespace → made.name ≠ given.name := by
  obtain ⟨clients, run, rfl⟩ := derivePackage_ok derived
  -- What holds of every run: labels fit the nodes, and a declaration has one node.
  have labelled : Labelled (Context.of definition options) (finalState definition options) :=
    ((Labelled.robust _).stable.clients fun _ _ _ _ => trivial).ok .start run
  obtain ⟨_, consistent, _⟩ := run_consistent run
  have single (type : TypeId) (id other : NodeId)
      (isOrigin : ((finalState definition options).catalogue.nodeAt id).origin = some type)
      (isOther : ((finalState definition options).catalogue.nodeAt other).origin = some type) :
      id = other :=
    Option.some.inj ((consistent.orderly.registered type id isOrigin).symm.trans
      (consistent.orderly.registered type other isOther))
  constructor
  · intro distinct made isListed isMade given isOtherListed isGiven inside name
    obtain ⟨id, _, isPlate⟩ := mem_nameplates_package.mp isListed
    obtain ⟨other, _, isOther⟩ := mem_nameplates_package.mp isOtherListed
    -- The same name in the same namespace makes the same identifier.
    have same : made.crossId = given.crossId := by
      rw [(labelled.fits id made isPlate).crossId, (labelled.fits other given isOther).crossId,
        inside, name]
    rw [List.inj_on_of_nodup_map distinct isListed isOtherListed same, isGiven] at isMade
    cases isMade
  · intro clear
    rw [List.Nodup, List.pairwise_map, Package.nameplates, List.pairwise_filterMap]
    refine listed_nodup.pairwise_of_forall_ne fun id isListed other isOtherListed different plate
      isPlate otherPlate isOther same => different ?_
    rw [nameplate?_package] at isPlate isOther
    have plateListed := mem_nameplates_package.mpr ⟨id, isListed, isPlate⟩
    have otherPlateListed := mem_nameplates_package.mpr ⟨other, isOtherListed, isOther⟩
    obtain ⟨inside, name⟩ := labelled.name_of_crossId apart isPlate isOther same
    refine labelled.eq_of_crossId apart isPlate isOther single same ?_
    -- A made-up name and a declared one would be the same in one namespace.
    cases isMade : plate.isGeneratedName with
    | false =>
      cases isOtherMade : otherPlate.isGeneratedName with
      | false => rfl
      | true =>
        exact absurd name.symm
          (clear otherPlate otherPlateListed isOtherMade plate plateListed isMade inside.symm)
    | true =>
      cases isOtherMade : otherPlate.isGeneratedName with
      | false =>
        exact absurd name
          (clear plate plateListed isMade otherPlate otherPlateListed isOtherMade inside)
      | true => rfl

/-- A zoo that lists cats or dogs, and has a model of some name to be looked up. -/
def zoo (name : String) : Definition where
  types := #[{ shape := .model { name := some "Cat", namespaceId := some ⟨0⟩ } },
    { shape := .model { name := some "Dog", namespaceId := some ⟨0⟩ } },
    { shape := .model { name := some name, namespaceId := some ⟨0⟩ } }]
  operations := #[
    { name := "list", container := ⟨0⟩, verb := .get, path := "/pets"
      responses := [{ status := .code 200, body := some { type := ⟨0⟩ } },
        { status := .code 201, body := some { type := ⟨1⟩ } }] },
    { name := "get", container := ⟨0⟩, verb := .get, path := "/last"
      responses := [{ status := .code 200, body := some { type := ⟨2⟩ } }] }]
  containers := #[{ name := "Zoo", operations := [⟨0⟩, ⟨1⟩], service := some {} }]

/-- What is listed under a name of its own is told apart from the union of cats and dogs. -/
theorem crossIds_nodup_iff_zoo :
    ∃ package, derivePackage (zoo "Listing") {} = .ok package ∧
      (Context.of (zoo "Listing") {}).NamesApart ∧
      ⟨"ListResponse", true, "Zoo", "Zoo.ListResponse"⟩ ∈ package.nameplates ∧
      (package.nameplates.map Nameplate.crossId).Nodup := by
  have isOk : (derivePackage (zoo "Listing") {}).isOk = true := by decide +kernel
  have apart : (Context.of (zoo "Listing") {}).NamesApart := by decide +kernel
  have noted : ⟨⟨3⟩, .output, .everyone⟩ ∈ (finalState (zoo "Listing") {}).seeds := by
    decide +kernel
  have isUnion : ((finalState (zoo "Listing") {}).catalogue.nodeAt ⟨3⟩).nameplate? =
      some ⟨"ListResponse", true, "Zoo", "Zoo.ListResponse"⟩ := by
    decide +kernel
  -- But one name was made up, and nothing else goes by it.
  have only : ∀ id ∈ (finalState (zoo "Listing") {}).catalogue.ids,
      ∀ plate ∈ ((finalState (zoo "Listing") {}).catalogue.nodeAt id).nameplate?,
        plate.isGeneratedName = true ↔ plate.name = "ListResponse" := by
    decide +kernel
  cases derived : derivePackage (zoo "Listing") {} with
  | error failure => simp [derived, Except.isOk, Except.toBool] at isOk
  | ok package =>
    -- By the criterion it is enough that no given name is a name that was made up.
    have distinct := (crossIds_nodup_iff derived apart).mpr
    obtain ⟨clients, _, rfl⟩ := derivePackage_ok derived
    refine ⟨_, rfl, apart, mem_nameplates_of_noted noted Usage.isPassedOn_output isUnion,
      distinct fun made isListed isMade given isOtherListed isGiven _ same => ?_⟩
    obtain ⟨id, _, isPlate⟩ := mem_nameplates_package.mp isListed
    obtain ⟨other, _, isOther⟩ := mem_nameplates_package.mp isOtherListed
    rw [(only id (mem_ids_of_nameplate? isPlate) made isPlate).mp isMade] at same
    rw [(only other (mem_ids_of_nameplate? isOther) given isOther).mpr same.symm] at isGiven
    cases isGiven

/-- A declared name may be made up once more: only names that are made up are kept track of. -/
theorem crossIds_may_collide :
    ¬ ∀ (definition : Definition) (options : Options) (package : Package),
      derivePackage definition options = .ok package →
      (Context.of definition options).NamesApart →
        (package.nameplates.map Nameplate.crossId).Nodup := by
  intro distinct
  have isOk : (derivePackage (zoo "ListResponse") {}).isOk = true := by decide +kernel
  have apart : (Context.of (zoo "ListResponse") {}).NamesApart := by decide +kernel
  have noted : ⟨⟨3⟩, .output, .everyone⟩ ∈ (finalState (zoo "ListResponse") {}).seeds ∧
      ⟨⟨4⟩, .output ||| .json, .everyone⟩ ∈ (finalState (zoo "ListResponse") {}).seeds := by
    decide +kernel
  -- Both plates are read from the nodes at the end of the run.
  have isUnion : ((finalState (zoo "ListResponse") {}).catalogue.nodeAt ⟨3⟩).nameplate? =
      some ⟨"ListResponse", true, "Zoo", "Zoo.ListResponse"⟩ := by
    decide +kernel
  have isModel : ((finalState (zoo "ListResponse") {}).catalogue.nodeAt ⟨4⟩).nameplate? =
      some ⟨"ListResponse", false, "Zoo", "Zoo.ListResponse"⟩ := by
    decide +kernel
  cases derived : derivePackage (zoo "ListResponse") {} with
  | error failure => simp [derived, Except.isOk, Except.toBool] at isOk
  | ok package =>
    have once := distinct _ _ package derived apart
    obtain ⟨clients, _, rfl⟩ := derivePackage_ok derived
    -- The union and the model are both listed, under one identifier.
    have same := List.inj_on_of_nodup_map once
      (mem_nameplates_of_noted noted.1 Usage.isPassedOn_output isUnion)
      (mem_nameplates_of_noted noted.2 (Usage.isPassedOn_output.union _) isModel) rfl
    exact absurd same (by decide)

end Derivation

end ClientModel
