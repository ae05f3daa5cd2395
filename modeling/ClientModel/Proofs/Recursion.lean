import ClientModel.Proofs.Folding
import ClientModel.Proofs.Serving
import ClientModel.Proofs.Totality

/-!
Recursive declarations.

Whether a run gets through depends on which type of a cycle it meets first: a model or a union has a
node when the way comes back to it, but an array, a record or a scalar does not.
-/

namespace ClientModel

open Service (Definition)

namespace Derivation

variable {α β : Type} {context : Context}

/-! ## Services over the same types -/

/-- Whether types come back to themselves is told by types, properties and options. -/
theorem isSafe_congr {left right : Definition} {options : Options}
    (types : left.types = right.types) (properties : left.properties = right.properties)
    (safe : (Context.of left options).IsSafe) : (Context.of right options).IsSafe := by
  intro id cyclic
  -- What leads where is told by types, properties and options alone.
  have leads : (Context.of left options).LeadsTo = (Context.of right options).LeadsTo :=
    leadsTo_congr types properties rfl rfl rfl
  rw [← leads] at cyclic
  exact (congrFun (isComposite_congr types) id).symm.trans (safe id cyclic)

/-- Whether all searches end is told by the types and the properties alone. -/
theorem searchable_congr {left right : Definition} (types : left.types = right.types)
    (properties : left.properties = right.properties) (searchable : Searchable left) :
    Searchable right := by
  -- Both kinds of search are told by tables that the definitions have in common.
  rw [searchable_iff] at searchable ⊢
  rwa [encoding?_congr types, monitor?_congr types properties] at searchable

/--
Every service over some types has a package just if only models and unions come back to themselves
and all searches end.

A type of another sort that comes back to itself is noted last, and fails the run of a service that
meets it first. The walk from a scalar to its nearest encoding never ends if it only passes scalars
without one until it comes back to itself, and neither does the search for a status in the answer of
a polling operation if it comes back to a union that it is looking into.
-/
theorem every_service_isOk_iff {definition : Definition} {options : Options}
    (placed : definition.MembersPlaced) :
    (∀ other : Definition, other.types = definition.types →
        other.properties = definition.properties →
          ∃ package, derivePackage other options = .ok package) ↔
      (Context.of definition options).IsSafe ∧ Searchable definition := by
  constructor
  · intro succeeds
    -- Whatever stops a run stops that of a service which begins with it, over the same types.
    have never (operations : List Service.Operation)
        (fails : ∃ failure, derivePackage (definition.serving operations) options =
          .error failure) : False := by
      obtain ⟨package, isOk⟩ := succeeds (definition.serving operations) rfl rfl
      obtain ⟨failure, isError⟩ := fails
      rw [isOk] at isError
      cases isError
    refine ⟨fun id cyclic => ?_, searchable_iff.mpr ⟨fun id => ?_, fun id => ?_⟩⟩
    · -- A cycle of plain types fails where the type is handed out, and so does an encoding without
      -- end.
      change definition.isComposite id = true
      by_contra plain
      have types : (definition.handingOut id).types = definition.types := rfl
      have properties : (definition.handingOut id).properties = definition.properties := rfl
      have leads : (Context.of (definition.handingOut id) options).LeadsTo =
          (Context.of definition options).LeadsTo := leadsTo_congr types properties rfl rfl rfl
      rw [← leads] at cyclic
      exact never _ (handingOut_fails_of_cycle placed cyclic (by simpa using plain))
    · cases walk : definition.encoding? id with
      | ok encode => exact ⟨encode, rfl⟩
      | error type => exact (never _ (handingOut_fails_of_encoding walk)).elim
    · cases search : monitor? definition id with
      | ok found => exact ⟨found, rfl⟩
      | error type => exact (never _ (pollingFor_fails search)).elim
  · rintro ⟨safe, searchable⟩ other types properties
    exact derivePackage_isOk (membersPlaced_congr types.symm placed)
      (isSafe_congr types.symm properties.symm safe)
      (searchable_congr types.symm properties.symm searchable)

/-- A service that hands out a list of pets, each of which has a list of its children. -/
def petstore : Definition where
  types := #[
    { shape := .model {
        name := some "Pet"
        namespaceId := some ⟨0⟩
        properties := [⟨0⟩, ⟨1⟩] } },
    { shape := .array ⟨0⟩ },
    { shape := .enumeration { name := "Species", namespaceId := some ⟨0⟩, members := [⟨3⟩] } },
    { shape := .member { name := "cat", parent := ⟨2⟩ } }]
  properties := #[
    { name := "children", type := ⟨1⟩, model := some ⟨0⟩ },
    { name := "species", type := ⟨2⟩, model := some ⟨0⟩ }]
  operations := #[{
    name := "list"
    container := ⟨0⟩
    verb := .get
    path := "/pets"
    responses := [{ status := .code 200, body := some { type := ⟨1⟩ } }] }]
  containers := #[{ name := "Petstore", operations := [⟨0⟩], service := some {} }]

/-- The only member in the service is listed once, in the only enum. -/
theorem petstore_membersPlaced : petstore.MembersPlaced := by
  decide

/-- Every cycle of references passes through a model or a union. -/
def Context.IsGuarded (context : Context) : Prop :=
  ∀ id, ¬ Relation.TransGen (fun first next => context.LeadsTo first next ∧
    context.definition.isComposite first = false) id id

/-- No type stands for one that is neither a model nor a union, itself apart. -/
theorem payloadType_of_plain {id : TypeId}
    (plain : context.definition.isComposite (context.definition.payloadType id) = false) :
    context.definition.payloadType id = id := by
  -- A type that stands for another one is folded to it, and only models are folded.
  by_contra other
  have named := (Definition.foldsTo_of_payloadType rfl other).named
  rw [Definition.isNamedModel, Definition.model?_of_plain plain] at named
  cases named

/-- It makes no difference whether the types that stand for others are left out of the cycles. -/
theorem isGuarded_iff :
    context.IsGuarded ↔ ∀ id, ¬ Relation.TransGen (fun first next =>
      next ∈ context.references first ∧ context.definition.isComposite first = false) id id := by
  have step {first next : TypeId} (plain : context.definition.isComposite next = false) :
      context.LeadsTo first next ↔ next ∈ context.references first := by
    constructor
    · rintro ⟨reference, referred, rfl⟩
      rwa [payloadType_of_plain plain]
    · have noModel := Definition.model?_of_plain plain
      exact fun referred => ⟨next, referred, Context.payloadType_eq noModel⟩
  -- The end of a step on a cycle is the start of another one, and so no model or union.
  refine forall_congr' fun id => not_congr ⟨?_, ?_⟩
  · exact Service.cycle_of_turns fun _ _ _ leads further =>
      ⟨(step further.2).mp leads.1, leads.2⟩
  · exact Service.cycle_of_turns fun _ _ _ refers further =>
      ⟨(step further.2).mpr refers.1, refers.2⟩

/-- Every cycle passes through a model or a union if all other types refer to earlier ones only. -/
theorem isGuarded_of_earlier
    (earlier : ∀ id ∈ context.definition.typeIds, context.definition.isComposite id = false →
      ∀ reference ∈ context.references id, reference.index < id.index) : context.IsGuarded := by
  -- A type out of range refers to nothing, and so is on no cycle either.
  refine isGuarded_iff.mpr (Service.acyclic_of_falls TypeId.index fun id reference refers => ?_)
  by_cases inside : id ∈ context.definition.typeIds
  · exact earlier id inside refers.2 reference refers.1
  · have nowhere := refers.1
    rw [Context.references, Definition.shapeAt_of_notMem inside] at nowhere
    cases nowhere

/-- Nothing comes back to itself if all types lead to earlier ones only. -/
theorem isSafe_of_earlier
    (earlier : ∀ id ∈ context.definition.typeIds, ∀ reference ∈ context.references id,
      (context.definition.payloadType reference).index < id.index) : context.IsSafe := by
  refine fun id cyclic => absurd cyclic (Service.acyclic_of_falls TypeId.index ?_ id)
  rintro id next ⟨reference, referred, rfl⟩
  -- Out of range a type refers to nothing.
  by_cases inside : id ∈ context.definition.typeIds
  · exact earlier id inside reference referred
  · rw [Context.references, Definition.shapeAt_of_notMem inside] at referred
    cases referred

/-- In the service only the pet is on a cycle of types, which is a model. -/
theorem petstore_isGuarded : (Context.of petstore {}).IsGuarded :=
  isGuarded_of_earlier (by decide)

/-- The list of pets is noted last, when the way through a pet has noted another node for it. -/
theorem petstore_fails : petstore.MembersPlaced ∧ (Context.of petstore {}).IsGuarded ∧
    derivePackage petstore {} = .error (.violation (.projectedTwice ⟨1⟩ ⟨1⟩ ⟨4⟩)) := by
  refine ⟨petstore_membersPlaced, petstore_isGuarded, ?_⟩
  -- The run is evaluated up to its failure.
  have failure : (match derivePackage petstore {} with
      | .error failure => some failure
      | .ok _ => none) = some (.violation (.projectedTwice ⟨1⟩ ⟨1⟩ ⟨4⟩)) := by
    decide +kernel
  cases derived : derivePackage petstore {} with
  | ok package =>
    rw [derived] at failure
    cases failure
  | error cause =>
    rw [derived] at failure
    cases failure
    rfl

/-- For the petstore the two sides are equivalent, and both of them fail. -/
theorem every_service_isOk_iff_petstore : petstore.MembersPlaced ∧
    ((∀ other : Definition, other.types = petstore.types →
        other.properties = petstore.properties →
          ∃ package, derivePackage other {} = .ok package) ↔
      (Context.of petstore {}).IsSafe ∧ Searchable petstore) :=
  ⟨petstore_membersPlaced, every_service_isOk_iff petstore_membersPlaced⟩

end Derivation

end ClientModel
