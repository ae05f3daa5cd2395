import ClientModel.Proofs.Advances
import ClientModel.Proofs.Citations
import ClientModel.Proofs.Entering
import ClientModel.Proofs.Folding
import ClientModel.Proofs.Origins

/-!
Definitions with one operation more.

Besides the operation, types and properties may be new, and new models may extend old ones. What is
old reads the same in both definitions, down to the ends of its chains: these are followed for more
steps in the longer tables, but have come to an end by then.
-/

namespace ClientModel

/-- What is found for the entries of a list alone tells what is found for all of them. -/
theorem mapM_congr_of_mem {α β : Type} {find other : α → Option β} {list : List α}
    (same : ∀ entry ∈ list, find entry = other entry) : list.mapM find = list.mapM other := by
  induction list with
  | nil => rfl
  -- Each entry is looked up by itself, and those after the first one are a list of such entries.
  | cons first rest ih =>
    rw [List.mapM_cons, List.mapM_cons, same first List.mem_cons_self,
      ih fun entry listed => same entry (List.mem_cons_of_mem _ listed)]

namespace Service

/-- What a type declares once further models extend it. -/
def Shape.withDerived (more : List TypeId) : Shape → Shape
  | .model declared => .model { declared with derived := declared.derived ++ more }
  | shape => shape

namespace Definition

/--
The second definition has one operation more than the first.

The operation comes last in its container. It may bring types and properties, and new models may
extend old ones; apart from that, all that was there is left as it is.
-/
structure AppendsOperation (definition extended : Definition) : Prop where
  types_size : definition.types.size ≤ extended.types.size
  properties_size : definition.properties.size ≤ extended.properties.size
  shapeAt : ∀ id, definition.Declares (.type id) → ∃ more : List TypeId,
    (∀ other ∈ more, ¬ definition.Declares (.type other)) ∧
      extended.shapeAt id = (definition.shapeAt id).withDerived more
  propertyAt : ∀ id, definition.Declares (.property id) →
    extended.propertyAt id = definition.propertyAt id
  operation : ∃ operation : Operation, definition.Declares (.container operation.container) ∧
    extended.operations = definition.operations.push operation ∧
    extended.containers = definition.containers.modify operation.container.index fun declared =>
      { declared with operations := declared.operations ++ [⟨definition.operations.size⟩] }
  customizations : extended.customizations = definition.customizations

variable {definition extended : Definition} {id other : TypeId}

/-! ## What is declared -/

/-- What declares a model is a type of the table. -/
theorem declares_of_model? {declared : Model} (isModel : definition.model? id = some declared) :
    definition.Declares (.type id) := by
  -- A place beyond the table reads as the unknown type, which is no model.
  by_contra outside
  rw [model?, shapeAt_of_notMem (mt mem_typeIds.mp outside)] at isModel
  cases isModel

/-- A type stands for itself or for a named model. -/
theorem declares_payloadType (there : definition.Declares (.type id)) :
    definition.Declares (.type (definition.payloadType id)) := by
  -- A type that stands for another one stands for a model with a name, and models are declared.
  by_cases same : definition.payloadType id = id
  · rwa [same]
  · have named := (foldsTo_of_payloadType rfl same).named
    rw [isNamedModel, Option.any_eq_true] at named
    obtain ⟨declared, isModel, -⟩ := named
    exact declares_of_model? isModel

namespace IsClosed

variable (closed : definition.IsClosed)
include closed

/-- Whatever the shape of a type refers to is declared. -/
theorem shapeAt (there : definition.Declares (.type id)) :
    definition.DeclaresAll (definition.shapeAt id).cites :=
  closed.typeAt there

/-- Whatever a model refers to is declared. -/
theorem model? {declared : Model} (isModel : definition.model? id = some declared) :
    definition.DeclaresAll (Shape.model declared).cites :=
  Derivation.shapeAt_of_model? isModel ▸ closed.shapeAt (declares_of_model? isModel)

/-- The properties of a model are declared. -/
theorem property {declared : Model} (isModel : definition.model? id = some declared)
    {property : PropertyId} (member : property ∈ declared.properties) :
    definition.Declares (.property property) :=
  closed.model? isModel _ (by simp [Shape.cites, member])

/-- The base of a model is declared. -/
theorem base {declared : Model} (isModel : definition.model? id = some declared)
    (isBase : declared.base = some other) : definition.Declares (.type other) :=
  closed.model? isModel _ (by simp [Shape.cites, isBase])

/-- The type of a property is declared. -/
theorem propertyType {property : PropertyId} (there : definition.Declares (.property property)) :
    definition.Declares (.type (definition.propertyAt property).type) :=
  closed.propertyAt there _ (by simp [PropertyDecl.cites])

/-- What a property was copied from is declared. -/
theorem source {property source : PropertyId} (there : definition.Declares (.property property))
    (isSource : (definition.propertyAt property).source = some source) :
    definition.Declares (.property source) :=
  closed.propertyAt there _ (by simp [PropertyDecl.cites, isSource])

/-- The property that was declared first is declared. -/
theorem rootSource {property : PropertyId} (there : definition.Declares (.property property)) :
    definition.Declares (.property (definition.rootSource property)) := by
  unfold Definition.rootSource
  generalize definition.properties.size = steps
  -- By induction on the steps, each of which goes to what a property was copied from.
  induction steps generalizing property with
  | zero => exact there
  | succ steps ih =>
    unfold rootSourceWithin
    split
    · rename_i source isSource
      split
      · exact there
      · exact ih (closed.source there isSource)
    · exact there

/-- All bases of a model are declared. -/
theorem lineageWithin (steps : Nat) (met : List TypeId) (there : definition.Declares (.type id)) :
    ∀ ancestor ∈ definition.lineageWithin steps met id, definition.Declares (.type ancestor) := by
  induction steps generalizing met id with
  | zero => exact fun ancestor listed => absurd listed List.not_mem_nil
  | succ steps ih =>
    -- The first of the lineage is the type itself, and the others are the lineage of its base.
    intro ancestor listed
    unfold Definition.lineageWithin at listed
    split at listed
    · cases listed
    · rcases List.mem_cons.mp listed with rfl | further
      · exact there
      · cases isBase : (definition.model? id).bind Model.base with
        | none => simp [isBase] at further
        | some base =>
          obtain ⟨declared, isModel, isExtended⟩ := Option.bind_eq_some_iff.mp isBase
          rw [isBase] at further
          exact ih (id :: met) (closed.base isModel isExtended) ancestor further

/-- All properties of a model, inherited ones included, are declared. -/
theorem allProperties {property : PropertyId} (member : property ∈ definition.allProperties id) :
    definition.Declares (.property property) := by
  -- An inherited property is one that some model of the lineage declares itself.
  obtain ⟨declared, listed, member⟩ := List.mem_flatMap.mp member
  obtain ⟨ancestor, -, isModel⟩ := List.mem_filterMap.mp listed
  exact closed.property isModel member

end IsClosed

namespace AppendsOperation

variable (appends : definition.AppendsOperation extended)
include appends

/-! ## Containers and operations -/

/-- Of a container at most the list of its operations changes. -/
theorem containerAt_eq (id : ContainerId) : ∃ listed : List OperationId,
    extended.containerAt id = { definition.containerAt id with operations := listed } := by
  -- The container is the one that the operation was put into, or it is untouched.
  obtain ⟨operation, -, -, same⟩ := appends.operation
  rw [containerAt, same, getD_modify]
  split
  · exact ⟨_, rfl⟩
  · exact ⟨_, rfl⟩

/-- There are as many containers as before. -/
theorem containers_size_eq : extended.containers.size = definition.containers.size := by
  -- A container is changed in its place, and none is added.
  obtain ⟨operation, -, -, same⟩ := appends.operation
  rw [same, Array.size_modify]

/-- The same containers are around a container. -/
theorem enclosing_eq (id : ContainerId) : extended.enclosing id = definition.enclosing id := by
  have within (steps : Nat) (id : ContainerId) :
      extended.enclosingWithin steps id = definition.enclosingWithin steps id := by
    induction steps generalizing id with
    | zero => rfl
    | succ steps ih =>
      -- What is around a container does not depend on the operations that it lists.
      obtain ⟨listed, same⟩ := appends.containerAt_eq id
      simp only [enclosingWithin, same, ih]
  rw [enclosing, appends.containers_size_eq, within, enclosing]

/-- A container belongs to the same service. -/
theorem service?_eq (id : ContainerId) : extended.service? id = definition.service? id := by
  have service (id : ContainerId) :
      (extended.containerAt id).service = (definition.containerAt id).service := by
    obtain ⟨listed, same⟩ := appends.containerAt_eq id
    rw [same]
  -- A service is looked for outwards, and nothing outwards has changed.
  simp only [service?, serviceRoot?, appends.enclosing_eq, service]

/-- The operations of before are there still. -/
theorem hasOperation {operation : OperationId} (has : definition.HasOperation operation) :
    extended.HasOperation operation := by
  -- One operation was pushed, so the table is longer by one.
  obtain ⟨declared, -, same, -⟩ := appends.operation
  rw [HasOperation, same, Array.size_push]
  exact Nat.lt_succ_of_lt has

/-- The new operation comes after all that were there. -/
theorem operationAt_eq {operation : OperationId} (has : definition.HasOperation operation) :
    extended.operationAt operation = definition.operationAt operation := by
  -- The place of the new operation is the old size, which no identifier of before has.
  obtain ⟨declared, -, same, -⟩ := appends.operation
  have apart : operation.index ≠ definition.operations.size := Nat.ne_of_lt has
  rw [operationAt, same, getD_push, if_neg apart, operationAt]

/-! ## Types -/

/-- A model has the same properties and the same base; only new models may extend it. -/
theorem model?_eq (there : definition.Declares (.type id)) : ∃ more : List TypeId,
    (∀ other ∈ more, ¬ definition.Declares (.type other)) ∧
      extended.model? id = (definition.model? id).map fun declared =>
        { declared with derived := declared.derived ++ more } := by
  obtain ⟨more, new, same⟩ := appends.shapeAt id there
  refine ⟨more, new, ?_⟩
  -- A model is read off the shape, which changes in the list of what extends it alone.
  unfold model?
  rw [same]
  cases shape : definition.shapeAt id <;> rfl

/-- Only models are extended. -/
theorem shapeAt_eq (there : definition.Declares (.type id)) (plain : definition.model? id = none) :
    extended.shapeAt id = definition.shapeAt id := by
  obtain ⟨more, -, same⟩ := appends.shapeAt id there
  rw [same]
  -- By cases of the shape: a model is the one thing that may have changed.
  unfold model? at plain
  cases shape : definition.shapeAt id with
  | model => simp [shape] at plain
  | _ => rfl

/-- The same types stand for no value at all. -/
theorem isVoidLike_eq (there : definition.Declares (.type id)) :
    extended.isVoidLike id = definition.isVoidLike id := by
  obtain ⟨more, -, same⟩ := appends.shapeAt id there
  -- Whether a type is void is told by its shape, other than by what extends it.
  unfold isVoidLike
  rw [same]
  cases shape : definition.shapeAt id <;> rfl

/-- The same types are null. -/
theorem isNull_eq (there : definition.Declares (.type id)) :
    extended.isNull id = definition.isNull id := by
  obtain ⟨more, -, same⟩ := appends.shapeAt id there
  -- Null is no model, and what is a model is not null.
  unfold isNull
  rw [same]
  cases shape : definition.shapeAt id <;> rfl

/-- The same types are models with a name. -/
theorem isNamedModel_eq (there : definition.Declares (.type id)) :
    extended.isNamedModel id = definition.isNamedModel id := by
  obtain ⟨more, -, same⟩ := appends.model?_eq there
  -- A model keeps its name when it is extended.
  unfold isNamedModel
  rw [same]
  cases definition.model? id <;> rfl

/-! ## Chains -/

variable (closed : definition.IsClosed)
include closed

/-- With the same number of steps, a property comes from the same one. -/
theorem rootSourceWithin_eq (steps : Nat) {property : PropertyId}
    (there : definition.Declares (.property property)) :
    extended.rootSourceWithin steps property = definition.rootSourceWithin steps property := by
  -- By induction on the steps: each goes to a property that is declared.
  induction steps generalizing property with
  | zero => rfl
  | succ steps ih =>
    unfold rootSourceWithin
    rw [appends.propertyAt property there]
    cases isSource : (definition.propertyAt property).source with
    | none => rfl
    | some source => simp only [ih (closed.source there isSource)]

/-- With the same number of steps, a scalar comes from the same standard one. -/
theorem standardScalarWithin_eq (steps : Nat) (there : definition.Declares (.type id)) :
    extended.standardScalarWithin steps id = definition.standardScalarWithin steps id := by
  induction steps generalizing id with
  | zero => rfl
  | succ steps ih =>
    obtain ⟨more, -, same⟩ := appends.shapeAt id there
    unfold standardScalarWithin
    rw [same]
    -- Only a scalar has a base to go on with, and it is no model.
    cases shape : definition.shapeAt id with
    | scalar scalar =>
      cases isBase : scalar.base with
      | none => simp only [Shape.withDerived, isBase]
      | some base =>
        have inside : definition.Declares (.type base) :=
          closed.shapeAt there _ (by simp [shape, Shape.cites, isBase])
        simp only [Shape.withDerived, isBase, ih inside]
    | _ => rfl

/-- With the same number of steps, a model has the same lineage. -/
theorem lineageWithin_eq (steps : Nat) (met : List TypeId)
    (there : definition.Declares (.type id)) :
    extended.lineageWithin steps met id = definition.lineageWithin steps met id := by
  induction steps generalizing met id with
  | zero => rfl
  | succ steps ih =>
    obtain ⟨more, -, same⟩ := appends.model?_eq there
    -- The base is no part of what extends a model.
    have base : (extended.model? id).bind Model.base = (definition.model? id).bind Model.base := by
      rw [same, Option.bind_map]
      rfl
    unfold lineageWithin
    rw [base]
    cases isBase : (definition.model? id).bind Model.base with
    | none => rfl
    | some base =>
      obtain ⟨declared, isModel, isBase⟩ := Option.bind_eq_some_iff.mp isBase
      simp only [ih (id :: met) (closed.base isModel isBase)]

/-- Where no property is a copy of itself in the end, more steps come to the same source. -/
theorem rootSource_eq (copies : ∀ id, ¬ Relation.TransGen definition.IsCopyOf id id)
    {property : PropertyId} (there : definition.Declares (.property property)) :
    extended.rootSource property = definition.rootSource property := by
  -- The chain of copies ends within the first table, so that more steps change nothing.
  obtain ⟨links, last, ends, bound, -⟩ :=
    exists_endsAfter (fun _ _ => mem_propertyIds_of_source?) copies property
  rw [length_propertyIds] at bound
  have apart (id : PropertyId) : definition.source? id ≠ some id :=
    fun same => copies id (.single same)
  rw [rootSource, appends.rootSourceWithin_eq closed _ there, rootSource,
    rootSourceWithin_of_endsAfter apart ends (bound.trans appends.properties_size),
    rootSourceWithin_of_endsAfter apart ends bound]

/-- Where no scalar is its own base in the end, more steps come to the same one. -/
theorem standardScalar?_eq (bases : ∀ id, ¬ Relation.TransGen definition.Extends id id)
    (there : definition.Declares (.type id)) :
    extended.standardScalar? id = definition.standardScalar? id := by
  obtain ⟨links, last, ends, -, fewer⟩ :=
    exists_endsAfter (fun _ _ => mem_typeIds_of_scalarBase?) bases id
  rw [length_typeIds] at fewer
  rw [standardScalar?, appends.standardScalarWithin_eq closed _ there, standardScalar?]
  by_cases isScalar : ∃ scalar, definition.shapeAt last = .scalar scalar
  · obtain ⟨scalar, shape⟩ := isScalar
    -- A scalar is in the table, so that there is a step for it.
    have listed : last ∈ definition.typeIds := by
      by_contra outside
      rw [shapeAt_of_notMem outside] at shape
      cases shape
    have enough := fewer listed
    rw [standardScalarWithin_of_scalar ends shape (Nat.lt_of_lt_of_le enough appends.types_size),
      standardScalarWithin_of_scalar ends shape enough]
  · have other (scalar : Scalar) : definition.shapeAt last ≠ .scalar scalar :=
      fun shape => isScalar ⟨scalar, shape⟩
    rw [standardScalarWithin_of_other ends other, standardScalarWithin_of_other ends other]

/-- A model has the same lineage. -/
theorem lineage_eq (there : definition.Declares (.type id)) :
    extended.lineage id = definition.lineage id := by
  have size := appends.types_size
  -- A lineage is no longer than the first table, so that further steps add nothing.
  have exhausted (steps : Nat) (met : List TypeId) (id : TypeId) :
      definition.lineageOr (fun _ _ => []) steps met id =
        definition.lineageWithin steps met id := by
    induction steps generalizing met id with
    | zero => rfl
    | succ steps ih =>
      rw [lineageOr, lineageWithin]
      cases (definition.model? id).bind Model.base with
      | none => rfl
      | some base => simp only [ih]
  rw [lineage, appends.lineageWithin_eq closed _ _ there, lineage, ← exhausted]
  exact lineageOr_eq_lineageWithin _ _ _ [] id (List.nil_subset _) List.nodup_nil
    (by simp; omega) (by simp)

/-! ## Payloads -/

/-- A model has the same properties, inherited ones included. -/
theorem allProperties_eq (there : definition.Declares (.type id)) :
    extended.allProperties id = definition.allProperties id := by
  -- An ancestor that is no longer declared is no model, and has no properties to tell of.
  have properties (ancestor : TypeId) (listed : ancestor ∈ (definition.lineage id).reverse) :
      (extended.model? ancestor).map Model.properties =
        (definition.model? ancestor).map Model.properties := by
    have inside := closed.lineageWithin _ _ there ancestor (List.mem_reverse.mp listed)
    obtain ⟨more, -, same⟩ := appends.model?_eq inside
    rw [same, Option.map_map]
    rfl
  unfold allProperties
  rw [appends.lineage_eq closed there, List.flatMap_def, List.flatMap_def, List.map_filterMap,
    List.map_filterMap, List.filterMap_congr properties]

/-- The payload of a model has the same properties. -/
theorem payloadProperties_eq (there : definition.Declares (.type id)) :
    extended.payloadProperties id = definition.payloadProperties id := by
  unfold payloadProperties
  rw [appends.allProperties_eq closed there]
  -- Each of these properties is declared, and still belongs to the payload or not.
  refine List.filter_congr fun property member => ?_
  rw [appends.propertyAt property (closed.allProperties member)]

variable (copies : ∀ id, ¬ Relation.TransGen definition.IsCopyOf id id)
include copies

/-- A property was copied from the same one of a model with a name. -/
theorem copiedFrom?_eq {property : PropertyId} (there : definition.Declares (.property property)) :
    extended.copiedFrom? property = definition.copiedFrom? property := by
  have root := closed.rootSource there
  unfold copiedFrom?
  rw [appends.rootSource_eq closed copies there, appends.propertyAt property there,
    appends.propertyAt _ root]
  -- The property declared first, and the model that it belongs to, are what they were.
  refine Option.bind_congr fun source _ => Option.bind_congr fun owner isOwner => ?_
  rw [appends.isNamedModel_eq (closed.propertyAt root _ (by simp [PropertyDecl.cites, isOwner]))]

/-- The properties of a payload were copied from the same model. -/
theorem commonOwner?_eq {properties : List PropertyId}
    (there : ∀ property ∈ properties, definition.Declares (.property property)) :
    extended.commonOwner? properties = definition.commonOwner? properties := by
  unfold commonOwner?
  -- Each of them is looked at by itself.
  rw [mapM_congr_of_mem fun property listed =>
    appends.copiedFrom?_eq closed copies (there property listed)]

/-- An anonymous model stands for the same named one. -/
theorem payloadType_eq (there : definition.Declares (.type id)) :
    extended.payloadType id = definition.payloadType id := by
  obtain ⟨more, -, same⟩ := appends.model?_eq there
  unfold payloadType
  rw [same]
  cases isModel : definition.model? id with
  | none => rfl
  | some declared =>
    -- Members of a model that was there are there, so they read the same and have the same payload.
    have member (property : PropertyId) (listed : property ∈ declared.properties) :
        extended.propertyAt property = definition.propertyAt property :=
      appends.propertyAt property (closed.property isModel listed)
    have payload : (declared.properties.filter fun property =>
        !(extended.propertyAt property).isMetadata) =
          declared.properties.filter fun property =>
            !(definition.propertyAt property).isMetadata :=
      List.filter_congr fun property listed => by rw [member property listed]
    simp only [Option.map_some, payload]
    rw [appends.commonOwner?_eq closed copies fun property listed =>
      closed.property isModel (List.mem_filter.mp listed).1]
    -- The model that is found is declared, and has the same payload.
    cases isOwner : definition.commonOwner? (declared.properties.filter fun property =>
        !(definition.propertyAt property).isMetadata) with
    | none => rfl
    | some owner =>
      obtain ⟨some, each⟩ := commonOwner?_eq_some isOwner
      obtain ⟨first, listed⟩ := List.exists_mem_of_ne_nil _ some
      have named := (copiedFrom?_eq_some (each first listed)).2.2
      rw [isNamedModel, Option.any_eq_true] at named
      obtain ⟨found, isFound, -⟩ := named
      simp only [appends.payloadProperties_eq closed (declares_of_model? isFound)]

end AppendsOperation

end Definition

end Service

namespace Derivation

open Service (Definition Model Shape Union Variant)

/--
The second run is on a definition with one operation more.

All that the first definition cites is declared in it, and so is what was chosen for its clients. No
chain of it comes back to itself.
-/
structure Context.ExtendsTo (context larger : Context) : Prop where
  appends : context.definition.AppendsOperation larger.definition
  closed : context.definition.IsClosed
  copies : ∀ id, ¬ Relation.TransGen context.definition.IsCopyOf id id
  bases : ∀ id, ¬ Relation.TransGen context.definition.Extends id id
  options : larger.options = context.options
  choices : larger.choices = context.choices
  roots : larger.roots = context.roots
  chosen : ∀ container, ∀ id ∈ context.chosenFor container,
    context.definition.Declares (.property id)

namespace Context.ExtendsTo

variable {context larger : Context} {id other : TypeId} (extends' : context.ExtendsTo larger)
include extends'

/-- In the larger definition a type stands for the same payload. -/
theorem payloadType_eq (there : context.definition.Declares (.type id)) :
    larger.definition.payloadType id = context.definition.payloadType id :=
  extends'.appends.payloadType_eq extends'.closed extends'.copies there

/-- In the larger definition a property has the same type. -/
theorem propertyType_eq {property : PropertyId}
    (there : context.definition.Declares (.property property)) :
    larger.propertyType property = context.propertyType property := by
  rw [Context.propertyType, extends'.appends.propertyAt property there, Context.propertyType]

/-! ## References -/

/-- In the larger definition a model has the same members. -/
theorem memberIds_eq {declared : Model} (isModel : context.definition.model? id = some declared)
    (more : List TypeId) :
    larger.memberIds { declared with derived := declared.derived ++ more } =
      context.memberIds declared := by
  -- Whether a property is a member is told by its type, which is still void or not.
  refine List.filter_congr fun property member => ?_
  have there := extends'.closed.property isModel member
  rw [extends'.appends.propertyAt property there,
    extends'.appends.isVoidLike_eq (extends'.closed.propertyType there)]

/-- In the larger definition a model has the same base. -/
theorem baseType?_eq {declared : Model} (isModel : context.definition.model? id = some declared)
    (more : List TypeId) :
    larger.baseType? { declared with derived := declared.derived ++ more } =
      context.baseType? declared := by
  unfold Context.baseType?
  cases isBase : declared.base with
  | none => rfl
  | some base =>
    -- A record stays one, and so does what is none.
    obtain ⟨others, -, same⟩ := extends'.appends.shapeAt base (extends'.closed.base isModel isBase)
    rw [Option.filter_some, Option.filter_some]
    refine if_congr (Iff.of_eq (congrArg (· = true) ?_)) rfl rfl
    rw [same]
    cases context.definition.shapeAt base <;> rfl

/-- In the larger definition a model inherits the same additional properties. -/
theorem inheritedType?_eq {declared : Model}
    (isModel : context.definition.model? id = some declared) (more : List TypeId) :
    larger.inheritedType? { declared with derived := declared.derived ++ more } =
      context.inheritedType? declared := by
  -- A base other than a record has no additional properties to hand on, extended or not.
  refine Option.bind_congr fun base isBase => ?_
  obtain ⟨others, -, same⟩ := extends'.appends.shapeAt base (extends'.closed.base isModel isBase)
  rw [same]
  cases context.definition.shapeAt base <;> rfl

section

variable {union : Union} (shape : context.definition.shapeAt id = .union union)
  (there : context.definition.Declares (.type id))
include shape there

omit extends' in
/-- The variants of a union are declared. -/
theorem declares_variant (closed : context.definition.IsClosed) {variant : Variant}
    (listed : variant ∈ union.variants) : context.definition.Declares (.type variant.type) :=
  closed.shapeAt there _ (by simp only [shape, Shape.cites, List.mem_append, List.mem_map]
                             exact Or.inr ⟨variant, listed, rfl⟩)

/-- In the larger definition a union has the same variants besides null. -/
theorem valuedVariants_eq : larger.valuedVariants union = context.valuedVariants union := by
  -- Whether a variant is null is told by its shape, and shapes were not changed.
  refine List.filter_congr fun variant listed => ?_
  rw [extends'.appends.isNull_eq (declares_variant shape there extends'.closed listed)]

/-- In the larger definition the same unions become enums. -/
theorem flattening?_eq : larger.flattening? union = context.flattening? union := by
  have valued (variant : Variant) (listed : variant ∈ context.valuedVariants union) :
      context.definition.Declares (.type variant.type) :=
    declares_variant shape there extends'.closed (List.mem_filter.mp listed).1
  unfold Context.flattening? Context.flattened?
  rw [extends'.options, extends'.valuedVariants_eq shape there, mapM_congr_of_mem]
  -- Neither texts nor scalars are extended.
  intro variant listed
  obtain ⟨more, -, same⟩ := extends'.appends.shapeAt variant.type (valued variant listed)
  rw [same, extends'.appends.standardScalar?_eq extends'.closed extends'.bases
    (valued variant listed)]
  cases context.definition.shapeAt variant.type <;> rfl

end

/-- The text to which a subtype fixes a discriminator. -/
theorem fixedText?_eq (there : context.definition.Declares (.type id)) (name : String) :
    larger.fixedText? id name = context.fixedText? id name := by
  obtain ⟨more, -, same⟩ :=
    extends'.appends.model?_eq (Definition.declares_payloadType there)
  unfold Context.fixedText?
  rw [extends'.payloadType_eq there, same]
  cases isModel : context.definition.model? (context.definition.payloadType id) with
  | none => rfl
  | some declared =>
    have member (property : PropertyId) (listed : property ∈ context.memberIds declared) :
        context.definition.Declares (.property property) :=
      extends'.closed.property isModel (List.mem_filter.mp listed).1
    -- A discriminator is looked for among members, and these are the same.
    have named : larger.memberNamed? { declared with derived := declared.derived ++ more } name =
        context.memberNamed? declared name := by
      unfold Context.memberNamed?
      rw [extends'.memberIds_eq isModel more, ← List.head?_filter, ← List.head?_filter,
        List.filter_congr fun property listed => ?_]
      rw [extends'.appends.propertyAt property (member property listed)]
    simp only [Option.map_some, Option.bind_eq_bind, Option.bind_some, named]
    refine Option.bind_congr fun property found => ?_
    have there := member property (List.mem_of_find?_eq_some found)
    have type := extends'.closed.propertyType there
    -- Only models are extended, and these stand for no text.
    obtain ⟨others, -, sameShape⟩ :=
      extends'.appends.shapeAt _ (Definition.declares_payloadType type)
    rw [extends'.propertyType_eq there, Context.propertyType, extends'.payloadType_eq type,
      sameShape]
    cases context.definition.shapeAt _ <;> rfl

end Context.ExtendsTo

end Derivation

end ClientModel
