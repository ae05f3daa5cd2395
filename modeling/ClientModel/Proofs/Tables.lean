import ClientModel.Derivation.StatusMonitor
import ClientModel.Proofs.References

/-!
What is told by the types and properties of a definition alone.

Operations, containers and customizations have no say in what a type leads to.
-/

namespace ClientModel.Derivation

open Service (Definition)

variable {left right : Definition} (types : left.types = right.types)
  (properties : left.properties = right.properties)

section

include types

/-- Shapes are read off the types. -/
theorem shapeAt_congr : left.shapeAt = right.shapeAt := by
  funext id
  simp only [Definition.shapeAt, Definition.typeAt, types]

/-- Models are read off the types. -/
theorem model?_congr : left.model? = right.model? := by
  funext id
  simp only [Definition.model?, shapeAt_congr types]

/-- Standard scalars are read off the types. -/
theorem standardScalar?_congr : left.standardScalar? = right.standardScalar? := by
  -- By induction on the steps, since one step looks at shapes alone.
  have within (steps : Nat) (id : TypeId) :
      left.standardScalarWithin steps id = right.standardScalarWithin steps id := by
    induction steps generalizing id with
    | zero => rfl
    | succ steps ih => simp only [Definition.standardScalarWithin, shapeAt_congr types, ih]
  funext id
  simp only [Definition.standardScalar?, types, within]

/-- Encodings are read off the types. -/
theorem encoding?_congr : left.encoding? = right.encoding? := by
  -- By induction on the steps, since one step looks at shapes alone.
  have within (steps : Nat) (id : TypeId) :
      left.encodingWithin steps id = right.encodingWithin steps id := by
    induction steps generalizing id with
    | zero => rfl
    | succ steps ih => simp only [Definition.encodingWithin, shapeAt_congr types, ih]
  funext id
  simp only [Definition.encoding?, types, within]

/-- Lineages are read off the types. -/
theorem lineage_congr : left.lineage = right.lineage := by
  -- By induction on the steps, since one step looks at models alone.
  have within (steps : Nat) (met : List TypeId) (id : TypeId) :
      left.lineageWithin steps met id = right.lineageWithin steps met id := by
    induction steps generalizing met id with
    | zero => rfl
    | succ steps ih => simp only [Definition.lineageWithin, model?_congr types, ih]
  funext id
  simp only [Definition.lineage, types, within]

/-- Composites are told by the types. -/
theorem isComposite_congr : left.isComposite = right.isComposite := by
  funext id
  simp only [Definition.isComposite, shapeAt_congr types]

/-- Where members are listed is told by the types alone. -/
theorem membersPlaced_congr (placed : left.MembersPlaced) : right.MembersPlaced := by
  -- Members are listed in models, and models are shapes.
  have shapes := shapeAt_congr types
  refine ⟨?_, ?_, ?_⟩
  · -- Each part speaks of shapes only.
    rw [← shapes]
    exact placed.listed
  · rw [← shapes]
    exact placed.own
  · rw [← shapes]
    exact placed.once

end

section

include properties

/-- Properties are read off the table of properties. -/
theorem propertyAt_congr : left.propertyAt = right.propertyAt := by
  funext id
  simp only [Definition.propertyAt, properties]

/-- The source of a property is read off the table of properties. -/
theorem rootSource_congr : left.rootSource = right.rootSource := by
  -- By induction on the steps, since one step looks at a property alone.
  have within (steps : Nat) (id : PropertyId) :
      left.rootSourceWithin steps id = right.rootSourceWithin steps id := by
    induction steps generalizing id with
    | zero => rfl
    | succ steps ih => simp only [Definition.rootSourceWithin, propertyAt_congr properties, ih]
  funext id
  simp only [Definition.rootSource, properties, within]

end

section

include types properties

/-- What a model is copied from is told by types and properties. -/
theorem copiedFrom?_congr : left.copiedFrom? = right.copiedFrom? := by
  -- A named model is told by the types.
  have named : left.isNamedModel = right.isNamedModel := by
    funext id
    simp only [Definition.isNamedModel, model?_congr types]
  funext id
  simp only [Definition.copiedFrom?, named, propertyAt_congr properties,
    rootSource_congr properties]

/-- The properties of a payload are told by types and properties. -/
theorem payloadProperties_congr : left.payloadProperties = right.payloadProperties := by
  have models : (fun id => left.model? id) = fun id => right.model? id := model?_congr types
  funext id
  simp only [Definition.payloadProperties, Definition.allProperties, lineage_congr types,
    propertyAt_congr properties, models]

/-- The type of a payload is told by types and properties. -/
theorem payloadType_congr : left.payloadType = right.payloadType := by
  funext id
  simp only [Definition.payloadType, Definition.commonOwner?, copiedFrom?_congr types properties,
    model?_congr types, propertyAt_congr properties, payloadProperties_congr types properties]

/-- Monitors are told by types and properties. -/
theorem monitor?_congr : monitor? left = monitor? right := by
  have places := propertyAt_congr properties
  have models : (fun id => left.model? id) = fun id => right.model? id := model?_congr types
  -- A status is a property that is marked or has the name, of the model or one in its lineage.
  have statuses : statusOf? left = statusOf? right := by
    have marked : isMarkedStatus left = isMarkedStatus right := by
      funext id
      simp only [isMarkedStatus, places]
    have named : hasStatusName left = hasStatusName right := by
      funext id
      simp only [hasStatusName, places]
    funext model
    simp only [statusOf?, Definition.allProperties, lineage_congr types, models, places, marked,
      named]
  -- By induction on the steps, since one step looks at a payload's shape and its status.
  have within (steps : Nat) (id : TypeId) :
      monitorWithin left steps id = monitorWithin right steps id := by
    induction steps generalizing id with
    | zero => rfl
    | succ steps ih =>
      simp only [monitorWithin, payloadType_congr types properties, shapeAt_congr types, statuses,
        ih]
  funext id
  simp only [monitor?, types, within]

/-- What types refer to is told by types, properties and options. -/
theorem references_congr {first second : Context} (isLeft : first.definition = left)
    (isRight : second.definition = right) (options : first.options = second.options) :
    first.references = second.references := by
  have shapes := shapeAt_congr types
  have places := propertyAt_congr properties
  have scalars := standardScalar?_congr types
  have members : first.propertyType = second.propertyType := by
    funext id
    rw [Context.propertyType, Context.propertyType, isLeft, isRight, places]
  funext id
  rw [Context.references, Context.references, isLeft, isRight, shapes]
  -- Only unions and models look further than their own shape.
  cases shape : right.shapeAt id with
  | union union =>
    simp only [Context.shapeReferences, Context.unionReferences, Context.valuedVariants,
      Context.flattening?, Context.flattened?, isLeft, isRight, options, Definition.isNull, shapes,
      scalars]
  | model model =>
    simp only [Context.shapeReferences, Context.modelReferences, Context.memberIds,
      Context.baseType?, Context.inheritedType?, isLeft, isRight, Definition.isVoidLike, shapes,
      places, members]
  | _ => rfl

/-- What a type leads to is told by the types, the properties and the options alone. -/
theorem leadsTo_congr {first second : Context} (isLeft : first.definition = left)
    (isRight : second.definition = right) (options : first.options = second.options) :
    first.LeadsTo = second.LeadsTo := by
  -- References and payloads are told by the same tables.
  funext id other
  simp only [Context.LeadsTo, references_congr types properties isLeft isRight options, isLeft,
    isRight, payloadType_congr types properties]

end

end ClientModel.Derivation
