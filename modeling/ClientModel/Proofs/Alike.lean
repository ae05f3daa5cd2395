import ClientModel.Derivation.ClientTree
import ClientModel.Derivation.PollingLink
import ClientModel.Derivation.StatusMonitor
import ClientModel.Proofs.Tables

/-!
What definitions with the same tables have in common.

Whatever is read off a definition on the way to a package is read off its tables, and customizations
have no say in it.
-/

namespace ClientModel.Derivation

open Service (Definition Model Operation)

/-- Two definitions declare the same, whatever is customized in either. -/
structure Alike (left right : Definition) : Prop where
  types : left.types = right.types
  properties : left.properties = right.properties
  operations : left.operations = right.operations
  containers : left.containers = right.containers

namespace Alike

variable {left right : Definition} (alike : Alike left right)
include alike

/-! ## Types and properties -/

/-- An identifier of a type stands for the same declaration in both. -/
theorem typeAt : right.typeAt = left.typeAt := by
  funext id
  simp only [Definition.typeAt, alike.types]

/-- A type has the same shape in both. -/
theorem shapeAt : right.shapeAt = left.shapeAt :=
  (shapeAt_congr alike.types).symm

/-- The same types are models. -/
theorem model? : right.model? = left.model? :=
  (model?_congr alike.types).symm

/-- An identifier of a property stands for the same declaration in both. -/
theorem propertyAt : right.propertyAt = left.propertyAt :=
  (propertyAt_congr alike.properties).symm

/-- A property was first declared in the same place. -/
theorem rootSource : right.rootSource = left.rootSource :=
  (rootSource_congr alike.properties).symm

/-- A scalar comes from the same standard scalar. -/
theorem standardScalar? : right.standardScalar? = left.standardScalar? :=
  (standardScalar?_congr alike.types).symm

/-- The payload of a type is a value of the same type. -/
theorem payloadType : right.payloadType = left.payloadType :=
  (payloadType_congr alike.types alike.properties).symm

/-- The payload of a model has the same properties. -/
theorem payloadProperties : right.payloadProperties = left.payloadProperties :=
  (payloadProperties_congr alike.types alike.properties).symm

/-- The same types stand for no value at all. -/
theorem isVoidLike : right.isVoidLike = left.isVoidLike := by
  funext id
  simp only [Definition.isVoidLike, alike.shapeAt]

/-- The same types are null. -/
theorem isNull : right.isNull = left.isNull := by
  funext id
  simp only [Definition.isNull, alike.shapeAt]

/-- The walk to the nearest encoding comes to the same end. -/
theorem encoding? : right.encoding? = left.encoding? :=
  (encoding?_congr alike.types).symm

/-- A model has the same properties, those of its bases included. -/
theorem allProperties : right.allProperties = left.allProperties := by
  -- The models of the lineage are the same, and so are their own properties.
  have models : (fun id => right.model? id) = fun id => left.model? id := alike.model?
  funext id
  simp only [Definition.allProperties, (lineage_congr alike.types).symm, models]

/-- A tour of the payload meets the same members. -/
theorem payloadMembers : right.payloadMembers = left.payloadMembers := by
  -- By the cases of the tour: what is on top of its stack has the same shape in both.
  have met (remaining stack : List TypeId) :
      right.modelsMet remaining stack = left.modelsMet remaining stack := by
    fun_induction left.modelsMet remaining stack with
    | case1 remaining => rw [Definition.modelsMet]
    | case2 remaining id stack inside model shape ih =>
      rw [Definition.modelsMet, dif_pos inside, alike.shapeAt, shape]
      exact congrArg _ ih
    | case3 remaining id stack inside union shape ih =>
      rw [Definition.modelsMet, dif_pos inside, alike.shapeAt, shape]
      exact ih
    | case4 remaining id stack inside noModel noUnion ih =>
      rw [Definition.modelsMet, dif_pos inside, alike.shapeAt]
      -- What is neither a model nor a union is passed over.
      split
      · exact absurd ‹_› (noModel _)
      · exact absurd ‹_› (noUnion _)
      · exact ih
    | case5 remaining id stack outside ih =>
      rw [Definition.modelsMet, dif_neg outside, ih]
  funext id
  simp only [Definition.payloadMembers, Definition.typeIds, alike.types, alike.payloadType, met,
    alike.payloadProperties]

/-! ## Operations and containers -/

/-- An identifier of an operation stands for the same declaration in both. -/
theorem operationAt : right.operationAt = left.operationAt := by
  funext id
  simp only [Definition.operationAt, alike.operations]

/-- An identifier of a container stands for the same declaration in both. -/
theorem containerAt : right.containerAt = left.containerAt := by
  funext id
  simp only [Definition.containerAt, alike.containers]

/-- Both declare the same operations. -/
theorem operationIds : right.operationIds = left.operationIds := by
  simp only [Definition.operationIds, alike.operations]

/-- Both declare the same containers. -/
theorem containerIds : right.containerIds = left.containerIds := by
  simp only [Definition.containerIds, alike.containers]

/-- The same containers are around a container. -/
theorem enclosing : right.enclosing = left.enclosing := by
  -- By induction on the steps outwards, each of which looks at one container.
  have within (steps : Nat) (id : ContainerId) :
      right.enclosingWithin steps id = left.enclosingWithin steps id := by
    induction steps generalizing id with
    | zero => rfl
    | succ steps ih => simp only [Definition.enclosingWithin, alike.containerAt, ih]
  funext id
  simp only [Definition.enclosing, alike.containers, within]

/-- A container has the same full name. -/
theorem fullName : right.fullName = left.fullName := by
  funext id
  simp only [Definition.fullName, alike.enclosing, alike.containerAt]

/-- A namespace goes by the same name. -/
theorem namespaceOf : right.namespaceOf = left.namespaceOf := by
  funext id
  simp only [Definition.namespaceOf, alike.containerAt, alike.fullName]

/-- A container belongs to the service of the same container. -/
theorem serviceRoot? : right.serviceRoot? = left.serviceRoot? := by
  funext id
  simp only [Definition.serviceRoot?, alike.enclosing, alike.containerAt]

/-- A container belongs to the same service. -/
theorem service? : right.service? = left.service? := by
  funext id
  simp only [Definition.service?, alike.serviceRoot?, alike.containerAt]

/-- The same types are asked for without any operation. -/
theorem orphanTypes : right.orphanTypes = left.orphanTypes := by
  simp only [Definition.orphanTypes, alike.containerIds, alike.containerAt]

/-- An operation has the same identifier across languages. -/
theorem operationCrossId : right.operationCrossId = left.operationCrossId := by
  funext id
  simp only [Definition.operationCrossId, alike.operationAt, alike.fullName]

/-! ## Paths -/

/-- A word that is made of a type is the same. -/
theorem nameOrWord : nameOrWord right = nameOrWord left := by
  funext id word
  simp only [Derivation.nameOrWord, alike.typeAt]

/-- The same types are reached through the members of a model. -/
theorem memberLeads : memberLeads right = memberLeads left := by
  funext model
  simp only [Derivation.memberLeads, alike.propertyAt]

/-- The same types are reached through the kin of a model. -/
theorem kinLeads : kinLeads right = kinLeads left := by
  funext model word
  simp only [Derivation.kinLeads, alike.nameOrWord]

/-- The search for a name comes across a type on the same path. -/
theorem contextPath : contextPath right = contextPath left := by
  -- By induction on the steps of the search, for whatever it has seen by then.
  have within (target : TypeId) (steps : Nat) (visited : List TypeId) (lead : Lead) :
      pathWithin right target steps visited lead = pathWithin left target steps visited lead := by
    induction steps generalizing visited lead with
    | zero => rfl
    | succ steps ih =>
      have same : pathWithin right target steps = pathWithin left target steps := by
        funext visited lead
        exact ih visited lead
      obtain ⟨id, word⟩ := lead
      simp only [pathWithin, alike.shapeAt, alike.memberLeads, alike.kinLeads, same]
  -- From one lead to many, and from these to operations and to types without one.
  have paths : pathFrom right = pathFrom left := by
    funext target leads
    have same : pathWithin right target (left.types.size + 1) =
        pathWithin left target (left.types.size + 1) := by
      funext visited lead
      exact within target _ visited lead
    simp only [pathFrom, ← alike.types, same]
  have operations : operationPath right = operationPath left := by
    funext target id
    simp only [operationPath, operationLeads, paths, alike.operationAt, alike.propertyAt]
  have orphans : orphanPath right = orphanPath left := by
    funext target orphan
    simp only [orphanPath, paths, alike.nameOrWord]
  funext target ids types
  simp only [Derivation.contextPath, operations, orphans]

/-! ## Polling -/

/-- The same values can be taken from the exchange that is followed. -/
theorem linkSources : linkSources right = linkSources left := by
  -- Sources are taken from members one by one, so that the members agree is enough.
  have each : linkSource right = linkSource left := by
    funext kind id
    simp only [linkSource, alike.propertyAt]
  funext operation
  simp only [Derivation.linkSources, each, alike.payloadMembers]

/-- The same parameters of the polling operation want values. -/
theorem linkTargets : linkTargets right = linkTargets left := by
  funext operation
  simp only [Derivation.linkTargets, alike.isVoidLike, alike.propertyAt, alike.payloadMembers]

/-- A type tells the same states. -/
theorem statesOf : statesOf right = statesOf left := by
  -- Unions are looked into up to a depth, and enums in one step.
  have members : addMemberState right = addMemberState left := by
    funext states id
    simp only [addMemberState, alike.shapeAt]
  have within (depth : Nat) (states : States) (id : TypeId) :
      addStates right depth states id = addStates left depth states id := by
    induction depth generalizing states id with
    | zero => rfl
    | succ depth ih => simp only [addStates, alike.shapeAt, members, ih]
  funext id
  exact within stateDepth {} id

/-- The search for a status comes to the same monitor. -/
theorem monitor? : monitor? right = monitor? left :=
  (monitor?_congr alike.types alike.properties).symm

end Alike

end ClientModel.Derivation
