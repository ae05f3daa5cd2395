import ClientModel.Proofs.Planting

/-!
What stays the same when an operation is added.

The old operations go to the same clients, and demand the same types. Whether a type has a usage is
told by its declaration as well.
-/

namespace ClientModel

/-- What is taken from the front of a list is told by its entries alone. -/
theorem takeWhile_congr_of_mem {α : Type} {test other : α → Bool} {list : List α}
    (same : ∀ entry ∈ list, test entry = other entry) :
    list.takeWhile test = list.takeWhile other := by
  -- Along the list; behind the first entry that fails the tests are not asked.
  induction list with
  | nil => rfl
  | cons first rest ih =>
    rw [List.takeWhile_cons, List.takeWhile_cons, same first List.mem_cons_self,
      ih fun entry listed => same entry (List.mem_cons_of_mem _ listed)]

namespace Service.Definition.IsClosed

variable {definition : Definition} {operation : OperationId}

/-! ## What operations cite -/

section

variable (closed : definition.IsClosed) (has : definition.HasOperation operation)
include closed has

/-- The parameters of an operation are declared. -/
theorem parameter {property : PropertyId}
    (listed : property ∈ (definition.operationAt operation).parameters) :
    definition.Declares (.property property) :=
  closed.operationAt has _ (by simp [Operation.cites, listed])

/-- What the slots of an operation take is declared. -/
theorem slot {slot : WireSlot} (listed : slot ∈ (definition.operationAt operation).slots) :
    definition.Declares (.property slot.property) :=
  -- Among all that an operation cites, what its slots take is the part that is looked for.
  closed.operationAt has _ (by
    simp only [Operation.cites, List.mem_append, List.mem_map]
    exact Or.inl (Or.inl (Or.inl (Or.inl (Or.inr ⟨slot, listed, rfl⟩)))))

/-- The types of the bodies of an operation are declared. -/
theorem body {body : BodyDecl} (listed : body ∈ (definition.operationAt operation).bodies) :
    definition.Declares (.type body.type) :=
  -- Among all that an operation cites, its bodies are the part that is looked for.
  closed.operationAt has _ (by
    simp only [Operation.cites, List.mem_append, List.mem_flatMap]
    exact Or.inl (Or.inl (Or.inl (Or.inr ⟨body, listed, by simp [BodyDecl.cites]⟩))))

/-- What the responses of an operation cite is declared. -/
theorem response {response : ResponseDecl}
    (listed : response ∈ (definition.operationAt operation).responses) :
    definition.DeclaresAll response.cites := fun id cited =>
  closed.operationAt has id (by
    simp only [Operation.cites, List.mem_append, List.mem_flatMap]
    exact Or.inl (Or.inl (Or.inr ⟨response, listed, cited⟩)))

end

end Service.Definition.IsClosed

namespace Derivation

open Service (BodyDecl Definition ResponseDecl WireSlot)

variable {context larger : Context} {client container : ContainerId} {operation : OperationId}

namespace Context.ExtendsTo

section

variable (extends' : context.ExtendsTo larger)
include extends'

/-! ## Clients -/

/-- Whether a name is for a client is the same in the larger definition. -/
theorem isForClient_eq (client : ContainerId) (name : String) :
    larger.isForClient client name = context.isForClient client name := by
  -- It is a matter of options and services, which both definitions have in common.
  rw [isForClient, isResourceManaged, extends'.options, extends'.appends.service?_eq, isForClient,
    isResourceManaged]

/-- The nearest root of a container is the same. -/
theorem nearestRoot?_eq (container : ContainerId) :
    larger.nearestRoot? container = context.nearestRoot? container := by
  rw [nearestRoot?, extends'.appends.enclosing_eq, extends'.roots, nearestRoot?]

/-- The names that are chosen for a container are the same. -/
theorem chosenNames_eq (container : ContainerId) :
    larger.chosenNames container = context.chosenNames container := by
  unfold chosenNames
  rw [extends'.nearestRoot?_eq]
  -- Names are chosen only below a root, and for parameters that are old ones.
  split
  · unfold chosenFor
    rw [extends'.choices]
    refine List.map_congr_left fun id listed => ?_
    rw [extends'.appends.propertyAt id (extends'.chosen container id listed)]
  · rfl

/-- What is chosen around a client is the same. -/
theorem isChosenAround_eq (client : ContainerId) (name : String) :
    larger.isChosenAround client name = context.isChosenAround client name := by
  simp only [isChosenAround, extends'.appends.enclosing_eq, extends'.chosenNames_eq]

/-! ## Operations -/

/-- Whether an operation is wanted on typed values is the same. -/
theorem isConvenient_eq (operation : OperationId) :
    larger.isConvenient operation = context.isConvenient operation := by
  rw [isConvenient, extends'.choices, extends'.options, isConvenient]

section

variable (has : context.definition.HasOperation operation)
include has

/-- The place of an old operation is the same. -/
theorem placeOf_eq : larger.placeOf operation = context.placeOf operation := by
  rw [placeOf, extends'.choices, extends'.appends.operationAt_eq has, placeOf]

/-- Whether an old operation is available is the same. -/
theorem isAvailable_eq : larger.isAvailable operation = context.isAvailable operation := by
  -- The operation is the same, and so are its service and the versions that are asked for.
  simp only [isAvailable, operationVersions, extends'.options, extends'.appends.operationAt_eq has,
    extends'.appends.service?_eq]

end

/-! ## Demands -/

section

variable {property : PropertyId} (there : context.definition.Declares (.property property))
include there

/-- An old property is the same. -/
theorem propertyAt_eq :
    larger.definition.propertyAt property = context.definition.propertyAt property :=
  extends'.appends.propertyAt property there

/-- Whether a parameter carries a value. -/
theorem isVoidLike_eq : larger.definition.isVoidLike (context.definition.propertyAt property).type =
    context.definition.isVoidLike (context.definition.propertyAt property).type :=
  extends'.appends.isVoidLike_eq (extends'.closed.propertyType there)

/-- What an old parameter demands is the same. -/
theorem parameterDemand?_eq (client : ContainerId) :
    larger.parameterDemand? client property = context.parameterDemand? client property := by
  -- The parameter, what it is worth and who may hold it are the same in both.
  simp only [parameterDemand?, extends'.propertyAt_eq there, extends'.isVoidLike_eq there,
    extends'.isForClient_eq, extends'.isChosenAround_eq]

/-- What an old header demands is the same. -/
theorem headerDemand?_eq : larger.headerDemand? property = context.headerDemand? property := by
  simp only [headerDemand?, extends'.propertyAt_eq there, extends'.isVoidLike_eq there]

end

section

variable {slot : WireSlot} (there : context.definition.Declares (.property slot.property))
include there

/-- Whether an old slot has a place is the same. -/
theorem isPlaced_eq : larger.isPlaced slot = context.isPlaced slot := by
  simp only [isPlaced, extends'.propertyAt_eq there, extends'.isVoidLike_eq there]

/-- What an old slot demands is the same. -/
theorem slotDemand?_eq : larger.slotDemand? slot = context.slotDemand? slot := by
  simp only [slotDemand?, extends'.propertyAt_eq there, extends'.isVoidLike_eq there]

end

section

variable {response : ResponseDecl} (there : context.definition.DeclaresAll response.cites)
include there

omit extends' in
/-- The headers of a response are declared. -/
theorem declares_header {header : PropertyId} (listed : header ∈ response.headers) :
    context.definition.Declares (.property header) :=
  there _ (by simp [ResponseDecl.cites, listed])

/-- The payload of an old response is the same. -/
theorem payload?_eq : larger.payload? response = context.payload? response := by
  unfold payload?
  -- A body is dropped if its type is like void, which an old type is as before.
  cases isBody : response.body with
  | none => rfl
  | some body =>
    have inside : context.definition.Declares (.type body.type) :=
      there _ (by simp [ResponseDecl.cites, isBody])
    rw [Option.filter_some, Option.filter_some, extends'.appends.isVoidLike_eq inside]

/-- Whether an old response is one of an error is the same. -/
theorem isErrorResponse_eq :
    larger.isErrorResponse response = context.isErrorResponse response := by
  unfold isErrorResponse
  rw [extends'.payload?_eq there]
  cases isBody : context.payload? response with
  | none => rfl
  | some body =>
    have inside : context.definition.Declares (.type body.type) := by
      have := (Option.filter_eq_some_iff.mp isBody).1
      exact there _ (by simp [ResponseDecl.cites, this])
    -- New models that extend it do not make a model an error.
    obtain ⟨more, -, same⟩ :=
      extends'.appends.model?_eq (Definition.declares_payloadType inside)
    simp only [Option.any_some, extends'.payloadType_eq inside, same, Option.any_map]

/-- What an old response demands is the same. -/
theorem responseDemands_eq :
    larger.responseDemands response = context.responseDemands response := by
  -- The payload and each header demand the same, and there are the same headers.
  unfold responseDemands payloadDemand?
  rw [extends'.payload?_eq there, extends'.isErrorResponse_eq there,
    List.filterMap_congr fun header listed =>
      extends'.headerDemand?_eq (declares_header there listed)]

end

/-- What the body of an old operation demands is the same. -/
theorem bodyDemand?_eq (has : context.definition.HasOperation operation) :
    larger.bodyDemand? operation = context.bodyDemand? operation := by
  unfold bodyDemand? Definition.contentTypesOf
  dsimp only
  rw [extends'.appends.operationAt_eq has]
  have type (body : BodyDecl) (listed : body ∈ (context.definition.operationAt operation).bodies) :
      context.definition.Declares (.type body.type) := extends'.closed.body has listed
  cases bodies : (context.definition.operationAt operation).bodies with
  | nil => rfl
  -- All bodies are compared by the payloads of their types, which are old ones.
  | cons first others =>
    rw [bodies] at type
    have own := type first List.mem_cons_self
    obtain ⟨more, -, same⟩ := extends'.appends.model?_eq (Definition.declares_payloadType own)
    have payloads : (others.map fun other => larger.definition.payloadType other.type) =
        others.map fun other => context.definition.payloadType other.type :=
      List.map_congr_left fun other listed =>
        extends'.payloadType_eq (type other (List.mem_cons_of_mem _ listed))
    have divergent (definition : Definition) (payload : TypeId) :
        (others.any fun other => definition.payloadType other.type != payload) =
          (others.map fun other => definition.payloadType other.type).any (· != payload) := by
      rw [List.any_map]
      rfl
    dsimp only
    -- So is the rest of the demand, which asks whether the type is empty and whether it has a name.
    rw [extends'.payloadType_eq own, divergent, payloads, ← divergent,
      extends'.appends.isVoidLike_eq own, same, Option.any_map]

/-- What the request of an old operation demands is the same. -/
theorem requestDemands_eq (has : context.definition.HasOperation operation) :
    larger.requestDemands operation = context.requestDemands operation := by
  have slot (slot : WireSlot)
      (listed : slot ∈ (context.definition.operationAt operation).slots) :=
    extends'.closed.slot has listed
  have isPlaced := fun (other : WireSlot) listed => extends'.isPlaced_eq (slot other listed)
  have all : (context.definition.operationAt operation).slots.all larger.isPlaced =
      (context.definition.operationAt operation).slots.all context.isPlaced := by
    rw [Bool.eq_iff_iff, List.all_eq_true, List.all_eq_true]
    exact forall₂_congr fun other listed => by rw [isPlaced other listed]
  -- Slots up to the first one without a place, and the body if there is none such.
  unfold requestDemands
  dsimp only
  rw [extends'.appends.operationAt_eq has, extends'.bodyDemand?_eq has, all,
    takeWhile_congr_of_mem isPlaced, List.filterMap_congr fun other listed =>
      extends'.slotDemand?_eq (slot other (List.takeWhile_subset _ listed))]

/-- What an old operation demands for the client that it goes to. -/
theorem demands_eq (has : context.definition.HasOperation operation) (client : ContainerId) :
    larger.demands operation client = context.demands operation client := by
  unfold demands
  dsimp only
  -- What an operation cites is declared, so each of its demands is the same.
  rw [extends'.appends.operationAt_eq has, extends'.requestDemands_eq has,
    List.filterMap_congr fun id listed =>
      extends'.parameterDemand?_eq (extends'.closed.parameter has listed) client,
    List.flatMap_congr fun response listed =>
      extends'.responseDemands_eq (extends'.closed.response has listed)]

end

end Context.ExtendsTo

/-! ## Nodes with a usage -/

/-- The node of a type has a usage: that of a model, an enum, or a union of some values. -/
def Context.isUsable (context : Context) (id : TypeId) : Bool :=
  match context.definition.shapeAt id with
  | .enumeration _ | .model _ => true
  | .union union => !(context.valuedVariants union).isEmpty
  | _ => false

section

variable {state wide : State} {id : TypeId} {node other : NodeId}

/-- Before seeds are spread, nothing is used in any way. -/
theorem Context.Settled.usage?_eq (settled : context.Settled (fun _ => False) state)
    (known : state.declared.get? id = some node) :
    (state.catalogue.nodeAt node).usage? = if context.isUsable id then some .none else none := by
  have mirrors := settled.mirrors_of_known known
  have plain (node : Node) : node.usage? = node.plain.usage? := by
    cases kind : node.kind <;> simp [Node.usage?, Node.plain, NodeKind.plain, ModelNode.plain, kind]
  rw [plain, Node.usage?, isUsable]
  generalize (state.catalogue.nodeAt node).plain.kind = kind at mirrors
  generalize context.definition.shapeAt id = shape at mirrors
  -- Every kind of node that carries usage was made without any.
  cases mirrors with
  | enumeration unused => simp [unused]
  | flattened some flat unused => simp [some, unused]
  | union some open' unused => simp [some, unused]
  | model mirrors => simp [mirrors.unused]
  | empty none => simp [none]
  | _ => rfl

/-- Whether an old type can be used is the same. -/
theorem Context.ExtendsTo.isUsable_eq (extends' : context.ExtendsTo larger)
    (there : context.definition.Declares (.type id)) :
    larger.isUsable id = context.isUsable id := by
  obtain ⟨more, -, same⟩ := extends'.appends.shapeAt id there
  unfold isUsable
  rw [same]
  -- Only of a union does it depend on more than the shape itself.
  cases shape : context.definition.shapeAt id with
  | union union => simp only [Service.Shape.withDerived, extends'.valuedVariants_eq shape there]
  | _ => rfl

end

end Derivation

end ClientModel
