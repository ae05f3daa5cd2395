import ClientModel.Service.Definition

/-!
Payloads: what a message carries in its body.

An anonymous model that was copied, property by property, from a named one stands for that model,
and a union carries what its variants carry.
-/

namespace ClientModel.Service.Definition

variable (definition : Definition)

/-- The identifiers of all types, in order. -/
def typeIds : List TypeId :=
  (List.range definition.types.size).map TypeId.mk

/-- The type declares a model with a name. -/
def isNamedModel (id : TypeId) : Bool :=
  (definition.model? id).any fun model => model.name.isSome

/-- The named model that a copied property was first declared in. -/
def copiedFrom? (id : PropertyId) : Option TypeId := do
  let _ ← (definition.propertyAt id).source
  let owner ← (definition.propertyAt (definition.rootSource id)).model
  if definition.isNamedModel owner then some owner else none

/-- The named model that all of the given properties were copied from. -/
def commonOwner? (properties : List PropertyId) : Option TypeId := do
  match ← properties.mapM definition.copiedFrom? with
  | [] => none
  | owner :: others => if others.all (· == owner) then some owner else none

/-- The type whose payload a type carries: the named model that it copies whole, or itself. -/
def payloadType (id : TypeId) : TypeId :=
  match definition.model? id with
  | none => id
  | some model =>
    if model.name.isSome then id
    else
      let payload := model.properties.filter fun property =>
        !(definition.propertyAt property).isMetadata
      match definition.commonOwner? payload with
      | none => id
      | some owner =>
        if (definition.payloadProperties owner).length == payload.length then owner else id

/-- The models that are met from a stack of types on, through unions, each one once. -/
def modelsMet (remaining : List TypeId) : List TypeId → List TypeId
  | [] => []
  | id :: stack =>
    if _ : id ∈ remaining then
      match definition.shapeAt id with
      | .model _ => id :: modelsMet (remaining.erase id) stack
      | .union union => modelsMet (remaining.erase id) (union.variants.map Variant.type ++ stack)
      | _ => modelsMet (remaining.erase id) stack
    else modelsMet remaining stack
termination_by stack => (remaining.length, stack.length)
decreasing_by
  all_goals first
    | exact Prod.Lex.right _ (by simp)
    | have := List.length_erase_of_mem ‹id ∈ remaining›
      have := List.length_pos_of_mem ‹id ∈ remaining›
      exact Prod.Lex.left _ _ (by omega)

/-- The properties in the payload of a type, also of those that its variants carry. -/
def payloadMembers (id : TypeId) : List PropertyId :=
  (definition.modelsMet definition.typeIds [definition.payloadType id]).flatMap
    definition.payloadProperties

end ClientModel.Service.Definition
