import ClientModel.Derivation.Nodes

/-! Status monitors: the types whose status tells how a long-running operation fares. -/

namespace ClientModel.Derivation

open Service (Definition FinalState)

/-- Adds a state to the states, under the final state that it was marked for or is named after. -/
def addState (states : States) (value : String) (marker : Option FinalState) : States :=
  let states :=
    match marker.or (FinalState.ofName? value) with
    | some .succeeded => { states with succeeded := states.succeeded ++ [value] }
    | some .failed => { states with failed := states.failed ++ [value] }
    | some .canceled => { states with canceled := states.canceled ++ [value] }
    | none => states
  -- The list of all states tells no state twice; those of final states may.
  if states.all.contains value then states else { states with all := states.all ++ [value] }

section

variable (definition : Definition)

/-- Adds the state that a member of an enum stands for. -/
def addMemberState (states : States) (id : TypeId) : States :=
  match definition.shapeAt id with
  | .member member =>
    -- A member without a text stands for its name.
    let value :=
      match member.value with
      | some (.text value) => value
      | _ => member.name
    addState states value member.finalState
  | _ => states

/-- Adds the states of a type, looking into unions down to the given depth. -/
def addStates : Nat → States → TypeId → States
  | 0, states, _ => states
  | depth + 1, states, id =>
    match definition.shapeAt id with
    | .enumeration enumeration => enumeration.members.foldl (addMemberState definition) states
    | .union union =>
      union.variants.foldl
        (fun states variant =>
          match definition.shapeAt variant.type with
          | .literal (.text value) => addState states value variant.finalState
          | .enumeration _ | .union _ => addStates depth states variant.type
          | _ => states)
        states
    | .literal (.text value) => addState states value none
    | _ => states

/-- How many unions inside one another are looked into for states. -/
def stateDepth : Nat := 9

/-- The states of a type. -/
def statesOf (id : TypeId) : States :=
  addStates definition stateDepth {} id

/-! ## The status property -/

/-- The property has a name that is customary for a status. -/
def hasStatusName (id : PropertyId) : Bool :=
  ["status", "provisioningState"].contains (definition.propertyAt id).name

/-- The property was marked as a status. -/
def isMarkedStatus (id : PropertyId) : Bool :=
  (definition.propertyAt id).markers.status

/-- The status of a model: a marked property, or one with a customary name, or one just below. -/
def statusOf? (model : TypeId) : Option PropertyId :=
  let properties := definition.allProperties model
  let direct := (properties.find? (isMarkedStatus definition)).or
    (properties.find? (hasStatusName definition))
  -- A resource keeps its status one level down.
  let below := do
    let nested ← properties.find? fun id => (definition.propertyAt id).name == "properties"
    (definition.allProperties (definition.propertyAt nested).type).find? fun id =>
      isMarkedStatus definition id || hasStatusName definition id
  direct.or below

/--
The first model with a status that a type comes to, found through the given number of unions.

Where these do not suffice, the answer is the type that comes next.
-/
def monitorWithin : Nat → TypeId → Except TypeId (Option (TypeId × PropertyId))
  | 0, id => .error id
  | steps + 1, id =>
    let id := definition.payloadType id
    match definition.shapeAt id with
    | .union union => union.variants.findSomeM? fun variant => monitorWithin steps variant.type
    | .model _ => .ok ((statusOf? definition id).map (id, ·))
    | _ => .ok none

/--
The first model with a status that a type comes to, with that status.

A search that is still under way below more unions than there are types never ends.
-/
def monitor? (id : TypeId) : Except TypeId (Option (TypeId × PropertyId)) :=
  monitorWithin definition (definition.types.size + 1) id

end

namespace Context

variable (context : Context)

/-- Derives a property of a status monitor. -/
def monitorProperty (id : PropertyId) : Derive MonitorProperty := do
  let declared := context.definition.propertyAt id
  return {
    origin := id
    name := declared.name
    serializedName := declared.serializedName
    type := ← context.node declared.type
  }

/-- A model with a status and the states of this, if it can both succeed and fail. -/
def withStates? (found : TypeId × PropertyId) : Option (TypeId × PropertyId × States) :=
  let states := statesOf context.definition (context.definition.propertyAt found.2).type
  -- A status that cannot tell success from failure does not tell the end.
  if states.succeeded.isEmpty || states.failed.isEmpty then none
  else some (found.1, found.2, states)

/-- The model with a status that a type comes to, if it can both succeed and fail. -/
def finalMonitor? (id : TypeId) : Except TypeId (Option (TypeId × PropertyId × States)) :=
  (monitor? context.definition id).map fun found => found.bind context.withStates?

/-- The first model with a final status that some types come to, unless a search never ends. -/
def firstMonitor? (candidates : List TypeId) : Derive (Option (TypeId × PropertyId × States)) :=
  answerOf .endlessVariants (candidates.findSomeM? context.finalMonitor?)

/-- The types that the responses of an operation carry, but not that of the one to any status. -/
def statusTypes (polling : OperationId) : List TypeId :=
  let responses := (context.definition.operationAt polling).responses.filter fun response =>
    response.status != .wildcard
  responses.filterMap fun response => response.body.map (·.type)

/-- Derives the status monitor of a polling operation. -/
def statusMonitor? (polling : OperationId) (access : Access) : Derive (Option StatusMonitor) := do
  let definition := context.definition
  match ← context.firstMonitor? (context.statusTypes polling) with
  | none => return none
  | some (monitor, status, states) =>
    let properties := definition.allProperties monitor
    let success := properties.find? fun id =>
      let declared := definition.propertyAt id
      declared.markers.result || declared.name == "result"
    let error := properties.find? fun id =>
      let declared := definition.propertyAt id
      declared.markers.errorResult || declared.name == "error"
    let type ← context.node monitor
    addSeed type (Usage.output ||| Usage.json) access
    return some {
      type
      status := ← context.monitorProperty status
      states
      success := ← success.mapM context.monitorProperty
      error := ← error.mapM context.monitorProperty
    }

end Context

end ClientModel.Derivation
