import ClientModel.Derivation.State
import ClientModel.Text.Singular
import ClientModel.Text.Words

/-!
Names for types that were declared without one.

Such a type is named after the path that leads to it from the first operation, or else from the
first orphan type, that refers to it. The name begins at the last part of the path that has a name
of its own.
-/

namespace ClientModel.Derivation

open Service (Definition Model Shape)

/-! ## Paths -/

/-- A part of a path: an operation, or a type and the word under which the path enters it. -/
structure Segment where
  word : String
  type : Option TypeId
  deriving DecidableEq

/-- A way into a type: the type, and the word for the place that refers to it. -/
abbrev Lead := TypeId × String

/-- What a search has come to: the path that it found, and the types that it has visited. -/
abbrev Found := Option (List Segment) × List TypeId

/-- Follows leads one by one until one ends in a path. -/
def followAll (follow : List TypeId → Lead → Found) (visited : List TypeId) : List Lead → Found
  | [] => (none, visited)
  | lead :: rest =>
    match follow visited lead with
    | (some path, visited) => (some path, visited)
    -- What was visited in vain is not visited again.
    | (none, visited) => followAll follow visited rest

section

variable (definition : Definition)

/-- The declared name of a type, or else the given word. -/
def nameOrWord (id : TypeId) (word : String) : String :=
  (definition.typeAt id).name?.getD word

/-- The leads into the properties of a model. -/
def memberLeads (model : Model) : List Lead :=
  model.properties.map (fun id =>
    let property := definition.propertyAt id
    (property.type, property.name)) ++
  model.additionalProperties.toList.map (·, "AdditionalProperty")

/-- The leads from a model to its base and to the models derived from it. -/
def kinLeads (model : Model) (word : String) : List Lead :=
  (model.base.toList ++ model.derived).map fun id => (id, nameOrWord definition id word)

/--
The path from a lead to the wanted type, in at most the given number of steps.

A model lends its name to the path of what its properties hold, but not to its kin; arrays, records
and unions lend none. No type is visited twice, so that as many steps as there are types suffice.
-/
def pathWithin (target : TypeId) : Nat → List TypeId → Lead → Found
  | 0, visited, _ => (none, visited)
  | steps + 1, visited, (id, word) =>
    match definition.shapeAt id with
    | .array inner | .record inner =>
      if visited.contains id then (none, visited)
      else pathWithin target steps (id :: visited) (inner, Text.singular word)
    | .model model =>
      if id == target then (some [{ word, type := some id }], visited)
      else if visited.contains id then (none, visited)
      else
        -- Properties go before kin, the way to which does not go by the name of this model.
        let leads := memberLeads definition model
        match followAll (pathWithin target steps) (id :: visited) leads with
        | (some path, visited) => (some ({ word, type := some id } :: path), visited)
        | (none, visited) =>
          followAll (pathWithin target steps) visited (kinLeads definition model word)
    | .union union =>
      if id == target then (some [{ word, type := some id }], visited)
      else if visited.contains id then (none, visited)
      else
        followAll (pathWithin target steps) (id :: visited)
          (union.variants.map fun variant => (variant.type, word))
    | .scalar _ | .intrinsic _ | .literal _ | .enumeration _ | .member _ => (none, visited)

/-- The path from one of some leads to the wanted type. -/
def pathFrom (target : TypeId) (leads : List Lead) : Option (List Segment) :=
  (followAll (pathWithin definition target (definition.types.size + 1)) [] leads).1

/-- The leads from an operation: its bodies, its parameters, its responses with their headers. -/
def operationLeads (id : OperationId) : List Lead :=
  let operation := definition.operationAt id
  operation.bodies.map (·.type, "Request") ++
    operation.parameters.map (fun property => ((definition.propertyAt property).type, "Request")) ++
    operation.responses.flatMap fun response =>
      response.body.toList.map (·.type, "Response") ++
        response.headers.map fun header => ((definition.propertyAt header).type, "Response")

/-- The path from an operation to the wanted type. -/
def operationPath (target : TypeId) (id : OperationId) : Option (List Segment) :=
  (pathFrom definition target (operationLeads definition id)).map fun path =>
    { word := (definition.operationAt id).name, type := none } :: path

/-- The path from an orphan to the wanted type. -/
def orphanPath (target orphan : TypeId) : Option (List Segment) :=
  pathFrom definition target [(orphan, nameOrWord definition orphan "")]

/-- The first path to the wanted type: from operations in their order, or else from orphans. -/
def contextPath (target : TypeId) (operations : List OperationId) (orphans : List TypeId) :
    Option (List Segment) :=
  (operations.findSome? (operationPath definition target)).or
    (orphans.findSome? (orphanPath definition target))

end

/-! ## Names -/

namespace Context

variable (context : Context)

/-- The name in clients of a type that was declared with one. -/
def typeName? (id : TypeId) : Option String :=
  (context.choices.clientName? (.type id)).or (context.definition.typeAt id).name?

/-- The name of the type at a part of a path. -/
def segmentName? (segment : Segment) : Option String :=
  segment.type.bind context.typeName?

/-- The name that a path makes, from its last operation or named type on. -/
def candidateName (path : List Segment) : String :=
  let isAnchor (segment : Segment) := segment.type.isNone || (context.segmentName? segment).isSome
  -- The parts after the last one with a name, and that one itself, make the name.
  let unanchored := path.reverse.takeWhile fun segment => !isAnchor segment
  let anchored := path.drop (path.length - (unanchored.length + 1))
  String.join (anchored.map fun segment =>
    Text.pascalCase ((context.segmentName? segment).getD segment.word))

/-- The name made up for a type; it is the same for the whole run. -/
def generatedName (id : TypeId) : Derive String := do
  -- The first name stays, although later operations may lead to the type as well.
  if let some name := (← get).names.kept.get? id then return name
  let definition := context.definition
  let path := contextPath definition id definition.operationIds definition.orphanTypes
  let candidate := (path.map context.candidateName).getD ""
  let (name, names) :=
    (← get).names.assign id (if candidate.isEmpty then "Anonymous" else candidate)
  modify fun state => { state with names }
  return name

end Context

end ClientModel.Derivation
