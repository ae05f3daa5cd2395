import ClientModel.Derivation.Naming
import ClientModel.Service.Payload

/-!
The nodes of type declarations.

Every declaration has one node. Models, enums and unions are recorded before what they refer to is
looked at, so that declarations which refer to themselves come back to the node that is already
there.
-/

namespace ClientModel.Derivation

open Service (Enumeration Intrinsic Literal Model Scalar Shape Union Variant)

/-- A name within a namespace, which may be empty. -/
def qualified («namespace» name : String) : String :=
  if «namespace».isEmpty then name else «namespace» ++ "." ++ name

/-- The properties with the first of a wire name made a discriminator, if there is one. -/
def markDiscriminator? (properties : List Property) (serializedName : String) :
    Option (List Property) :=
  match properties with
  | [] => none
  | property :: rest =>
    if property.serializedName == serializedName then
      some ({ property with role := .member true } :: rest)
    else (markDiscriminator? rest serializedName).map (property :: ·)

/-- The text that a constant or a value of an enum stands for. -/
def Node.constantText? (node : Node) : Option String :=
  match node.kind with
  | .constant constant => constant.value.text?
  | .enumValue value => value.value.text?
  | _ => none

/-- The text to which a model fixes the property of a wire name. -/
def discriminatorValue? (catalogue : Catalogue) (child : NodeId) (serializedName : String) :
    Option String := do
  let model ← catalogue.model? child
  let property ← model.properties.find? fun property => property.serializedName == serializedName
  Node.constantText? (catalogue.nodeAt property.type)

namespace Context

variable (context : Context)

/-- The full name of the namespace that a type is declared in. -/
def namespaceName (id : TypeId) : String :=
  ((context.definition.typeAt id).namespace?.map context.definition.fullName).getD ""

/-- The name of a model or of a flattened union, and whether it had to be made up. -/
def nameOrGenerated (id : TypeId) (declared : Option String) : Derive (String × Bool) :=
  match declared with
  | some name => return (context.nameOf (.type id) name, false)
  | none => return (← context.generatedName id, true)

/-! ## Shapes

Each function takes as its first argument the step that derives the node of another type.
-/

section

variable (derive : TypeId → Derive NodeId)

/-- Derives the node of the base of a custom scalar. -/
def scalarBase? (scalar : Scalar) : Derive (Option NodeId) :=
  -- A scalar outside of any namespace only adds an encoding to its base.
  match scalar.namespaceId, scalar.base with
  | some _, some base => some <$> derive base
  | _, _ => return none

/-- Derives the node of a scalar. -/
def scalarNode (id : TypeId) (scalar : Scalar) : Derive NodeId := do
  let definition := context.definition
  let kind := BuiltinKind.ofScalarName ((definition.standardScalar? id).getD "")
  -- The base has its node before this one is remembered.
  let base ← scalarBase? derive scalar
  let encode ← answerOf .endlessBases (definition.encoding? id)
  let node ← addNode
    { origin := some id
      kind := .builtin
        { kind
          name := context.nameOf (.type id) scalar.name
          encode := encode.or kind.defaultEncode
          base } }
  remember id node
  return node

/-- Derives the node of an intrinsic type. -/
def intrinsicNode (id : TypeId) (intrinsic : Intrinsic) : Derive NodeId := do
  let node ←
    -- Any value at all is what a primitive kind stands for already.
    if intrinsic == .unknown then builtinNode .any intrinsic.name
    else
      addNode
        { origin := some id
          nullable := intrinsic == .null
          kind := .builtin { kind := .any, name := intrinsic.name } }
  remember id node
  return node

/-- Derives the node of a type with a single value. -/
def literalNode (id : TypeId) (value : Literal) : Derive NodeId := do
  let node ← addConstant value none
  modifyNode node fun constant => { constant with origin := some id }
  remember id node
  return node

/-- Derives the node of an enum and those of its members. -/
def enumerationNode (id : TypeId) (enumeration : Enumeration) : Derive NodeId := do
  let name := context.nameOf (.type id) enumeration.name
  let «namespace» := context.namespaceName id
  let members := enumeration.members.filterMap fun memberId =>
    match context.definition.shapeAt memberId with
    | .member member => some (memberId, member)
    | _ => none
  -- A member without a value stands for its name.
  let valueOf (member : Service.Member) : Literal := member.value.getD (.text member.name)
  let node ← addNode
    { origin := some id
      kind := .enumeration
        { name
          «namespace»
          valueKind := .ofLiterals (members.map fun (_, member) => valueOf member)
          crossId := qualified «namespace» name } }
  remember id node
  -- The members refer to the node of the enum, which lists them once they are there.
  let values ← members.mapM fun (memberId, member) => do
    let value ← addNode
      { origin := some memberId
        kind := .enumValue
          { name := context.nameOf (.type memberId) member.name
            value := valueOf member
            enumeration := node } }
    remember memberId value
    return value
  modifyNode node fun parent => parent.mapEnumeration ({ · with values })
  return node

/-- The names and texts of a union that can be flattened, and whether it admits no other text. -/
def flattened? (variants : List Variant) : Option (List (String × String) × Bool) := do
  -- A text is `some (some _)`, all texts are `some none`, and nothing else is flattened.
  let texts ← variants.mapM fun variant =>
    match context.definition.shapeAt variant.type with
    | .literal (.text value) => some (some (variant.name.getD value, value))
    | .scalar _ =>
      if context.definition.standardScalar? variant.type == some "string" then some none else none
    | _ => none
  let literals := texts.filterMap fun text => text
  if literals.isEmpty then none else some (literals, texts.all Option.isSome)

/-- Derives the enum that a union of literal texts, and maybe of all texts, comes to. -/
def flattenedNode (id : TypeId) (union : Union) (nullable : Bool)
    (literals : List (String × String)) (isFixed : Bool) : Derive NodeId := do
  let «namespace» := context.namespaceName id
  let (name, isGeneratedName) ← context.nameOrGenerated id union.name
  let node ← addNode
    { origin := some id
      nullable
      kind := .enumeration
        { name
          isGeneratedName
          «namespace»
          valueKind := .string
          isFixed
          isFlattenedUnion := true
          crossId := qualified «namespace» name } }
  remember id node
  let values ← literals.mapM fun (name, value) =>
    addNode { kind := .enumValue { name, value := .text value, enumeration := node } }
  modifyNode node fun parent => parent.mapEnumeration ({ · with values })
  return node

/-- The name of a union in clients, and whether it had to be made up. -/
def unionName? (id : TypeId) (union : Union) (nullable : Bool) (variants : List Variant) :
    Derive (Option String × Bool) := do
  -- A single type that may be null needs no name for the union.
  if union.name.isNone && nullable && variants.length == 1 then return (none, false)
  else
    let (name, isGeneratedName) ← context.nameOrGenerated id union.name
    return (some name, isGeneratedName)

/-- Derives the node of a union that admits more than null. -/
def variantsNode (id : TypeId) (union : Union) (nullable : Bool) (variants : List Variant) :
    Derive NodeId := do
  let «namespace» := context.namespaceName id
  let (name, isGeneratedName) ← context.unionName? id union nullable variants
  let node ← addNode
    { origin := some id
      nullable
      kind := .union
        { name
          isGeneratedName
          «namespace»
          crossId := (name.map (qualified «namespace»)).getD "" } }
  -- A variant may lead back to the union.
  remember id node
  let variants ← variants.mapM fun variant => derive variant.type
  modifyNode node fun parent => parent.mapUnion ({ · with variants })
  return node

/-- Derives the node of a union. -/
def unionNode (id : TypeId) (union : Union) : Derive NodeId := do
  -- Null is no variant; it makes the node nullable.
  let variants := union.variants.filter fun variant => !context.definition.isNull variant.type
  let nullable := variants.length != union.variants.length
  match variants, union.variants with
  | [], [] =>
    let node ← builtinNode .any "unknown"
    remember id node
    return node
  | [], null :: _ =>
    let node ← derive null.type
    remember id node
    return node
  | variants, _ =>
    match if context.options.flattensUnions then context.flattened? variants else none with
    | some (literals, isFixed) => context.flattenedNode id union nullable literals isFixed
    | none => context.variantsNode derive id union nullable variants

/-- Derives a property of a model. -/
def memberProperty (owner : NodeId) (ownerId : String) (id : PropertyId) : Derive Property := do
  let declared := context.definition.propertyAt id
  let type ← derive declared.type
  return {
    origin := some id
    name := declared.name
    clientName := context.propertyName id
    serializedName := declared.serializedName
    owner := some owner
    type
    optional := declared.optional
    role := .member false
    clientDefault := declared.defaultValue
    crossId := ownerId ++ "." ++ declared.name
    deprecation := declared.deprecation
    doc := declared.doc
  }

/-- Derives a subtype, and lists it by the text that its discriminator is fixed to. -/
def addSubtype (discriminator : String) (subtypes : OrderedMap String NodeId) (derived : TypeId) :
    Derive (OrderedMap String NodeId) := do
  let child ← derive derived
  -- The properties of a subtype that is still being derived are not there to be read.
  match discriminatorValue? (← get).catalogue child discriminator with
  | some value =>
    modifyNode child fun node => node.mapModel fun model =>
      { model with
        discriminatorValue := some value
        properties := (markDiscriminator? model.properties discriminator).getD model.properties }
    return subtypes.insert value child
  | none =>
    reportError (.type derived) Code.discriminatorNotConstant
      ("subtype does not set discriminator '" ++ discriminator ++ "' to a constant value")
    return subtypes

/-- Records on a model which property tells its subtypes apart, and the subtypes. -/
def addDiscriminator (node : NodeId) (model : Model) (discriminator : String) : Derive Unit := do
  let subtypes ← model.derived.foldlM (addSubtype derive discriminator) {}
  let string ← stringNode
  modifyNode node fun parent => parent.mapModel fun model =>
    -- A discriminator that no property declares is made up, and comes first.
    let synthesized : Property :=
      { name := discriminator
        type := string
        role := .member true
        owner := some node
        isGeneratedName := true
        crossId := model.crossId ++ "." ++ discriminator }
    { model with
      discriminatorProperty := some discriminator
      properties :=
        (markDiscriminator? model.properties discriminator).getD (synthesized :: model.properties)
      subtypes := if subtypes.isEmpty then model.subtypes else some subtypes }

/-- The nodes of what a model extends: its base, or the values of a record that stands for one. -/
def inheritance (model : Model) : Derive (Option NodeId × Option NodeId) :=
  match model.base with
  | none => return (none, none)
  | some base =>
    -- A record as a base stands for additional properties.
    match context.definition.shapeAt base with
    | .record value => return (none, some (← derive value))
    | _ => return (some (← derive base), none)

/-- The node of the additional properties of a model, which may be those it inherits. -/
def additionalNode? (model : Model) (inherited : Option NodeId) : Derive (Option NodeId) :=
  match model.additionalProperties with
  | some value => some <$> derive value
  | none => return inherited

/-- The properties that a model has in clients: those that carry a value. -/
def memberIds (model : Model) : List PropertyId :=
  model.properties.filter fun property =>
    !context.definition.isVoidLike (context.definition.propertyAt property).type

/-- Records on a model what tells its subtypes apart, if it declares that. -/
def addDiscriminator? (node : NodeId) (model : Model) : Derive Unit := do
  if let some discriminator := model.discriminator then
    addDiscriminator derive node model discriminator

/-- Derives the node of a model. -/
def modelNode (id : TypeId) (model : Model) : Derive NodeId := do
  let (name, isGeneratedName) ← context.nameOrGenerated id model.name
  let «namespace» := context.namespaceName id
  let crossId := qualified «namespace» name
  let node ← addNode
    { origin := some id
      kind := .model { name, isGeneratedName, «namespace», isError := model.isError, crossId } }
  remember id node
  -- Properties are there before the base is met: a base reads the discriminators of its subtypes.
  let properties ← (context.memberIds model).mapM (context.memberProperty derive node crossId)
  modifyNode node fun parent => parent.mapModel ({ · with properties })
  let (base, inherited) ← context.inheritance derive model
  let additionalProperties ← additionalNode? derive model inherited
  modifyNode node fun parent => parent.mapModel ({ · with base, additionalProperties })
  addDiscriminator? derive node model
  return node

/-- Derives the node of a type by what it declares. -/
def shapeNode (id : TypeId) : Shape → Derive NodeId
  | .scalar scalar => context.scalarNode derive id scalar
  | .intrinsic intrinsic => intrinsicNode id intrinsic
  | .literal value => literalNode id value
  | .enumeration enumeration => context.enumerationNode id enumeration
  | .member member => do
    let _ ← derive member.parent
    match (← get).declared.get? id with
    | some node => return node
    | none => throw (.violation (.memberNotRegistered id))
  | .union union => context.unionNode derive id union
  | .array element => do
    let value ← derive element
    let node ← addNode { origin := some id, kind := .array value }
    remember id node
    return node
  | .record element => do
    let key ← stringNode
    let value ← derive element
    let node ← addNode { origin := some id, kind := .dict key value }
    remember id node
    return node
  | .model model => context.modelNode derive id model

end

/-! ## Declarations -/

/-- Derives the node of a declaration, with at most the given number of references on the way. -/
def nodeWithin : Nat → TypeId → Derive NodeId
  | 0, id => throw (.violation (.unguardedCycle id))
  | steps + 1, id => do
    -- A copy of a named model has no node of its own.
    let id := context.definition.payloadType id
    match (← get).declared.get? id with
    | some node => return node
    | none =>
      let declaration := context.definition.typeAt id
      let node ← context.shapeNode (nodeWithin steps) id declaration.shape
      modifyNode node fun derived =>
        -- A node that is shared with another type tells nothing about this one.
        if derived.origin == some id then
          { derived with deprecation := declaration.deprecation, doc := declaration.doc }
        else derived
      return node

/--
The number of references that no way through the declarations exceeds.

Between two models or unions on the way, no type comes twice, and no model or union itself does.
-/
def referenceBound : Nat :=
  (context.definition.types.size + 1) * (context.definition.types.size + 1) + 1

/-- The node of a declaration; the one that is there already, if it was met before. -/
def node (id : TypeId) : Derive NodeId :=
  context.nodeWithin context.referenceBound id

end Context

end ClientModel.Derivation
