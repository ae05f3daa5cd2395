import ClientModel.Service.Definition

/-!
Drafts: service definitions under construction.

Every step that declares something hands out the identifier of the new declaration. Standard scalars
and intrinsic types are declared once each, so asking again yields the same identifier.
-/

namespace ClientModel.Service

/-- A definition under construction. -/
structure Draft where
  definition : Definition := {}
  standardScalars : OrderedMap String TypeId := {}
  intrinsics : OrderedMap Intrinsic TypeId := {}

/-- A step of a construction. -/
abbrev Drafting := StateM Draft

namespace Draft

/-! ## Writing to the tables -/

/-- Adds a type declaration. -/
def addType (declaration : TypeDecl) : Drafting TypeId :=
  fun draft =>
    let id : TypeId := ⟨draft.definition.types.size⟩
    (id, { draft with
      definition := { draft.definition with types := draft.definition.types.push declaration } })

/-- Adds a property declaration. -/
def addProperty (declaration : PropertyDecl) : Drafting PropertyId :=
  fun draft =>
    let id : PropertyId := ⟨draft.definition.properties.size⟩
    (id, { draft with
      definition := { draft.definition with
        properties := draft.definition.properties.push declaration } })

/-- Changes a type declaration. -/
def modifyType (id : TypeId) (change : TypeDecl → TypeDecl) : Drafting Unit :=
  modify fun draft =>
    { draft with
      definition := { draft.definition with
        types := draft.definition.types.modify id.index change } }

/-- Changes a property declaration. -/
def modifyProperty (id : PropertyId) (change : PropertyDecl → PropertyDecl) : Drafting Unit :=
  modify fun draft =>
    { draft with
      definition := { draft.definition with
        properties := draft.definition.properties.modify id.index change } }

/-- Changes an operation declaration. -/
def modifyOperation (id : OperationId) (change : Operation → Operation) : Drafting Unit :=
  modify fun draft =>
    { draft with
      definition := { draft.definition with
        operations := draft.definition.operations.modify id.index change } }

/-- Changes a container declaration. -/
def modifyContainer (id : ContainerId) (change : Container → Container) : Drafting Unit :=
  modify fun draft =>
    { draft with
      definition := { draft.definition with
        containers := draft.definition.containers.modify id.index change } }

/-- Changes the model that a type declares; other types stay as they are. -/
def modifyModel (id : TypeId) (change : Model → Model) : Drafting Unit :=
  modifyType id fun declaration =>
    match declaration.shape with
    | .model model => { declaration with shape := .model (change model) }
    | _ => declaration

/-- Changes the customizations. -/
def customize (change : Customizations → Customizations) : Drafting Unit :=
  modify fun draft =>
    { draft with
      definition := { draft.definition with
        customizations := change draft.definition.customizations } }

/-! ## Containers -/

/-- Declares a container and lists it in its parent. -/
def addContainer (name : String) (isInterface : Bool) (parent : Option ContainerId) :
    Drafting ContainerId := do
  let id : ContainerId := ⟨(← get).definition.containers.size⟩
  modify fun draft =>
    { draft with
      definition := { draft.definition with
        containers := draft.definition.containers.push { name, isInterface, parent } } }
  if let some parent := parent then
    modifyContainer parent fun declared => { declared with children := declared.children ++ [id] }
  return id

/-- Makes a container the root of a service. -/
def setService (container : ContainerId) (service : Info) : Drafting Unit :=
  modifyContainer container fun declared => { declared with service := some service }

/-- Changes the service that a container declares; without one, an empty service is changed. -/
def modifyService (container : ContainerId) (change : Info → Info) : Drafting Unit :=
  modifyContainer container fun declared =>
    { declared with service := some (change (declared.service.getD {})) }

/-! ## Types -/

/-- The standard scalar of a name. -/
def scalar (name : String) : Drafting TypeId := do
  match (← get).standardScalars.get? name with
  | some id => return id
  | none =>
    let id ← addType { shape := .scalar { name } }
    modify fun draft => { draft with standardScalars := draft.standardScalars.insert name id }
    return id

/-- Declares a scalar that extends another one. -/
def customScalar (name : String) (namespaceId : ContainerId) (base : TypeId) : Drafting TypeId :=
  addType { shape := .scalar { name, namespaceId := some namespaceId, base := some base } }

/-- Declares a standard scalar with an encoding of its own. -/
def encodedScalar (name encode : String) : Drafting TypeId := do
  let base ← scalar name
  addType { shape := .scalar { name, base := some base, encode := some encode } }

/-- An intrinsic type. -/
def intrinsic (kind : Intrinsic) : Drafting TypeId := do
  match (← get).intrinsics.get? kind with
  | some id => return id
  | none =>
    let id ← addType { shape := .intrinsic kind }
    modify fun draft => { draft with intrinsics := draft.intrinsics.insert kind id }
    return id

/-- Declares a type that admits one value. -/
def literal (value : Literal) : Drafting TypeId :=
  addType { shape := .literal value }

/-- Declares a member of an enum without listing it there. -/
def looseMember (member : Member) : Drafting TypeId :=
  addType { shape := .member member }

/-- Declares an enum and its members, in this order. -/
def enumeration (name : String) (namespaceId : Option ContainerId) (members : List String) :
    Drafting TypeId := do
  let id ← addType { shape := .enumeration { name, namespaceId } }
  let memberIds ← members.mapM fun member => looseMember { name := member, parent := id }
  modifyType id fun declaration =>
    { declaration with shape := .enumeration { name, namespaceId, members := memberIds } }
  return id

/-- Declares a union of types. -/
def union (name : Option String) (namespaceId : Option ContainerId) (variants : List TypeId) :
    Drafting TypeId :=
  addType { shape := .union { name, namespaceId, variants := variants.map fun type => { type } } }

/-- Declares the union of a type and `null`. -/
def nullable (type : TypeId) : Drafting TypeId := do
  let null ← intrinsic .null
  union none none [type, null]

/-- Declares an array type. -/
def array (element : TypeId) : Drafting TypeId :=
  addType { shape := .array element }

/-- Declares a type of records from names to values. -/
def record (value : TypeId) : Drafting TypeId :=
  addType { shape := .record value }

/-- Declares a model. -/
def model (declared : Model) : Drafting TypeId :=
  addType { shape := .model declared }

/-- Makes a model extend another one; a side that is no model is left as it is. -/
def setBase (derived base : TypeId) : Drafting Unit := do
  modifyModel derived fun model => { model with base := some base }
  modifyModel base fun model => { model with derived := model.derived ++ [derived] }

/-- Names the property that tells the derived models of a model apart. -/
def setDiscriminator (type : TypeId) (property : String) : Drafting Unit :=
  modifyModel type fun model => { model with discriminator := some property }

/-! ## Properties -/

/-- Declares a property of a model. -/
def property (model : TypeId) (name : String) (type : TypeId) : Drafting PropertyId := do
  let id ← addProperty { name, type, model := some model }
  modifyModel model fun declared => { declared with properties := declared.properties ++ [id] }
  return id

/-- Declares a property that belongs to no model. -/
def freeProperty (name : String) (type : TypeId) (binding : Option Binding) : Drafting PropertyId :=
  addProperty { name, type, binding }

/-! ## Operations -/

/-- Declares an operation and lists it in its container. -/
def operation (container : ContainerId) (name : String) (verb : Verb) (path : String) :
    Drafting OperationId := do
  let id : OperationId := ⟨(← get).definition.operations.size⟩
  modify fun draft =>
    { draft with
      definition := { draft.definition with
        operations := draft.definition.operations.push { name, container, verb, path } } }
  modifyContainer container fun declared =>
    { declared with operations := declared.operations ++ [id] }
  return id

/-- Appends a property to the declared parameters of an operation. -/
def declareParameter (operation : OperationId) (property : PropertyId) : Drafting Unit :=
  modifyOperation operation fun declared =>
    { declared with parameters := declared.parameters ++ [property] }

/-- Appends a parameter to the request of an operation. -/
def addSlot (operation : OperationId) (slot : WireSlot) : Drafting Unit :=
  modifyOperation operation fun declared => { declared with slots := declared.slots ++ [slot] }

/-- Appends a body to the request of an operation. -/
def addBody (operation : OperationId) (body : BodyDecl) : Drafting Unit :=
  modifyOperation operation fun declared => { declared with bodies := declared.bodies ++ [body] }

/-- Appends a response to an operation. -/
def addResponse (operation : OperationId) (response : ResponseDecl) : Drafting Unit :=
  modifyOperation operation fun declared =>
    { declared with responses := declared.responses ++ [response] }

/-- Declares a parameter of an operation that goes where its binding says. -/
def parameter (operation : OperationId) (name : String) (type : TypeId) (binding : Binding) :
    Drafting PropertyId := do
  let id ← freeProperty name type (some binding)
  declareParameter operation id
  match binding.location? with
  | some .body => addBody operation { property := some id, type }
  | location => addSlot operation { property := id, location }
  return id

/-- Declares a parameter of an operation that is no part of the request. -/
def methodParameter (operation : OperationId) (name : String) (type : TypeId) :
    Drafting PropertyId := do
  let id ← freeProperty name type none
  declareParameter operation id
  return id

/-- Copies parameters into an anonymous model and makes it a body of the operation. -/
def spreadBody (operation : OperationId) (parameters : List PropertyId)
    (contentTypes : List String) : Drafting TypeId := do
  let body ← model {}
  for parameter in parameters do
    let source := (← get).definition.propertyAt parameter
    let copy ← property body source.name source.type
    modifyProperty copy fun declared =>
      { declared with
        optional := source.optional
        wireName := source.wireName
        source := some parameter }
  addBody operation { type := body, contentTypes, spread := true }
  return body

end Draft

end ClientModel.Service
