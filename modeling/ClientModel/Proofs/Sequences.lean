import ClientModel.Proofs.Constructions

/-!
Sequences of calls that construct a definition.

A call is given identifiers that earlier calls handed out. Then whatever was handed out is declared,
and so is whatever the declarations cite.
-/

namespace ClientModel.Service.Draft

variable {known : List Declaration}

/-- The members that a type lists, if it is an enum. -/
def members (enumeration : TypeId) : Drafting (List TypeId) := do
  match (← get).definition.shapeAt enumeration with
  | .enumeration declared => return declared.members
  | _ => return []

/-- The members of an enum that is known are declared. -/
theorem members_gives (enumeration : TypeId) (cites : .type enumeration ∈ known) :
    Gives known (members enumeration) fun ids => ids.map .type := by
  refine Gives.get_bind fun draft coherent there => ?_
  have given := coherent.closed.typeAt (there _ cites)
  rw [TypeDecl.cites] at given
  -- Only an enum has members, and a coherent draft declares them all.
  split
  · rename_i declared isEnumeration
    rw [Definition.shapeAt] at isEnumeration
    rw [isEnumeration] at given
    exact ⟨_, given, Gives.pure _ (by simp [Shape.cites])⟩
  · exact ⟨[], by simp, Gives.pure _ (by simp)⟩

/-! ## Calls -/

/-- A call that declares something, changes a declaration or reads one. -/
inductive Call where
  | container (name : String) (isInterface : Bool) (parent : Option ContainerId)
  | setService (container : ContainerId) (service : Info)
  | modifyService (container : ContainerId) (change : Info → Info)
  | addType (declaration : TypeDecl)
  | modifyType (id : TypeId) (change : TypeDecl → TypeDecl)
  | modifyModel (id : TypeId) (change : Model → Model)
  | scalar (name : String)
  | customScalar (name : String) (namespaceId : ContainerId) (base : TypeId)
  | encodedScalar (name encode : String)
  | intrinsic (kind : Intrinsic)
  | literal (value : Literal)
  | enumeration (name : String) (namespaceId : Option ContainerId) (members : List String)
  | members (enumeration : TypeId)
  | union (name : Option String) (namespaceId : Option ContainerId) (variants : List TypeId)
  | nullable (type : TypeId)
  | array (element : TypeId)
  | record (value : TypeId)
  | model (declared : Model)
  | setBase (derived base : TypeId)
  | setDiscriminator (type : TypeId) (property : String)
  | property (model : TypeId) (name : String) (type : TypeId)
  | freeProperty (name : String) (type : TypeId) (binding : Option Binding)
  | modifyProperty (id : PropertyId) (change : PropertyDecl → PropertyDecl)
  | operation (container : ContainerId) (name : String) (verb : Verb) (path : String)
  | modifyOperation (id : OperationId) (change : Operation → Operation)
  | parameter (operation : OperationId) (name : String) (type : TypeId) (binding : Binding)
  | methodParameter (operation : OperationId) (name : String) (type : TypeId)
  | addSlot (operation : OperationId) (slot : WireSlot)
  | spreadBody (operation : OperationId) (parameters : List PropertyId)
      (contentTypes : List String)
  | addBody (operation : OperationId) (body : BodyDecl)
  | addResponse (operation : OperationId) (response : ResponseDecl)
  | setLocation (id : OperationId) (scope : Option String) (target : ContainerId)
  | addClient (container : ContainerId) (scope : Option String) (client : ClientDecl)
  | customize (change : Customizations → Customizations)

namespace Call

/-- The identifiers among the arguments of a call, also those within declarations. -/
def arguments : Call → List Declaration
  | .container _ _ parent => parent.toList.map .container
  | .setService home service => .container home :: service.cites
  | .modifyService home _ => [.container home]
  | .addType declaration => declaration.cites
  | .modifyType id _ | .modifyModel id _ | .members id => [.type id]
  | .scalar _ | .encodedScalar _ _ | .intrinsic _ | .literal _ => []
  | .customScalar _ home base => [.container home, .type base]
  | .enumeration _ home _ => home.toList.map .container
  | .union _ home variants => home.toList.map .container ++ variants.map .type
  | .nullable id | .array id | .record id => [.type id]
  | .model declared => (Shape.model declared).cites
  | .setBase derived base => [.type derived, .type base]
  | .setDiscriminator id _ => [.type id]
  | .property owner _ type => [.type owner, .type type]
  | .freeProperty _ type _ => [.type type]
  | .modifyProperty id _ => [.property id]
  | .operation home _ _ _ => [.container home]
  | .modifyOperation id _ => [.operation id]
  | .parameter id _ type _ | .methodParameter id _ type => [.operation id, .type type]
  | .addSlot id slot => [.operation id, .property slot.property]
  | .spreadBody id parameters _ => .operation id :: parameters.map .property
  | .addBody id body => .operation id :: body.cites
  | .addResponse id response => .operation id :: response.cites
  | .setLocation id _ target => [.operation id, .container target]
  | .addClient home _ _ => [.container home]
  | .customize _ => []

/--
A change brings in no identifiers but the known ones. An operation stays in its container, and which
operations are moved and which containers are clients is said by calls of their own.
-/
def IsTame (known : List Declaration) : Call → Prop
  | .modifyService _ change => ∀ service, (change service).cites ⊆ service.cites ++ known
  | .modifyType _ change => ∀ declaration, (change declaration).cites ⊆ declaration.cites ++ known
  | .modifyModel _ change => ∀ declared,
    (Shape.model (change declared)).cites ⊆ (Shape.model declared).cites ++ known
  | .modifyProperty _ change => ∀ declaration,
    (change declaration).cites ⊆ declaration.cites ++ known
  | .modifyOperation _ change => ∀ declared,
    (change declared).container = declared.container ∧
      (change declared).cites ⊆ declared.cites ++ known
  | .customize change => ∀ all,
    (change all).locations = all.locations ∧ (change all).clients = all.clients
  | _ => True

/-- Makes a call, and hands out the identifiers that it returns. -/
def perform : Call → Drafting (List Declaration)
  | .container name isInterface parent => do
    return [.container (← Draft.addContainer name isInterface parent)]
  | .setService home service => do
    Draft.setService home service
    return []
  | .modifyService home change => do
    Draft.modifyService home change
    return []
  | .addType declaration => do return [.type (← Draft.addType declaration)]
  | .modifyType id change => do
    Draft.modifyType id change
    return []
  | .modifyModel id change => do
    Draft.modifyModel id change
    return []
  | .scalar name => do return [.type (← Draft.scalar name)]
  | .customScalar name home base => do return [.type (← Draft.customScalar name home base)]
  | .encodedScalar name encode => do return [.type (← Draft.encodedScalar name encode)]
  | .intrinsic kind => do return [.type (← Draft.intrinsic kind)]
  | .literal value => do return [.type (← Draft.literal value)]
  | .enumeration name home names => do return [.type (← Draft.enumeration name home names)]
  | .members id => do return (← Draft.members id).map .type
  | .union name home variants => do return [.type (← Draft.union name home variants)]
  | .nullable id => do return [.type (← Draft.nullable id)]
  | .array id => do return [.type (← Draft.array id)]
  | .record id => do return [.type (← Draft.record id)]
  | .model declared => do return [.type (← Draft.model declared)]
  | .setBase derived base => do
    Draft.setBase derived base
    return []
  | .setDiscriminator id name => do
    Draft.setDiscriminator id name
    return []
  | .property owner name type => do return [.property (← Draft.property owner name type)]
  | .freeProperty name type binding => do
    return [.property (← Draft.freeProperty name type binding)]
  | .modifyProperty id change => do
    Draft.modifyProperty id change
    return []
  | .operation home name verb path => do
    return [.operation (← Draft.operation home name verb path)]
  | .modifyOperation id change => do
    Draft.modifyOperation id change
    return []
  | .parameter id name type binding => do
    return [.property (← Draft.parameter id name type binding)]
  | .methodParameter id name type => do
    return [.property (← Draft.methodParameter id name type)]
  | .addSlot id slot => do
    Draft.addSlot id slot
    return []
  | .spreadBody id parameters contentTypes => do
    return [.type (← Draft.spreadBody id parameters contentTypes)]
  | .addBody id body => do
    Draft.addBody id body
    return []
  | .addResponse id response => do
    Draft.addResponse id response
    return []
  | .setLocation id scope target => do
    Draft.customize fun all => all.setLocation id scope target
    return []
  | .addClient home scope client => do
    Draft.customize fun all => all.addClient home scope client
    return []
  | .customize change => do
    Draft.customize change
    return []

/-- A call that is given what is known keeps drafts coherent, and hands out what is declared. -/
theorem gives (call : Call) (cites : call.arguments ⊆ known) (tame : call.IsTame known) :
    Gives known call.perform fun ids => ids := by
  -- What a program gives is handed out as it is.
  have handed {α : Type} {program : Drafting α} {ids : α → List Declaration}
      (gives : Gives known program ids) :
      Gives known (do return ids (← program)) fun handed => handed :=
    gives.bind fun _ => Gives.pure _ (List.subset_append_right _ _)
  -- Each call is the program of its kind; tame calls change declarations within what is known.
  cases call with
  | container name isInterface parent =>
    exact handed (addContainer_gives name isInterface parent cites)
  | setService container service =>
    exact handed (setService_gives container service (List.subset_of_cons_subset cites))
  | modifyService container change => exact handed (modifyService_gives container tame)
  | addType declaration => exact handed (addType_gives declaration cites)
  | modifyType id change => exact handed (modifyType_gives id tame)
  | modifyModel id change => exact handed (modifyModel_gives id tame)
  | scalar name => exact handed (scalar_gives name)
  | customScalar name home base =>
    exact handed (addType_gives _ (by simpa [TypeDecl.cites, Shape.cites, arguments] using cites))
  | encodedScalar name encode => exact handed (encodedScalar_gives name encode)
  | intrinsic kind => exact handed (intrinsic_gives kind)
  | literal value => exact handed (addType_gives _ (by simp [TypeDecl.cites, Shape.cites]))
  | enumeration name home names =>
    exact handed (enumeration_gives name home names cites)
  | members enumeration =>
    exact handed (members_gives enumeration (cites (List.mem_singleton_self _)))
  | union name home variants =>
    refine handed (addType_gives _ ?_)
    simp only [TypeDecl.cites, Shape.cites, List.map_map]
    exact cites
  | nullable type => exact handed (nullable_gives type (cites (List.mem_singleton_self _)))
  | array element => exact handed (addType_gives _ cites)
  | record value => exact handed (addType_gives _ cites)
  | model declared => exact handed (addType_gives _ cites)
  | setBase derived base => exact handed (setBase_gives derived base cites)
  | setDiscriminator type property =>
    exact handed (modifyModel_gives type fun _ => List.subset_append_left _ _)
  | property model name type => exact handed (property_gives model name type cites)
  | freeProperty name type binding =>
    exact handed (addProperty_gives _ (by simpa [PropertyDecl.cites, arguments] using cites))
  | modifyProperty id change => exact handed (modifyProperty_gives id tame)
  | operation container name verb path =>
    exact handed (operation_gives container name verb path (cites (List.mem_singleton_self _)))
  | modifyOperation id change =>
    exact handed (modifyOperation_gives id (fun declared => (tame declared).1)
      fun declared => (tame declared).2)
  | parameter operation name type binding =>
    exact handed (parameter_gives operation name type binding (cites (by simp [arguments])))
  | methodParameter operation name type =>
    exact handed (methodParameter_gives operation name type (cites (by simp [arguments])))
  | addSlot operation slot =>
    exact handed (addSlot_gives operation slot (cites (by simp [arguments])))
  | spreadBody operation parameters contentTypes =>
    exact handed (spreadBody_gives operation parameters contentTypes
      (List.subset_of_cons_subset cites))
  | addBody operation body =>
    exact handed (addBody_gives operation body (List.subset_of_cons_subset cites))
  | addResponse operation response =>
    exact handed (addResponse_gives operation response (List.subset_of_cons_subset cites))
  | setLocation id scope target =>
    refine handed (customize_gives fun draft made there => ?_)
    have isThere := there (.operation id) (cites (by simp [arguments]))
    exact made.location id scope target isThere
  | addClient container scope client =>
    exact handed (customize_gives fun draft made there => made.client container scope client)
  | customize change =>
    exact handed (customize_gives fun draft made there =>
      made.customize (fun all => (tame all).1) fun all => (tame all).2)

end Call

/-- A draft that calls lead to, and the identifiers that they have handed out. -/
inductive IsDrafted : Draft → List Declaration → Prop
  | start : IsDrafted {} []
  | call {draft : Draft} {handed : List Declaration} (drafted : draft.IsDrafted handed)
      (call : Call) (cites : call.arguments ⊆ handed) (tame : call.IsTame handed) :
      IsDrafted (call.perform.run draft).2 (handed ++ (call.perform.run draft).1)

namespace IsDrafted

variable {draft : Draft} {handed : List Declaration}

/-- Calls lead to coherent drafts, and all that they have handed out is declared. -/
theorem coherent (drafted : draft.IsDrafted handed) :
    draft.IsCoherent ∧ draft.definition.DeclaresAll handed := by
  -- By induction on the calls; what was handed out before stays declared.
  induction drafted with
  | start => exact ⟨.empty, Definition.declaresAll_nil⟩
  | call _ call cites tame ih =>
    obtain ⟨coherent, there⟩ := ih
    have yields := call.gives cites tame _ coherent there
    exact ⟨yields.coherent, (there.mono yields.grown).append yields.there⟩

end IsDrafted

end ClientModel.Service.Draft
