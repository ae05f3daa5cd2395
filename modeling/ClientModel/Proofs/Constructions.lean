import ClientModel.Proofs.Citations

/-!
What the steps of a construction keep, one step after the other.

A step that is given declarations that are there leaves every declaration where it is, and hands out
declarations that are there as well. Programs of several steps are told by the same words.
-/

namespace ClientModel.Service.Draft

variable {draft after : Draft} {α β : Type} {known more : List Declaration}

/-- A draft that was made by steps, and in which all that is cited is declared. -/
structure IsCoherent (draft : Draft) : Prop where
  made : draft.IsMade
  closed : draft.definition.IsClosed
  scalars : ∀ name id, draft.standardScalars.get? name = some id →
    draft.definition.Declares (.type id)
  intrinsics : ∀ kind id, draft.intrinsics.get? kind = some id →
    draft.definition.Declares (.type id)

/-- A draft that has nothing in it is coherent. -/
theorem IsCoherent.empty : ({} : Draft).IsCoherent where
  made := .empty
  closed := .empty
  scalars _ _ found := by cases found
  intrinsics _ _ found := by cases found

/-- A draft that comes of another one, with these declarations handed out. -/
structure Yields (before after : Draft) (ids : List Declaration) : Prop where
  coherent : after.IsCoherent
  grown : before.definition.GrowsInto after.definition
  there : after.definition.DeclaresAll ids

/-- Given the known declarations, a program leads to coherent drafts and hands out others. -/
def Gives (known : List Declaration) (program : Drafting α) (ids : α → List Declaration) : Prop :=
  ∀ draft : Draft, draft.IsCoherent → draft.definition.DeclaresAll known →
    draft.Yields (program.run draft).2 (ids (program.run draft).1)

namespace Gives

variable {ids : α → List Declaration} {others : β → List Declaration}

/-- To return what is known gives no more than is known. -/
theorem pure (value : α) (listed : ids value ⊆ known) :
    Gives known (Pure.pure value : Drafting α) ids :=
  fun _ coherent there => ⟨coherent, .refl _, there.of_subset listed⟩

/-- More may be known than is needed. -/
theorem mono {program : Drafting α} (gives : Gives known program ids) (needed : known ⊆ more) :
    Gives more program ids :=
  fun draft coherent there => gives draft coherent (there.of_subset needed)

/-- What one program gives is known to the next. -/
theorem bind {program : Drafting α} {next : α → Drafting β} (first : Gives known program ids)
    (second : ∀ value, Gives (known ++ ids value) (next value) others) :
    Gives known (program >>= next) others := by
  -- The second program starts where the first one ended, and there all that was known is still
  -- declared.
  intro draft coherent there
  obtain ⟨coherent, grown, given⟩ := first draft coherent there
  obtain ⟨coherent, further, given⟩ := second _ _ coherent ((there.mono grown).append given)
  exact ⟨coherent, grown.trans further, given⟩

/-- A program that reads the draft may take from it what is declared there. -/
theorem get_bind {next : Draft → Drafting β}
    (each : ∀ draft : Draft, draft.IsCoherent → draft.definition.DeclaresAll known →
      ∃ found, draft.definition.DeclaresAll found ∧ Gives (known ++ found) (next draft) others) :
    Gives known (get >>= next) others := by
  -- What the draft holds is known because the draft is coherent, so it may be cited from here on.
  intro draft coherent there
  obtain ⟨found, isThere, gives⟩ := each draft coherent there
  exact gives draft coherent (there.append isThere)

/-- To make a step for each entry of a list gives what the steps give, all together. -/
theorem mapM {step : β → Drafting α} (list : List β)
    (each : ∀ entry ∈ list, Gives known (step entry) ids) :
    Gives known (list.mapM step) fun values => values.flatMap ids := by
  -- By induction on the list; the values are put together after all steps are made.
  induction list with
  | nil =>
    rw [List.mapM_nil]
    exact pure [] (by simp)
  | cons entry rest ih =>
    rw [List.mapM_cons]
    have later := ih fun other member => each other (List.mem_cons_of_mem _ member)
    refine (each entry List.mem_cons_self).bind fun value => ?_
    refine (later.mono (List.subset_append_left _ _)).bind fun values => ?_
    exact pure _ (by simp)

/-- A loop over a list gives nothing, if its steps do not either. -/
theorem forIn {step : β → α → Drafting (ForInStep α)} (list : List β)
    (each : ∀ entry ∈ list, ∀ found, Gives known (step entry found) fun _ => []) :
    ∀ first, Gives known (ForIn.forIn list first step) fun _ => [] := by
  -- By induction on the list; the loop may end early, and nothing is told of its result.
  induction list with
  | nil =>
    intro first
    rw [List.forIn_nil]
    exact pure _ (by simp)
  | cons entry rest ih =>
    intro first
    rw [List.forIn_cons]
    refine (each entry List.mem_cons_self first).bind fun result => ?_
    rw [List.append_nil]
    cases result with
    | done value => exact pure _ (by simp)
    | yield value => exact ih (fun other member => each other (List.mem_cons_of_mem _ member)) value

end Gives

/-! ## Single steps -/

/-- Most steps leave alone which types are declared once each. -/
theorem Yields.of_tables (coherent : draft.IsCoherent) {ids : List Declaration}
    (made : after.IsMade) (closed : after.definition.IsClosed)
    (grown : draft.definition.GrowsInto after.definition)
    (scalars : after.standardScalars = draft.standardScalars)
    (intrinsics : after.intrinsics = draft.intrinsics)
    (there : after.definition.DeclaresAll ids) : draft.Yields after ids where
  -- Neither table was written to, so all that they list is declared in the larger definition.
  coherent :=
    { made
      closed
      scalars := fun name id found => (coherent.scalars name id (scalars ▸ found)).mono grown
      intrinsics := fun kind id found =>
        (coherent.intrinsics kind id (intrinsics ▸ found)).mono grown }
  grown := grown
  there := there

/-- A type that cites what is known may be added, and is given. -/
theorem addType_gives (declaration : TypeDecl) (cites : declaration.cites ⊆ known) :
    Gives known (addType declaration) fun id => [.type id] := by
  -- The new entry is the last of its table, and all that it cites is declared.
  intro draft coherent there
  have grown : draft.definition.GrowsInto ((addType declaration).run draft).2.definition :=
    { Definition.GrowsInto.refl _ with types := by simp [addType, StateT.run] }
  have closed := coherent.closed.mono grown
  refine .of_tables coherent (coherent.made.addType declaration) ?_ grown rfl rfl ?_
  · exact { closed with types := closed.types.push ((there.mono grown).of_subset cites) }
  · simp [Definition.Declares, addType, StateT.run]

/-- A type may be changed so that it cites nothing but what it did and what is known. -/
theorem modifyType_gives (id : TypeId) {change : TypeDecl → TypeDecl}
    (cites : ∀ declaration, (change declaration).cites ⊆ declaration.cites ++ known) :
    Gives known (modifyType id change) fun _ => [] := by
  -- The table has as many entries as before, and one of them has changed if any has.
  intro draft coherent there
  have grown : draft.definition.GrowsInto ((modifyType id change).run draft).2.definition :=
    { Definition.GrowsInto.refl _ with types := Nat.le_of_eq Array.size_modify.symm }
  have closed := coherent.closed.mono grown
  refine .of_tables coherent (coherent.made.modifyType id change) ?_ grown rfl rfl (by simp)
  exact { closed with types := closed.types.modify (there.mono grown) id.index cites }

/-- A property that cites what is known may be added, and is given. -/
theorem addProperty_gives (declaration : PropertyDecl) (cites : declaration.cites ⊆ known) :
    Gives known (addProperty declaration) fun id => [.property id] := by
  intro draft coherent there
  have grown : draft.definition.GrowsInto ((addProperty declaration).run draft).2.definition :=
    { Definition.GrowsInto.refl _ with properties := by simp [addProperty, StateT.run] }
  have closed := coherent.closed.mono grown
  refine .of_tables coherent (coherent.made.addProperty declaration) ?_ grown rfl rfl ?_
  · -- Of the tables only the one of the properties grows, by an entry that cites what is known.
    exact { closed with properties := closed.properties.push ((there.mono grown).of_subset cites) }
  · simp [Definition.Declares, addProperty, StateT.run]

/-- A property may be changed so that it cites nothing but what it did and what is known. -/
theorem modifyProperty_gives (id : PropertyId) {change : PropertyDecl → PropertyDecl}
    (cites : ∀ declaration, (change declaration).cites ⊆ declaration.cites ++ known) :
    Gives known (modifyProperty id change) fun _ => [] := by
  intro draft coherent there
  -- No table grows, and one entry of one table is changed.
  have grown : draft.definition.GrowsInto ((modifyProperty id change).run draft).2.definition :=
    { Definition.GrowsInto.refl _ with properties := Nat.le_of_eq Array.size_modify.symm }
  have closed := coherent.closed.mono grown
  refine .of_tables coherent (coherent.made.modifyProperty id change) ?_ grown rfl rfl (by simp)
  exact { closed with properties := closed.properties.modify (there.mono grown) id.index cites }

/--
An operation may be changed where it stays in its container and cites nothing but what is known.
-/
theorem modifyOperation_gives (id : OperationId) {change : Operation → Operation}
    (stays : ∀ operation, (change operation).container = operation.container)
    (cites : ∀ operation, (change operation).cites ⊆ operation.cites ++ known) :
    Gives known (modifyOperation id change) fun _ => [] := by
  -- An operation that left its container would still be listed there.
  intro draft coherent there
  have grown : draft.definition.GrowsInto ((modifyOperation id change).run draft).2.definition :=
    { Definition.GrowsInto.refl _ with operations := Nat.le_of_eq Array.size_modify.symm }
  have closed := coherent.closed.mono grown
  refine .of_tables coherent (coherent.made.modifyOperation id change stays) ?_ grown rfl rfl
    (by simp)
  exact { closed with operations := closed.operations.modify (there.mono grown) id.index cites }

/-- The service of a container may be changed so that it cites nothing but what is known. -/
theorem modifyService_gives (container : ContainerId) {change : Info → Info}
    (cites : ∀ service, (change service).cites ⊆ service.cites ++ known) :
    Gives known (modifyService container change) fun _ => [] := by
  intro draft coherent there
  -- No table grows, and the service is cited by the entry of its container.
  have grown : draft.definition.GrowsInto
      ((modifyService container change).run draft).2.definition :=
    { Definition.GrowsInto.refl _ with containers := Nat.le_of_eq Array.size_modify.symm }
  have closed := coherent.closed.mono grown
  refine .of_tables coherent (coherent.made.service container change) ?_ grown rfl rfl (by simp)
  exact { closed with
    containers := closed.containers.modify (there.mono grown) container.index
      (Container.cites_service cites) }

/-- The service of a container may be set to one that cites what is known. -/
theorem setService_gives (container : ContainerId) (service : Info)
    (cites : service.cites ⊆ known) : Gives known (setService container service) fun _ => [] := by
  -- What was declared before is not read.
  have kept (old : Info) : (Function.const Info service old).cites ⊆ old.cites ++ known :=
    List.subset_append_of_subset_right _ cites
  exact modifyService_gives container kept

/-- A container cites its parent, which cites it in turn. -/
theorem addContainer_gives (name : String) (isInterface : Bool) (parent : Option ContainerId)
    (cites : parent.toList.map .container ⊆ known) :
    Gives known (addContainer name isInterface parent) fun id => [.container id] := by
  intro draft coherent there
  have inside (id : ContainerId) (isParent : id ∈ parent) :
      id.index < draft.definition.containers.size :=
    there (.container id) (cites (by simpa using isParent))
  have made := coherent.made.container name isInterface parent inside
  have size : ((addContainer name isInterface parent).run draft).2.definition.containers.size =
      draft.definition.containers.size + 1 := by
    cases parent with
    | none => exact Array.size_push _
    | some parent => exact Array.size_modify.trans (Array.size_push _)
  have grown : draft.definition.GrowsInto
      ((addContainer name isInterface parent).run draft).2.definition := by
    cases parent <;> exact { Definition.GrowsInto.refl _ with containers := by omega }
  have new : ((addContainer name isInterface parent).run draft).2.definition.DeclaresAll
      -- The container itself is known from here on, as its parent is about to cite it.
      [.container ⟨draft.definition.containers.size⟩] := by
    rw [Definition.declaresAll_singleton, Definition.Declares, size]
    exact Nat.lt_succ_self _
  have closed := coherent.closed.mono grown
  let declared : Container := { name, isInterface, parent }
  have declared_cites : declared.cites ⊆ known := by simpa [declared, Container.cites] using cites
  have pushed := closed.containers.push ((there.mono grown).of_subset declared_cites)
  cases parent with
  | none => exact .of_tables coherent made { closed with containers := pushed } grown rfl rfl new
  | some parent =>
    -- The list of the parent is written after the container is declared.
    have listed := pushed.modify new parent.index fun around => around.cites_child _
    exact .of_tables coherent made { closed with containers := listed } grown rfl rfl new

/-- An operation cites its container, which cites it in turn. -/
theorem operation_gives (container : ContainerId) (name : String) (verb : Verb) (path : String)
    (cites : .container container ∈ known) :
    Gives known (operation container name verb path) fun id => [.operation id] := by
  intro draft coherent there
  have size : ((operation container name verb path).run draft).2.definition.operations.size =
      draft.definition.operations.size + 1 := Array.size_push _
  have grown : draft.definition.GrowsInto
      ((operation container name verb path).run draft).2.definition :=
    { Definition.GrowsInto.refl _ with
      operations := by omega
      containers := Nat.le_of_eq Array.size_modify.symm }
  have new : ((operation container name verb path).run draft).2.definition.DeclaresAll
      [.operation ⟨draft.definition.operations.size⟩] := by
    -- The operation itself is known from here on, as its container is about to cite it.
    rw [Definition.declaresAll_singleton, Definition.Declares, size]
    exact Nat.lt_succ_self _
  have closed := coherent.closed.mono grown
  -- The declaration cites its container only, and the container lists the new operation.
  let declared : Operation := { name, container, verb, path }
  have declared_cites : declared.cites ⊆ known := by simpa [declared, Operation.cites] using cites
  have pushed := closed.operations.push ((there.mono grown).of_subset declared_cites)
  have listed := closed.containers.modify new container.index fun around =>
    around.cites_operation _
  exact .of_tables coherent (coherent.made.operation container name verb path (there _ cites))
    { closed with operations := pushed, containers := listed } grown rfl rfl new

/-- A scalar is given, be it a new one or the one of that name that was there. -/
theorem scalar_gives (name : String) : Gives known (scalar name) fun id => [.type id] := by
  intro draft coherent there
  have made := coherent.made.scalar name
  simp only [scalar, StateT.run_bind, StateT.run_get, pure_bind] at made ⊢
  split
  · -- A scalar that was declared before is found again.
    rename_i id found
    exact ⟨coherent, .refl _, Definition.declaresAll_singleton.mpr (coherent.scalars name id found)⟩
  · rename_i new
    simp only [new] at made
    obtain ⟨added, grown, given⟩ := addType_gives { shape := .scalar { name } }
      (by simp [TypeDecl.cites, Shape.cites]) draft coherent there
    -- A new scalar is put into the table, under its name; the others are there as before.
    refine ⟨{ added with made, scalars := fun other id found => ?_ }, grown, given⟩
    rcases OrderedMap.get?_insert_cases found with ⟨_, rfl⟩ | old
    · exact Definition.declaresAll_singleton.mp given
    · exact added.scalars other id old

/-- An intrinsic type is given, be it a new one or the one that was there. -/
theorem intrinsic_gives (kind : Intrinsic) : Gives known (intrinsic kind) fun id => [.type id] := by
  intro draft coherent there
  have made := coherent.made.intrinsic kind
  simp only [intrinsic, StateT.run_bind, StateT.run_get, pure_bind] at made ⊢
  split
  · -- As with scalars, what was declared before is found again.
    rename_i id found
    exact ⟨coherent, .refl _,
      Definition.declaresAll_singleton.mpr (coherent.intrinsics kind id found)⟩
  · rename_i new
    simp only [new] at made
    obtain ⟨added, grown, given⟩ := addType_gives { shape := .intrinsic kind }
      (by simp [TypeDecl.cites, Shape.cites]) draft coherent there
    -- The table has one entry more, for the kind that was just declared.
    refine ⟨{ added with made, intrinsics := fun other id found => ?_ }, grown, given⟩
    rcases OrderedMap.get?_insert_cases found with ⟨_, rfl⟩ | old
    · exact Definition.declaresAll_singleton.mp given
    · exact added.intrinsics other id old

/-- No declaration cites a customization, nor does a customization declare anything. -/
theorem customize_gives {change : Customizations → Customizations}
    (made : ∀ draft : Draft, draft.IsMade → draft.definition.DeclaresAll known →
      ((customize change).run draft).2.IsMade) :
    Gives known (customize change) fun _ => [] := by
  intro draft coherent there
  -- All tables stay as they are, so that there is nothing to show but that the draft is made.
  have grown : draft.definition.GrowsInto ((customize change).run draft).2.definition :=
    { Definition.GrowsInto.refl draft.definition with }
  have closed := coherent.closed.mono grown
  exact .of_tables coherent (made draft coherent.made there) { closed with } grown rfl rfl (by simp)

/-! ## Programs of several steps -/

/-- A model may be changed so that it cites nothing but what it did and what is known. -/
theorem modifyModel_gives (id : TypeId) {change : Model → Model}
    (cites : ∀ declared,
      (Shape.model (change declared)).cites ⊆ (Shape.model declared).cites ++ known) :
    Gives known (modifyModel id change) fun _ => [] := by
  -- A type that is no model is left as it is.
  refine modifyType_gives id fun declaration => ?_
  split
  · rename_i declared isModel
    simpa [TypeDecl.cites, isModel] using cites declared
  · exact List.subset_append_left _ _

/-- A scalar with an encoding of its own is given, on top of the plain one. -/
theorem encodedScalar_gives (name encode : String) :
    Gives known (encodedScalar name encode) fun id => [.type id] :=
  (scalar_gives name).bind fun base => addType_gives _ (by simp [TypeDecl.cites, Shape.cites])

/-- An enumeration is given with its members. -/
theorem enumeration_gives (name : String) (namespaceId : Option ContainerId)
    (members : List String) (cites : namespaceId.toList.map .container ⊆ known) :
    Gives known (enumeration name namespaceId members) fun id => [.type id] := by
  unfold enumeration
  -- The enum is declared first, so that its members can cite it; then it cites them.
  refine (addType_gives _ (by simpa [TypeDecl.cites, Shape.cites] using cites)).bind fun id => ?_
  refine (Gives.mapM members fun member _ => addType_gives _ ?_).bind fun memberIds => ?_
  · simp [TypeDecl.cites, Shape.cites]
  · refine (modifyType_gives id fun declaration => ?_).bind fun _ => Gives.pure id (by simp)
    refine List.subset_append_of_subset_right _ ?_
    intro other
    grind [TypeDecl.cites, Shape.cites]

/-- A type that may be null is given where the type itself is known. -/
theorem nullable_gives (type : TypeId) (cites : .type type ∈ known) :
    Gives known (nullable type) fun id => [.type id] :=
  -- The type null is made first, or found if it was made before; the union cites it and the type.
  (intrinsic_gives .null).bind fun null => addType_gives _
    (by simp [TypeDecl.cites, Shape.cites, cites])

/-- Of two models that are known one may become the base of the other. -/
theorem setBase_gives (derived base : TypeId) (cites : [.type derived, .type base] ⊆ known) :
    Gives known (setBase derived base) fun _ => [] := by
  -- Either side cites the other one in turn.
  refine (modifyModel_gives derived fun declared other => ?_).bind fun _ =>
    modifyModel_gives base fun declared other => ?_
  · grind [Shape.cites]
  · grind [Shape.cites]

/-- A property of a known model that has a known type is given. -/
theorem property_gives (model : TypeId) (name : String) (type : TypeId)
    (cites : [.type model, .type type] ⊆ known) :
    Gives known (property model name type) fun id => [.property id] := by
  -- The property is added to its table and then to the model; the model cites it beside what it
  -- cited.
  refine (addProperty_gives _ (by simpa [PropertyDecl.cites] using cites)).bind fun id => ?_
  refine (modifyModel_gives model fun declared other => ?_).bind fun _ => Gives.pure id (by simp)
  grind [Shape.cites]

/-- A known property may be declared a parameter of an operation. -/
theorem declareParameter_gives (operation : OperationId) (property : PropertyId)
    (cites : .property property ∈ known) :
    Gives known (declareParameter operation property) fun _ => [] :=
  -- The parameter goes to the end of one list, and the other lists of the operation cite what they
  -- did.
  modifyOperation_gives operation (fun _ => rfl) fun declared other => by
    simp only [Operation.cites, List.map_append, List.map_singleton, List.mem_append,
      List.mem_singleton]
    grind

/-- A known property may get a slot in the request of an operation. -/
theorem addSlot_gives (operation : OperationId) (slot : WireSlot)
    (cites : .property slot.property ∈ known) :
    Gives known (addSlot operation slot) fun _ => [] :=
  -- The slot goes to the end of one list, and the other lists of the operation cite what they did.
  modifyOperation_gives operation (fun _ => rfl) fun declared other => by
    simp only [Operation.cites, List.map_append, List.map_singleton, List.mem_append,
      List.mem_singleton]
    grind

/-- An operation may get a body that cites what is known. -/
theorem addBody_gives (operation : OperationId) (body : BodyDecl) (cites : body.cites ⊆ known) :
    Gives known (addBody operation body) fun _ => [] :=
  -- The body goes to the end of one list, and the other lists of the operation cite what they did.
  modifyOperation_gives operation (fun _ => rfl) fun declared other => by
    simp only [Operation.cites, List.flatMap_append, List.flatMap_singleton, List.mem_append]
    grind

/-- An operation may get a response that cites what is known. -/
theorem addResponse_gives (operation : OperationId) (response : ResponseDecl)
    (cites : response.cites ⊆ known) :
    Gives known (addResponse operation response) fun _ => [] :=
  -- The response goes to the end of one list, and the other lists of the operation cite what they
  -- did.
  modifyOperation_gives operation (fun _ => rfl) fun declared other => by
    simp only [Operation.cites, List.flatMap_append, List.flatMap_singleton, List.mem_append]
    grind

/-- A parameter of a known type is given, bound to the request. -/
theorem parameter_gives (operation : OperationId) (name : String) (type : TypeId)
    (binding : Binding) (cites : .type type ∈ known) :
    Gives known (parameter operation name type binding) fun id => [.property id] := by
  refine (addProperty_gives _ (by simpa [PropertyDecl.cites] using cites)).bind fun id => ?_
  refine (declareParameter_gives operation id (by simp)).bind fun _ => ?_
  -- A body is told apart from whatever else goes into a request.
  split
  · refine (addBody_gives operation _ ?_).bind fun _ => Gives.pure id (by simp)
    simp [BodyDecl.cites, cites]
  · exact (addSlot_gives operation _ (by simp)).bind fun _ => Gives.pure id (by simp)

/-- A parameter of a known type is given that the request does not show. -/
theorem methodParameter_gives (operation : OperationId) (name : String) (type : TypeId)
    (cites : .type type ∈ known) :
    Gives known (methodParameter operation name type) fun id => [.property id] :=
  -- The property belongs to no model, so it is enough to add it and then to declare it a parameter.
  (addProperty_gives _ (by simpa [PropertyDecl.cites] using cites)).bind fun id =>
    (declareParameter_gives operation id (by simp)).bind fun _ => Gives.pure id (by simp)

/-- A body that is spread over known parameters is given, as a model of its own. -/
theorem spreadBody_gives (operation : OperationId) (parameters : List PropertyId)
    (contentTypes : List String) (cites : parameters.map .property ⊆ known) :
    Gives known (spreadBody operation parameters contentTypes) fun id => [.type id] := by
  unfold spreadBody
  refine (addType_gives _ (by simp [TypeDecl.cites, Shape.cites])).bind fun body => ?_
  -- One copy is made for each of the parameters, and cites nothing but its type and its original.
  refine (Gives.forIn parameters (fun parameter listed _ => ?_) _).bind fun _ => ?_
  · -- A copy has the type of the parameter, which is declared since the parameter is.
    refine Gives.get_bind fun draft coherent there =>
      ⟨[.type (draft.definition.propertyAt parameter).type], ?_, ?_⟩
    · have isThere := there (.property parameter) (List.mem_append_left _
        (cites (List.mem_map_of_mem listed)))
      exact (coherent.closed.propertyAt isThere).of_subset (by simp [PropertyDecl.cites])
    · refine (property_gives body _ _ (by simp)).bind fun copy => ?_
      refine (modifyProperty_gives copy fun declared other => ?_).bind fun _ =>
        Gives.pure _ (by simp)
      have isKnown := cites (List.mem_map_of_mem listed)
      simp only [PropertyDecl.cites, Option.toList_some, List.map_singleton, List.mem_append,
        List.mem_singleton]
      grind
  · refine (addBody_gives operation _ ?_).bind fun _ => Gives.pure body (by simp)
    simp [BodyDecl.cites]

end ClientModel.Service.Draft
