import Mathlib.Data.List.Nodup
import Mathlib.Data.List.Perm.Subperm
import Mathlib.Data.Set.Function
import ClientModel.Proofs.Chains
import ClientModel.Service.Draft

/-!
When an anonymous model stands for a named one.

Each member of its payload is then a copy of a property of the named model, and there are as many of
them as the named model has in its payload. That they are the same members takes more: no property
may be copied twice, and a property of the envelope may not become one of the payload when copied.
-/

namespace ClientModel

/-- What is found for all entries is found for each one of them. -/
theorem map_eq_of_mapM {α β : Type} {find : α → Option β} {list : List α} {values : List β}
    (all : list.mapM find = some values) : list.map find = values.map some := by
  -- Along the list; if anything is found for all, it is found for the first and for all others.
  induction list generalizing values with
  | nil =>
    rw [List.mapM_nil] at all
    cases all
    rfl
  | cons first rest ih =>
    rw [List.mapM_cons] at all
    simp only [Option.bind_eq_bind, Option.bind_eq_some_iff] at all
    obtain ⟨value, isFirst, others, isRest, same⟩ := all
    cases same
    rw [List.map_cons, List.map_cons, isFirst, ih isRest]

namespace Service.Definition

variable (definition : Definition)

/-- The properties that a model declares itself and that belong to its payload. -/
def ownPayload (id : TypeId) : List PropertyId :=
  ((definition.model? id).elim [] Model.properties).filter fun property =>
    !(definition.propertyAt property).isMetadata

/-- The anonymous model is taken for the named one. -/
structure FoldsTo (id owner : TypeId) : Prop where
  anonymous : ∃ model, definition.model? id = some model ∧ model.name = none
  named : definition.isNamedModel owner = true
  copied : ∀ property ∈ definition.ownPayload id, (definition.propertyAt property).source ≠ none ∧
    (definition.propertyAt (definition.rootSource property)).model = some owner
  length_eq : (definition.payloadProperties owner).length = (definition.ownPayload id).length

/-- Properties are listed in the models that they are members of, and no model lists one twice. -/
structure MembersListed : Prop where
  once : ∀ id model, definition.model? id = some model → model.properties.Nodup
  listed : ∀ property owner, (definition.propertyAt property).model = some owner →
    ∀ model, definition.model? owner = some model → property ∈ model.properties

variable {definition} {id owner : TypeId} {property : PropertyId}

/-- What a property was copied from is the named model that declares its source. -/
theorem copiedFrom?_eq_some (copied : definition.copiedFrom? property = some owner) :
    (definition.propertyAt property).source ≠ none ∧
      (definition.propertyAt (definition.rootSource property)).model = some owner ∧
      definition.isNamedModel owner = true := by
  -- Each of the look-ups in the search must have succeeded.
  simp only [copiedFrom?, Option.bind_eq_bind, Option.bind_eq_some_iff] at copied
  obtain ⟨source, isSource, declared, isOwner, named⟩ := copied
  split at named
  · rename_i isNamed
    cases named
    exact ⟨by simp [isSource], isOwner, isNamed⟩
  · cases named

/-- The owner is common to all of some properties, of which there is one at least. -/
theorem commonOwner?_eq_some {properties : List PropertyId}
    (common : definition.commonOwner? properties = some owner) :
    properties ≠ [] ∧ ∀ property ∈ properties, definition.copiedFrom? property = some owner := by
  simp only [commonOwner?, Option.bind_eq_bind, Option.bind_eq_some_iff] at common
  obtain ⟨owners, copied, common⟩ := common
  have each := map_eq_of_mapM copied
  cases owners with
  | nil => cases common
  | cons first others =>
    dsimp only at common
    -- The first owner is the common one if all others are the same.
    split at common
    · rename_i same
      cases common
      refine ⟨fun none => by simp [none] at each, fun property listed => ?_⟩
      have found : definition.copiedFrom? property ∈ (owner :: others).map some :=
        each ▸ List.mem_map_of_mem listed
      obtain ⟨other, isOwner, isFound⟩ := List.mem_map.mp found
      rw [← isFound]
      -- All owners are the same as the first one.
      rcases List.mem_cons.mp isOwner with rfl | later
      · rfl
      · rw [eq_of_beq (List.all_eq_true.mp same other later)]
    · cases common

/-- A type stands for another one only if it is an anonymous model that is taken for that one. -/
theorem foldsTo_of_payloadType (folds : definition.payloadType id = owner) (other : owner ≠ id) :
    definition.FoldsTo id owner := by
  -- By cases on the search: where it ends early, the type stands for itself.
  unfold payloadType at folds
  split at folds
  · exact absurd folds.symm other
  · rename_i model isModel
    split at folds
    · exact absurd folds.symm other
    · rename_i anonymous
      have own : definition.ownPayload id =
          model.properties.filter fun property => !(definition.propertyAt property).isMetadata := by
        rw [ownPayload, isModel]
        rfl
      dsimp only at folds
      rw [← own] at folds
      split at folds
      · exact absurd folds.symm other
      · rename_i found common
        split at folds
        · rename_i same
          subst folds
          obtain ⟨some, each⟩ := commonOwner?_eq_some common
          obtain ⟨first, listed⟩ := List.exists_mem_of_ne_nil _ some
          exact
            { anonymous := ⟨model, isModel, by simpa using anonymous⟩
              named := (copiedFrom?_eq_some (each first listed)).2.2
              copied := fun property listed =>
                ⟨(copiedFrom?_eq_some (each property listed)).1,
                  (copiedFrom?_eq_some (each property listed)).2.1⟩
              length_eq := eq_of_beq same }
        · exact absurd folds.symm other

/-- A named model has the properties that are its own. -/
theorem mem_allProperties (listed : definition.MembersListed)
    (named : definition.isNamedModel owner = true)
    (isOwner : (definition.propertyAt property).model = some owner) :
    property ∈ definition.allProperties owner := by
  unfold isNamedModel at named
  cases isModel : definition.model? owner with
  | none => simp [isModel] at named
  | some model =>
    refine List.mem_flatMap.mpr ⟨model, ?_, listed.listed property owner isOwner model isModel⟩
    rw [List.mem_filterMap]
    refine ⟨owner, ?_, isModel⟩
    -- The lineage of a type begins with the type itself.
    rw [List.mem_reverse, lineage, lineageWithin, if_neg (by simp)]
    exact List.mem_cons_self

/--
If an anonymous model stands for a named one, then each member of its payload is a copy of a
property of the named model, and there are as many of them as the payload of the named model has.

They are the same members, told by the properties that they were copied from, just if no two are
copies of the same property and none is a copy of a property of the envelope.
-/
theorem folded_members_correspond_iff (listed : definition.MembersListed)
    (folds : definition.payloadType id = owner) (other : owner ≠ id) :
    definition.FoldsTo id owner ∧
      (Set.BijOn definition.rootSource {property | property ∈ definition.ownPayload id}
          {property | property ∈ definition.payloadProperties owner} ↔
        Set.InjOn definition.rootSource {property | property ∈ definition.ownPayload id} ∧
          ∀ property ∈ definition.ownPayload id,
            (definition.propertyAt (definition.rootSource property)).isMetadata = false) := by
  have foldsTo := foldsTo_of_payloadType folds other
  refine ⟨foldsTo, fun bijective => ?_, ?_⟩
  · -- The members of a payload are no metadata, so a bijection onto it tells this of each root.
    refine ⟨bijective.injOn, fun property member => ?_⟩
    have isPayload := bijective.mapsTo member
    simpa using (List.mem_filter.mp isPayload).2
  · rintro ⟨injective, payload⟩
    -- By counting: different roots among the members of the payload, and no fewer than these.
    have once : (definition.ownPayload id).Nodup := by
      obtain ⟨model, isModel, _⟩ := foldsTo.anonymous
      rw [ownPayload, isModel]
      exact (listed.once id model isModel).filter _
    have roots : ((definition.ownPayload id).map definition.rootSource).Nodup :=
      once.map_on fun left isLeft right isRight same => injective isLeft isRight same
    have among : (definition.ownPayload id).map definition.rootSource ⊆
        definition.payloadProperties owner := by
      intro root isRoot
      obtain ⟨property, member, rfl⟩ := List.mem_map.mp isRoot
      refine List.mem_filter.mpr ⟨mem_allProperties listed foldsTo.named
        (foldsTo.copied property member).2, ?_⟩
      rw [payload property member]
      rfl
    -- Different properties, as many as there are in the named model, are all of them.
    have all : ((definition.ownPayload id).map definition.rootSource).Perm
        (definition.payloadProperties owner) :=
      (roots.subperm among).perm_of_length_le (by rw [List.length_map, foldsTo.length_eq])
    refine ⟨fun property member => among (List.mem_map_of_mem member), injective, ?_⟩
    intro root isRoot
    exact List.mem_map.mp (all.symm.subset isRoot)

/-- Of the tables of a definition it can be told whether members are listed. -/
theorem membersListed_of_tables
    (types : ∀ id ∈ definition.typeIds, ∀ model ∈ definition.model? id, model.properties.Nodup)
    (properties : ∀ index < definition.properties.size,
      ∀ owner ∈ (definition.propertyAt ⟨index⟩).model, ∀ model ∈ definition.model? owner,
        ⟨index⟩ ∈ model.properties) : definition.MembersListed where
  once id model isModel := by
    refine types id ?_ model isModel
    -- Outside of its table there are no models.
    by_contra outside
    simp [model?, shapeAt_of_notMem outside] at isModel
  listed property owner isOwner model isModel := by
    refine properties property.index ?_ owner isOwner model isModel
    by_contra outside
    simp [propertyAt, Array.getD, outside] at isOwner

/--
Letters with an address, a stamp that goes into a header, and a text, and an operation that sends
a model put together from copies of some of these.
-/
def post (sent : List PropertyId) : Definition :=
  let steps : Drafting Unit := do
    let root ← Draft.addContainer "Post" false none
    Draft.setService root {}
    let string ← Draft.scalar "string"
    let letter ← Draft.model { name := some "Letter" }
    let _ ← Draft.property letter "address" string
    let stamp ← Draft.property letter "stamp" string
    Draft.modifyProperty stamp fun declared => { declared with binding := some (.header "stamp") }
    let _ ← Draft.property letter "text" string
    let send ← Draft.operation root "send" .post "/letters"
    let parameters ← sent.mapM fun part => do
      let name := ((← get).definition.propertyAt part).name
      let parameter ← Draft.methodParameter send name string
      Draft.modifyProperty parameter fun declared => { declared with source := some part }
      return parameter
    let _ ← Draft.spreadBody send parameters ["application/json"]
  (steps.run {}).2.definition

/-- An address and a text are all of a letter. -/
theorem folded_members_correspond_iff_post :
    (post [⟨0⟩, ⟨2⟩]).MembersListed ∧ (post [⟨0⟩, ⟨2⟩]).payloadType ⟨2⟩ = ⟨1⟩ ∧
      (⟨1⟩ : TypeId) ≠ ⟨2⟩ ∧
      Set.BijOn (post [⟨0⟩, ⟨2⟩]).rootSource
        {property | property ∈ (post [⟨0⟩, ⟨2⟩]).ownPayload ⟨2⟩}
        {property | property ∈ (post [⟨0⟩, ⟨2⟩]).payloadProperties ⟨1⟩} := by
  have listed : (post [⟨0⟩, ⟨2⟩]).MembersListed :=
    membersListed_of_tables (by decide +kernel) (by decide +kernel)
  have folds : (post [⟨0⟩, ⟨2⟩]).payloadType ⟨2⟩ = ⟨1⟩ := by decide +kernel
  have injective : ∀ left ∈ (post [⟨0⟩, ⟨2⟩]).ownPayload ⟨2⟩,
      ∀ right ∈ (post [⟨0⟩, ⟨2⟩]).ownPayload ⟨2⟩,
        (post [⟨0⟩, ⟨2⟩]).rootSource left = (post [⟨0⟩, ⟨2⟩]).rootSource right → left = right := by
    decide +kernel
  -- Within its payload, no two members of this type come from one property.
  refine ⟨listed, folds, by decide,
    (folded_members_correspond_iff listed folds (by decide)).2.mpr ⟨?_, by decide +kernel⟩⟩
  exact fun left isLeft right isRight same => injective left isLeft right isRight same

/-- A property that none of the members is copied from is left uncovered. -/
theorem not_bijOn_of_uncovered (listed : property ∈ definition.payloadProperties owner)
    (uncovered : ∀ member ∈ definition.ownPayload id, definition.rootSource member ≠ property) :
    ¬ Set.BijOn definition.rootSource {property | property ∈ definition.ownPayload id}
      {property | property ∈ definition.payloadProperties owner} := by
  -- A bijection would have a member for it.
  intro bijective
  obtain ⟨member, isMember, isRoot⟩ := bijective.surjOn listed
  exact uncovered member isMember isRoot

/--
An address and a stamp, or an address twice, are taken for a letter, since they are as many as its
members are; the text of the letter is none of them.
-/
theorem folded_members_may_differ :
    ((post [⟨0⟩, ⟨1⟩]).payloadType ⟨2⟩ = ⟨1⟩ ∧
      ¬ Set.BijOn (post [⟨0⟩, ⟨1⟩]).rootSource
        {property | property ∈ (post [⟨0⟩, ⟨1⟩]).ownPayload ⟨2⟩}
        {property | property ∈ (post [⟨0⟩, ⟨1⟩]).payloadProperties ⟨1⟩}) ∧
    ((post [⟨0⟩, ⟨0⟩]).payloadType ⟨2⟩ = ⟨1⟩ ∧
      ¬ Set.BijOn (post [⟨0⟩, ⟨0⟩]).rootSource
        {property | property ∈ (post [⟨0⟩, ⟨0⟩]).ownPayload ⟨2⟩}
        {property | property ∈ (post [⟨0⟩, ⟨0⟩]).payloadProperties ⟨1⟩}) := by
  -- The text is a part of the letter that neither payload covers.
  refine ⟨⟨by decide +kernel, ?_⟩, by decide +kernel, ?_⟩
  · have isText : ⟨2⟩ ∈ (post [⟨0⟩, ⟨1⟩]).payloadProperties ⟨1⟩ := by decide +kernel
    exact not_bijOn_of_uncovered isText (by decide +kernel)
  · have isText : ⟨2⟩ ∈ (post [⟨0⟩, ⟨0⟩]).payloadProperties ⟨1⟩ := by decide +kernel
    exact not_bijOn_of_uncovered isText (by decide +kernel)

end Service.Definition

end ClientModel
