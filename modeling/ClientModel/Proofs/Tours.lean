import ClientModel.Proofs.Folding

/-!
Tours: what is met from some entries on, the first of them with all that is behind it first.

An entry that was met before is passed over, so that a tour comes to an end wherever it leads, and
meets everything that can be come to once. The bases of a model are met on such a tour, and so are
the models that a payload may be: unions are looked through from their first variant to their last.
-/

namespace ClientModel.Service

/-! ## Tours -/

section

variable {α : Type} {onward : α → List α} {met entries tour other : List α}

/--
From each of some entries in turn it is gone on to what is behind it, and then to the next one,
unless it was met before.
-/
inductive Tours (onward : α → List α) : List α → List α → List α → Prop
  | done {met : List α} : Tours onward met [] []
  | again {met entries tour : List α} {entry : α} (known : entry ∈ met)
      (rest : Tours onward met entries tour) : Tours onward met (entry :: entries) tour
  | enter {met entries inner outer : List α} {entry : α} (fresh : entry ∉ met)
      (behind : Tours onward (entry :: met) (onward entry) inner)
      (rest : Tours onward (inner ++ entry :: met) entries outer) :
      Tours onward met (entry :: entries) (entry :: (inner ++ outer))

namespace Tours

/-- From one entry on it is gone on to what is behind it, and no further. -/
theorem enter_only {entry : α} (fresh : entry ∉ met)
    (behind : Tours onward (entry :: met) (onward entry) tour) :
    Tours onward met [entry] (entry :: tour) := by
  rw [← List.append_nil tour]
  exact .enter fresh behind .done

/-- From the same entries on, a tour is always the same. -/
theorem unique (tours : Tours onward met entries tour) (also : Tours onward met entries other) :
    other = tour := by
  -- By induction on the first tour: what was met before says how the second one goes on.
  induction tours generalizing other with
  | done =>
    cases also
    rfl
  | again known _ ih =>
    cases also with
    | again _ rest => exact ih rest
    | enter fresh => exact absurd known fresh
  | enter fresh _ _ ihBehind ihRest =>
    cases also with
    | again known => exact absurd known fresh
    | enter _ behind rest =>
      obtain rfl := ihBehind behind
      obtain rfl := ihRest rest
      rfl

/-- Nothing is met that was met before. -/
theorem notMem_met (tours : Tours onward met entries tour) : ∀ entry ∈ tour, entry ∉ met := by
  -- By induction on the tour.
  induction tours with
  | done => simp
  | again _ _ ih => exact ih
  | enter fresh _ _ ihBehind ihRest =>
    intro last listed
    rcases List.mem_cons.mp listed with rfl | later
    · exact fresh
    · rcases List.mem_append.mp later with isInner | isOuter
      · exact fun known => ihBehind last isInner (List.mem_cons_of_mem _ known)
      · exact fun known => ihRest last isOuter
          (List.mem_append_right _ (List.mem_cons_of_mem _ known))

/-- Nothing is met twice. -/
theorem nodup (tours : Tours onward met entries tour) : tour.Nodup := by
  induction tours with
  | done => exact List.nodup_nil
  | again _ _ ih => exact ih
  | @enter met entries inner outer entry fresh behind rest ihBehind ihRest =>
    have apart : List.Disjoint inner outer := fun last isInner isOuter =>
      rest.notMem_met last isOuter (List.mem_append_left _ isInner)
    refine List.nodup_cons.mpr ⟨fun again => ?_, ihBehind.append ihRest apart⟩
    -- The entry was met before what is behind it, and before the entries after it.
    rcases List.mem_append.mp again with isInner | isOuter
    · exact behind.notMem_met entry isInner List.mem_cons_self
    · exact rest.notMem_met entry isOuter (List.mem_append_right _ List.mem_cons_self)

/-- All entries are met, if they were not met before. -/
theorem covers (tours : Tours onward met entries tour) :
    ∀ entry ∈ entries, entry ∈ met ∨ entry ∈ tour := by
  -- By induction on the tour; an entry is met where the tour enters it.
  induction tours with
  | done => simp
  | again known _ ih =>
    rw [List.forall_mem_cons]
    exact ⟨Or.inl known, ih⟩
  | enter fresh _ _ _ ihRest =>
    rw [List.forall_mem_cons]
    refine ⟨Or.inr List.mem_cons_self, fun later isLater => ?_⟩
    have := ihRest later isLater
    simp only [List.mem_append, List.mem_cons] at this ⊢
    tauto

/-- What is behind something that is met is met as well, if it was not met before. -/
theorem closed (tours : Tours onward met entries tour) :
    ∀ entry ∈ tour, ∀ next ∈ onward entry, next ∈ met ∨ next ∈ tour := by
  -- By induction on the tour; what is behind an entry is covered by the tour behind it.
  induction tours with
  | done => simp
  | again _ _ ih => exact ih
  | enter fresh behind _ ihBehind ihRest =>
    intro last listed next isNext
    rcases List.mem_cons.mp listed with rfl | later
    · have := behind.covers next isNext
      simp only [List.mem_append, List.mem_cons] at this ⊢
      tauto
    · rcases List.mem_append.mp later with isInner | isOuter
      · have := ihBehind last isInner next isNext
        simp only [List.mem_append, List.mem_cons] at this ⊢
        tauto
      · have := ihRest last isOuter next isNext
        simp only [List.mem_append, List.mem_cons] at this ⊢
        tauto

/-- Nothing is met but what can be come to from one of the entries. -/
theorem reaches (tours : Tours onward met entries tour) :
    ∀ last ∈ tour, ∃ entry ∈ entries,
      Relation.ReflTransGen (fun entry next => next ∈ onward entry) entry last := by
  -- By induction on the tour, whose parts begin behind the first entry or at a later one.
  induction tours with
  | done => simp
  | again _ _ ih =>
    intro last listed
    obtain ⟨entry, isEntry, way⟩ := ih last listed
    exact ⟨entry, List.mem_cons_of_mem _ isEntry, way⟩
  | @enter met entries inner outer first fresh _ _ ihBehind ihRest =>
    intro last listed
    rcases List.mem_cons.mp listed with rfl | later
    · exact ⟨last, List.mem_cons_self, .refl⟩
    · rcases List.mem_append.mp later with isInner | isOuter
      · obtain ⟨next, isNext, way⟩ := ihBehind last isInner
        exact ⟨first, List.mem_cons_self, .head isNext way⟩
      · obtain ⟨entry, isEntry, way⟩ := ihRest last isOuter
        exact ⟨entry, List.mem_cons_of_mem _ isEntry, way⟩

/-- From one entry on, everything is met that can be come to. -/
theorem mem_iff {entry last : α} (tours : Tours onward [] [entry] tour) :
    last ∈ tour ↔ Relation.ReflTransGen (fun entry next => next ∈ onward entry) entry last := by
  constructor
  · intro listed
    obtain ⟨first, isFirst, way⟩ := tours.reaches last listed
    rwa [List.mem_singleton.mp isFirst] at way
  · intro way
    -- By induction on the way: each step leads to something that the tour is closed under.
    induction way with
    | refl => simpa using tours.covers entry List.mem_cons_self
    | tail _ isNext ih => simpa using tours.closed _ ih _ isNext

end Tours

/--
Where all that leads on was met before or is in a table, there is a tour from any entries on.

By induction on the table, which has an entry less behind one that is entered, and on the entries.
-/
theorem exists_tours [DecidableEq α] (left met entries : List α)
    (inside : ∀ entry next, next ∈ onward entry → entry ∈ met ∨ entry ∈ left) :
    ∃ tour, Tours onward met entries tour := by
  induction room : left.length using Nat.strongRecOn generalizing left met entries with
  | ind room ih =>
    subst room
    induction entries generalizing met with
    | nil => exact ⟨[], .done⟩
    | cons entry rest ihRest =>
      by_cases known : entry ∈ met
      · obtain ⟨tour, tours⟩ := ihRest met inside
        exact ⟨tour, .again known tours⟩
      · -- The entry is met now, so that a tour behind it has less of the table left.
        obtain ⟨inner, behind⟩ : ∃ inner, Tours onward (entry :: met) (onward entry) inner := by
          by_cases listed : entry ∈ left
          · refine ih (left.erase entry).length ?_ _ _ _ (fun other next isNext => ?_) rfl
            · have := List.length_pos_of_mem listed
              rw [List.length_erase_of_mem listed]
              omega
            · by_cases same : other = entry
              · exact Or.inl (same ▸ List.mem_cons_self)
              · rcases inside other next isNext with earlier | isLeft
                · exact Or.inl (List.mem_cons_of_mem _ earlier)
                · exact Or.inr ((List.mem_erase_of_ne same).mpr isLeft)
          · -- Nothing is behind what is neither in the table nor was met.
            have none : onward entry = [] := List.eq_nil_iff_forall_not_mem.mpr
              fun next isNext => (inside entry next isNext).elim known listed
            exact ⟨[], by rw [none]; exact .done⟩
        obtain ⟨outer, after⟩ := ihRest (inner ++ entry :: met) fun other next isNext =>
          (inside other next isNext).imp_left fun earlier =>
            List.mem_append_right _ (List.mem_cons_of_mem _ earlier)
        exact ⟨entry :: (inner ++ outer), .enter known behind after⟩

end

namespace Definition

variable {definition : Definition}

/-! ## Models and their bases -/

variable (definition) in
/-- The base of a model. -/
def modelBase? (id : TypeId) : Option TypeId :=
  (definition.model? id).bind Model.base

variable (definition) in
/-- The first type is a model that extends the second one. -/
def Derives (id base : TypeId) : Prop :=
  definition.modelBase? id = some base

/-- Only a declared type has a base. -/
theorem mem_typeIds_of_modelBase? {id base : TypeId}
    (isBase : definition.modelBase? id = some base) : id ∈ definition.typeIds := by
  -- A place beyond the table reads as the unknown type, which has no base.
  by_contra outside
  simp [modelBase?, model?, shapeAt_of_notMem outside] at isBase

variable (definition) in
/-- What is behind a type on the way to its bases. -/
def basesOf (id : TypeId) : List TypeId :=
  (definition.modelBase? id).toList

/-- By induction on the steps, of which there are enough, since no type is met twice. -/
theorem tours_lineageWithin (steps : Nat) (met : List TypeId) (id : TypeId)
    (inside : met ⊆ definition.typeIds) (apart : met.Nodup)
    (enough : definition.types.size < met.length + steps) :
    Tours definition.basesOf met [id] (definition.lineageWithin steps met id) := by
  have short := (apart.subperm inside).length_le
  rw [length_typeIds] at short
  induction steps generalizing met id with
  | zero => omega
  | succ steps ih =>
    rw [lineageWithin]
    -- A type that was met ends the line, and a base is met behind a new one.
    split
    · rename_i known
      exact .again (List.contains_iff_mem.mp known) .done
    · rename_i fresh
      have fresh : id ∉ met := mt List.contains_iff_mem.mpr fresh
      refine .enter_only fresh ?_
      cases isBase : definition.modelBase? id with
      | none =>
        rw [modelBase?] at isBase
        simp only [basesOf, modelBase?, isBase, Option.toList_none]
        exact .done
      | some base =>
        -- Behind the base, one type more was met and one step less is left.
        have among : id :: met ⊆ definition.typeIds :=
          List.cons_subset.mpr ⟨mem_typeIds_of_modelBase? isBase, inside⟩
        have further : (id :: met).Nodup := List.nodup_cons.mpr ⟨fresh, apart⟩
        have room := (further.subperm among).length_le
        rw [length_typeIds] at room
        have behind := ih (id :: met) base among further
          (by rw [List.length_cons]; omega) room
        rw [modelBase?] at isBase
        simpa only [basesOf, modelBase?, isBase, Option.toList_some] using behind

/-- The lineage of a type is the tour from it to its bases. -/
theorem tours_lineage (id : TypeId) : Tours definition.basesOf [] [id] (definition.lineage id) :=
  tours_lineageWithin _ [] id (List.nil_subset _) List.nodup_nil (by simp)

/-- In the lineage of a type are those that it derives from, and itself. -/
theorem mem_lineage {id base : TypeId} :
    base ∈ definition.lineage id ↔ Relation.ReflTransGen definition.Derives id base := by
  -- A tour lists what can be reached, and the lineage is a tour along bases.
  rw [(tours_lineage id).mem_iff]
  simp only [basesOf, Option.mem_toList]
  rfl

/-- The payload of a type is put together from its bases and itself, the farthest base first. -/
theorem payloadProperties_eq (id : TypeId) :
    definition.payloadProperties id =
      (definition.lineage id).reverse.flatMap definition.ownPayload := by
  rw [payloadProperties, allProperties]
  -- By induction on the lineage from its farthest base; what is no model adds nothing.
  induction (definition.lineage id).reverse with
  | nil => rfl
  | cons base rest ih =>
    rw [List.flatMap_cons, ← ih, ownPayload]
    cases isModel : definition.model? base with
    | none => simp [isModel]
    | some model => simp [isModel]

/-! ## Unions and their variants -/

variable (definition) in
/-- The types of the variants of a union, in order. -/
def variantsOf (id : TypeId) : List TypeId :=
  match definition.shapeAt id with
  | .union union => union.variants.map Variant.type
  | _ => []

variable (definition) in
/-- The first type is a union with a variant of the second one. -/
def Admits (id variant : TypeId) : Prop :=
  variant ∈ definition.variantsOf id

variable (definition) in
/-- The type declares a model. -/
def isModel (id : TypeId) : Bool :=
  (definition.model? id).isSome

/-- Nothing is behind a type that is not declared. -/
theorem variantsOf_of_notMem {id : TypeId} (outside : id ∉ definition.typeIds) :
    definition.variantsOf id = [] := by
  rw [variantsOf, shapeAt_of_notMem outside]

/-- A type that is not declared is no model. -/
theorem isModel_of_notMem {id : TypeId} (outside : id ∉ definition.typeIds) :
    definition.isModel id = false := by
  -- A place beyond the table reads as the unknown type.
  rw [isModel, model?, shapeAt_of_notMem outside]
  rfl

/-- Each type is in the table once. -/
theorem nodup_typeIds : definition.typeIds.Nodup :=
  List.nodup_range.map fun _ _ same => congrArg TypeId.index same

section

variable {remaining stack : List TypeId} {id : TypeId}

/-- A type that was met, or is none of the table, is passed over. -/
theorem modelsMet_of_notMem (outside : id ∉ remaining) :
    definition.modelsMet remaining (id :: stack) = definition.modelsMet remaining stack := by
  rw [modelsMet, dif_neg outside]

/-- A type is met once, and what is behind it comes before the rest of the stack. -/
theorem modelsMet_of_mem (inside : id ∈ remaining) :
    definition.modelsMet remaining (id :: stack) =
      [id].filter definition.isModel ++
        definition.modelsMet (remaining.erase id) (definition.variantsOf id ++ stack) := by
  -- The type is in the table, so the walk goes into it; its variants are put on top of the stack.
  rw [modelsMet, dif_pos inside]
  cases shape : definition.shapeAt id with
  | model | union | _ => simp [isModel, model?, variantsOf, shape]

variable (definition) in
/-- The types that remain are those of the table that were not met. -/
structure Remains (met remaining : List TypeId) : Prop where
  once : remaining.Nodup
  mem_iff : ∀ type, type ∈ remaining ↔ type ∈ definition.typeIds ∧ type ∉ met

/-- The types of the table that remain after one more was met. -/
theorem Remains.erase {met : List TypeId} (remains : definition.Remains met remaining)
    (id : TypeId) : definition.Remains (id :: met) (remaining.erase id) where
  once := remains.once.erase id
  mem_iff type := by
    rw [remains.once.mem_erase_iff, remains.mem_iff, List.mem_cons]
    tauto

/-- Only of types in the table it matters whether they were met. -/
theorem Remains.of_same {met other : List TypeId} (remains : definition.Remains met remaining)
    (same : ∀ type ∈ definition.typeIds, type ∈ other ↔ type ∈ met) :
    definition.Remains other remaining where
  once := remains.once
  mem_iff type := by
    rw [remains.mem_iff]
    exact and_congr_right fun listed => not_congr (same type listed).symm

/--
By induction on the tour: on top of a stack, the types that it starts from are worked off with all
that is behind them, and the models among what is met come out in the order of the tour.
-/
theorem modelsMet_of_tours {met entries tour : List TypeId}
    (tours : Tours definition.variantsOf met entries tour)
    (remains : definition.Remains met remaining) (stack : List TypeId) :
    ∃ left, definition.Remains (tour ++ met) left ∧
      definition.modelsMet remaining (entries ++ stack) =
        tour.filter definition.isModel ++ definition.modelsMet left stack := by
  induction tours generalizing remaining stack with
  | done => exact ⟨remaining, remains, rfl⟩
  | again known rest ih =>
    -- What was met remains no longer, so that the stack drops it.
    have outside := mt (remains.mem_iff _).mp fun ⟨_, unknown⟩ => unknown known
    rw [List.cons_append, modelsMet_of_notMem outside]
    exact ih remains stack
  | @enter met entries inner outer id fresh behind rest ihBehind ihRest =>
    -- What comes of the entries after this one, once it was met with all that is behind it.
    have after {mid : List TypeId} (remainsMid : definition.Remains (inner ++ id :: met) mid) :
        ∃ left, definition.Remains (id :: (inner ++ outer) ++ met) left ∧
          definition.modelsMet mid (entries ++ stack) =
            outer.filter definition.isModel ++ definition.modelsMet left stack := by
      obtain ⟨left, remainsLeft, ran⟩ := ihRest remainsMid stack
      refine ⟨left, remainsLeft.of_same fun type _ => ?_, ran⟩
      simp only [List.mem_append, List.mem_cons]
      tauto
    by_cases listed : id ∈ definition.typeIds
    · obtain ⟨mid, remainsMid, ranBehind⟩ := ihBehind (remains.erase id) (entries ++ stack)
      obtain ⟨left, remainsLeft, ran⟩ := after remainsMid
      refine ⟨left, remainsLeft, ?_⟩
      have split : id :: (inner ++ outer) = [id] ++ (inner ++ outer) := rfl
      rw [List.cons_append, modelsMet_of_mem ((remains.mem_iff id).mpr ⟨listed, fresh⟩),
        ranBehind, ran, split, List.filter_append, List.filter_append, List.append_assoc,
        List.append_assoc]
    · -- Outside of the table, there is neither a model nor anything behind it.
      rw [variantsOf_of_notMem listed] at behind
      obtain rfl := Tours.done.unique behind
      obtain ⟨left, remainsLeft, ran⟩ := after (remains.of_same fun type inTable => by
        have other : type ≠ id := fun same => listed (same ▸ inTable)
        simp [other])
      refine ⟨left, remainsLeft, ?_⟩
      rw [List.cons_append, modelsMet_of_notMem (mt (remains.mem_iff id).mp fun ⟨inTable, _⟩ =>
        listed inTable), ran, List.filter_cons, isModel_of_notMem listed]
      rfl

end

/--
The payload of a type is found on a tour from the type that carries it: a union leads on to what it
admits, from the first variant to the last, each with all that is behind it before the next one.

The tour comes to an end, however unions admit one another, and meets each type once that can be
come to through variants alone. Each model on it gives the properties that belong to its payload,
those that it inherits and its own ones, the farthest base first.
-/
theorem payload_is_found_on_a_tour (id : TypeId) :
    (∃ tour, Tours definition.variantsOf [] [definition.payloadType id] tour ∧ tour.Nodup ∧
      (∀ type, type ∈ tour ↔
        Relation.ReflTransGen definition.Admits (definition.payloadType id) type) ∧
      definition.payloadMembers id =
        (tour.filter definition.isModel).flatMap definition.payloadProperties) ∧
    ∀ model, ∃ line, Tours definition.basesOf [] [model] line ∧ line.Nodup ∧
      (∀ base, base ∈ line ↔ Relation.ReflTransGen definition.Derives model base) ∧
      definition.payloadProperties model = line.reverse.flatMap definition.ownPayload := by
  refine ⟨?_, fun model => ⟨definition.lineage model, tours_lineage model,
    (tours_lineage model).nodup, fun _ => mem_lineage, payloadProperties_eq model⟩⟩
  -- Variants are declared in the table only.
  have inside (entry next : TypeId) (isNext : next ∈ definition.variantsOf entry) :
      entry ∈ [] ∨ entry ∈ definition.typeIds := by
    refine Or.inr (Decidable.byContradiction fun outside => ?_)
    rw [variantsOf_of_notMem outside] at isNext
    cases isNext
  obtain ⟨tour, tours⟩ := exists_tours definition.typeIds [] [definition.payloadType id] inside
  have all : definition.Remains [] definition.typeIds := ⟨nodup_typeIds, by simp⟩
  obtain ⟨left, -, ran⟩ := modelsMet_of_tours tours all []
  refine ⟨tour, tours, tours.nodup, fun type => tours.mem_iff, ?_⟩
  rw [List.append_nil, modelsMet, List.append_nil] at ran
  rw [payloadMembers, ran]

end Definition

end ClientModel.Service
