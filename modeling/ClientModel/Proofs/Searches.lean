import Mathlib.Data.Finset.Card
import Mathlib.Data.Finset.Dedup
import Mathlib.Data.Finset.Filter
import ClientModel.Derivation.StatusMonitor
import ClientModel.Proofs.Chains

/-!
Searches through declarations that refer to one another, and whether they end.

A search that is cut off after a number of steps answers more entries of a table the more steps it
is given. Once a further step answers none that was not answered before, no number of steps does.
So one step more than there are entries does as well as any number, and a search that has not ended
by then comes back to where it has been.
-/

namespace ClientModel

/-! ## Searches that are cut off -/

section

variable {α β : Type}

/-- Whatever the one search comes to, the other one comes to as well. -/
def Approximates (fewer more : α → Except α β) : Prop :=
  ∀ id found, fewer id = .ok found → more id = .ok found

/-- A search is cut off after a number of steps, and asks for entries of a table on its way. -/
structure IsSearch (within : Nat → α → Except α β) (table : List α) : Prop where
  /-- Nothing is answered without a step. -/
  start : ∀ id found, within 0 id ≠ .ok found
  /-- The more is answered on the way, the more is answered in the end. -/
  grows : ∀ {fewer more : Nat}, Approximates (within fewer) (within more) →
    Approximates (within (fewer + 1)) (within (more + 1))
  /-- What is not in the table is answered at once. -/
  outside : ∀ id ∉ table, ∃ found, within 1 id = .ok found

/-- A search from an entry comes to something, given steps enough. -/
def Ends (within : Nat → α → Except α β) (id : α) : Prop :=
  ∃ steps found, within steps id = .ok found

/-- On its way from one entry to an answer, a search asks for that of another entry. -/
structure IsAsked (within : Nat → α → Except α β) (asks : α → α → Prop) : Prop where
  /-- Without the answer that is asked for there is none. -/
  needs : ∀ {id next : α} {steps : Nat} {found : β}, asks id next →
    within (steps + 1) id = .ok found → ∃ other, within steps next = .ok other
  /-- A search that does not end asks for an answer that never comes. -/
  waits : ∀ {id : α}, ¬Ends within id → ∃ next, asks id next ∧ ¬Ends within next

variable {within : Nat → α → Except α β} {table : List α} {asks : α → α → Prop}

namespace IsSearch

variable (search : IsSearch within table)
include search

/-- What one step comes to, any further number of them does. -/
theorem approximates_add (steps more : Nat) :
    Approximates (within steps) (within (steps + more)) := by
  -- By induction on the steps, since each takes the answers of one step fewer.
  induction steps with
  | zero => exact fun id found answered => absurd answered (search.start id found)
  | succ steps ih => exact (Nat.add_right_comm steps more 1) ▸ search.grows ih

/-- More steps come to the same. -/
theorem approximates_of_le {fewer more : Nat} (le : fewer ≤ more) :
    Approximates (within fewer) (within more) := by
  -- More steps are some steps and a rest; the rest changes no answer.
  obtain ⟨rest, rfl⟩ := Nat.exists_eq_add_of_le le
  exact search.approximates_add fewer rest

/-- However many steps an answer takes, it is the same. -/
theorem answer_unique {first second : Nat} {id : α} {found other : β}
    (answered : within first id = .ok found) (again : within second id = .ok other) :
    found = other := by
  -- Both are the answer that comes of the larger number of steps.
  have left := search.approximates_of_le (Nat.le_max_left first second) id found answered
  have right := search.approximates_of_le (Nat.le_max_right first second) id other again
  rw [left] at right
  exact Except.ok.inj right

/-- A step that adds no answer is followed by none that does. -/
theorem approximates_of_stable {enough : Nat}
    (stable : Approximates (within (enough + 1)) (within enough))
    (steps : Nat) : Approximates (within steps) (within enough) := by
  have further (more : Nat) : Approximates (within (enough + more)) (within enough) := by
    -- A further step takes the answers of before, which one step has turned into the same.
    induction more with
    | zero => exact fun _ _ answered => answered
    | succ more ih =>
      exact fun id found answered => stable id found (search.grows ih id found answered)
  rcases Nat.le_total steps enough with le | le
  · exact search.approximates_of_le le
  · obtain ⟨more, rfl⟩ := Nat.exists_eq_add_of_le le
    exact further more

variable [DecidableEq α]

omit search in
/-- The entries of the table that some number of steps answers. -/
def answered (within : Nat → α → Except α β) (table : List α) (steps : Nat) : Finset α :=
  {id ∈ table.toFinset | (within steps id).isOk}

omit search in
/-- Of a table, those are answered for whom the search comes to something. -/
theorem mem_answered {id : α} {steps : Nat} :
    id ∈ answered within table steps ↔ id ∈ table ∧ ∃ found, within steps id = .ok found := by
  -- To come to something is to end without an error.
  rw [answered, Finset.mem_filter, List.mem_toFinset]
  cases within steps id <;> simp [Except.isOk, Except.toBool]

/-- A step that adds an answer answers one more entry of the table. -/
theorem card_answered_lt {steps : Nat}
    (unstable : ¬Approximates (within (steps + 2)) (within (steps + 1))) :
    (answered within table (steps + 1)).card < (answered within table (steps + 2)).card := by
  obtain ⟨id, found, isNew, isOpen⟩ : ∃ id found, within (steps + 2) id = .ok found ∧
      within (steps + 1) id ≠ .ok found := by
    simpa only [Approximates, not_forall, exists_prop] using unstable
  -- What was answered stays so, and an entry that is new was not.
  have grown := search.approximates_of_le (Nat.le_succ (steps + 1))
  have unanswered : ¬∃ other, within (steps + 1) id = .ok other := by
    rintro ⟨other, early⟩
    exact isOpen (search.answer_unique isNew (grown id other early) ▸ early)
  -- An entry that takes more than a step is one of the table.
  have inside : id ∈ table := by
    by_contra outside
    obtain ⟨other, atOnce⟩ := search.outside id outside
    exact unanswered ⟨other, search.approximates_of_le (Nat.le_add_left 1 steps) id other atOnce⟩
  refine Finset.card_lt_card
    (Finset.ssubset_iff_subset_ne.mpr ⟨fun other early => ?_, fun same => ?_⟩)
  · obtain ⟨listed, answer, isAnswer⟩ := mem_answered.mp early
    exact mem_answered.mpr ⟨listed, answer, grown other answer isAnswer⟩
  · exact unanswered (mem_answered.mp (same ▸ mem_answered.mpr ⟨inside, found, isNew⟩)).2

/-- By the time that all entries of the table could have been answered, a step adds no answer. -/
theorem exists_stable :
    ∃ steps ≤ table.length, Approximates (within (steps + 2)) (within (steps + 1)) := by
  by_contra! unstable
  -- Otherwise every step up to then answers a further entry, which makes more than there are.
  have many (steps : Nat) (le : steps ≤ table.length + 1) :
      steps ≤ (answered within table (steps + 1)).card := by
    induction steps with
    | zero => exact Nat.zero_le _
    | succ steps ih =>
      exact Nat.lt_of_le_of_lt (ih (by omega))
        (search.card_answered_lt (unstable steps (by omega)))
  have few : (answered within table (table.length + 1 + 1)).card ≤ table.length :=
    (Finset.card_filter_le _ _).trans (List.toFinset_card_le table)
  exact absurd (many (table.length + 1) le_rfl) (by omega)

/-- One step more than there are entries in the table comes to whatever any number of them does. -/
theorem enough {steps : Nat} {id : α} {found : β} (answered : within steps id = .ok found) :
    within (table.length + 1) id = .ok found := by
  -- Before the table is used up the set of those answered no longer grows, and from there on it is
  -- final.
  obtain ⟨enough, le, stable⟩ := search.exists_stable
  exact search.approximates_of_le (Nat.succ_le_succ le) id found
    (search.approximates_of_stable stable steps id found answered)

/-- A search ends just if one step more than there are entries in the table suffices. -/
theorem ends_iff {id : α} : Ends within id ↔ ∃ found, within (table.length + 1) id = .ok found :=
  ⟨fun ⟨_, found, answered⟩ => ⟨found, search.enough answered⟩, fun answered => ⟨_, answered⟩⟩

omit [DecidableEq α] in
/-- All searches end just if none comes back to where it has been. -/
theorem all_end_iff (asked : IsAsked within asks) :
    (∀ id, Ends within id) ↔ ∀ id, ¬Relation.TransGen asks id id := by
  constructor
  · intro ends id cyclic
    -- No number of steps suffices anywhere on a cycle, where each takes the answer of the next.
    have never (steps : Nat) : ∀ id, Relation.TransGen asks id id →
        ∀ found, within steps id ≠ .ok found := by
      induction steps with
      | zero => exact fun id _ found => search.start id found
      | succ steps ih =>
        intro id cyclic found answered
        obtain ⟨next, step, back⟩ := Relation.TransGen.head'_iff.mp cyclic
        obtain ⟨other, isOther⟩ := asked.needs step answered
        exact ih next (.tail' back step) other isOther
    obtain ⟨steps, found, answered⟩ := ends id
    exact never steps id cyclic found answered
  · intro acyclic id
    by_contra endless
    -- A search without an end goes on and on through the table, which is too short for that.
    have line (left : Nat) : ∀ met id, Service.Line asks table met id → ¬Ends within id →
        table.length < met.length + left → False := by
      induction left with
      | zero => exact fun met id line _ long => absurd line.length_le (by omega)
      | succ left ih =>
        intro met id line endless long
        obtain ⟨next, step, still⟩ := asked.waits endless
        have inside : id ∈ table := by
          by_contra outside
          exact endless ⟨1, search.outside id outside⟩
        exact ih _ next (line.cons acyclic inside step) still (by rw [List.length_cons]; omega)
    exact line (table.length + 1) [] id .start endless (by simp)

end IsSearch

end

namespace Service.Definition

variable (definition : Definition)

/-! ## The nearest encoding of a scalar -/

/-- The scalar has no encoding of its own, and another one as its base. -/
def DefersTo (id base : TypeId) : Prop :=
  ∃ scalar, definition.shapeAt id = .scalar scalar ∧ scalar.encode = none ∧
    scalar.base = some base ∧ base ≠ id

/-- The nearest encoding among a scalar and its bases; what follows the last step is left open. -/
def encodingOr (exhausted : TypeId → Except TypeId (Option String)) :
    Nat → TypeId → Except TypeId (Option String)
  | 0, id => exhausted id
  | steps + 1, id =>
    match definition.shapeAt id with
    | .scalar scalar =>
      match scalar.encode, scalar.base with
      | some encode, _ => .ok (some encode)
      | none, some base => if base = id then .ok none else encodingOr exhausted steps base
      | none, none => .ok none
    | _ => .ok none

variable {definition}

/-- A walk that is left open may be cut off at its last step as well. -/
theorem encodingWithin_eq : definition.encodingWithin = definition.encodingOr Except.error := by
  funext steps
  -- By induction on the steps; one step of both is the same step of what remains.
  induction steps with
  | zero => rfl
  | succ steps ih =>
    funext id
    cases shape : definition.shapeAt id with
    | scalar scalar =>
      cases own : scalar.encode with
      | some encode => simp [encodingWithin, encodingOr, shape, own]
      | none => cases base : scalar.base <;> simp [encodingWithin, encodingOr, shape, own, base, ih]
    | _ => simp [encodingWithin, encodingOr, shape]

/-- A scalar that defers to its base takes the encoding of that. -/
theorem encodingOr_of_defersTo {id base : TypeId} (defers : definition.DefersTo id base)
    (exhausted : TypeId → Except TypeId (Option String)) (steps : Nat) :
    definition.encodingOr exhausted (steps + 1) id =
      definition.encodingOr exhausted steps base := by
  -- A scalar without an encoding of its own, whose base is another type, passes the question on.
  obtain ⟨scalar, shape, noEncode, isBase, other⟩ := defers
  simp only [encodingOr, shape, noEncode, isBase, if_neg other]

/-- What defers to nothing else has its encoding, or none, after a single step. -/
theorem encodingOr_of_not_defersTo {id : TypeId} (last : ∀ base, ¬definition.DefersTo id base) :
    ∃ encode, ∀ exhausted steps, definition.encodingOr exhausted (steps + 1) id = .ok encode := by
  cases shape : definition.shapeAt id with
  | scalar scalar =>
    cases isEncode : scalar.encode with
    | some encode => exact ⟨some encode, fun _ _ => by simp only [encodingOr, shape, isEncode]⟩
    | none =>
      cases isBase : scalar.base with
      | none => exact ⟨none, fun _ _ => by simp only [encodingOr, shape, isEncode, isBase]⟩
      | some base =>
        -- The base of a scalar that defers to nothing can only be the scalar itself.
        have own : base = id := by
          by_contra other
          exact last base ⟨scalar, shape, isEncode, isBase, other⟩
        exact ⟨none, fun _ _ => by simp only [encodingOr, shape, isEncode, isBase, if_pos own]⟩
  | _ => exact ⟨none, fun _ _ => by simp only [encodingOr, shape]⟩

/-- What is not declared defers to nothing. -/
theorem not_defersTo_of_notMem {id : TypeId} (outside : id ∉ definition.typeIds) (base : TypeId) :
    ¬definition.DefersTo id base := by
  -- A place beyond the table reads as the unknown type, which is no scalar.
  rintro ⟨scalar, shape, -⟩
  rw [shapeAt_of_notMem outside] at shape
  cases shape

/-- The answers of a walk do not depend on what follows its last step. -/
theorem encodingOr_of_encodingWithin (exhausted : TypeId → Except TypeId (Option String))
    (steps : Nat) :
    Approximates (definition.encodingWithin steps) (definition.encodingOr exhausted steps) := by
  rw [encodingWithin_eq]
  -- By induction on the steps: a walk that goes on does so to the same base.
  induction steps with
  | zero => exact fun id found answered => by cases answered
  | succ steps ih =>
    intro id found answered
    by_cases defers : ∃ base, definition.DefersTo id base
    · obtain ⟨base, toBase⟩ := defers
      rw [encodingOr_of_defersTo toBase] at answered ⊢
      exact ih base found answered
    · obtain ⟨encode, atOnce⟩ := encodingOr_of_not_defersTo (not_exists.mp defers)
      rw [atOnce] at answered ⊢
      exact answered

/-- The walk to the nearest encoding is a search through the types. -/
theorem encoding_isSearch : IsSearch definition.encodingWithin definition.typeIds where
  start id found answered := by cases answered
  -- A type that defers is answered as its base is, and another one at once.
  grows {fewer more} approximates id found answered := by
    rw [encodingWithin_eq] at approximates answered ⊢
    by_cases defers : ∃ base, definition.DefersTo id base
    · obtain ⟨base, toBase⟩ := defers
      rw [encodingOr_of_defersTo toBase] at answered ⊢
      exact approximates base found answered
    · obtain ⟨encode, atOnce⟩ := encodingOr_of_not_defersTo (not_exists.mp defers)
      rw [atOnce] at answered ⊢
      exact answered
  -- A type that is not declared has no base to defer to.
  outside id outside := by
    obtain ⟨encode, atOnce⟩ := encodingOr_of_not_defersTo (not_defersTo_of_notMem outside)
    rw [encodingWithin_eq]
    exact ⟨encode, atOnce _ 0⟩

/-- On the walk to the nearest encoding, a scalar asks for that of the base it defers to. -/
theorem encoding_isAsked : IsAsked definition.encodingWithin definition.DefersTo where
  needs {id base steps found} defers answered := by
    rw [encodingWithin_eq] at answered ⊢
    rw [encodingOr_of_defersTo defers] at answered
    exact ⟨found, answered⟩
  -- The base is what a type without answer waits for; without any it would be answered.
  waits {id} endless := by
    rw [encodingWithin_eq] at endless ⊢
    by_contra! noneWaits
    by_cases defers : ∃ base, definition.DefersTo id base
    · obtain ⟨base, toBase⟩ := defers
      obtain ⟨steps, found, answered⟩ := noneWaits base toBase
      exact endless ⟨steps + 1, found, (encodingOr_of_defersTo toBase _ _).trans answered⟩
    · obtain ⟨encode, atOnce⟩ := encodingOr_of_not_defersTo (not_exists.mp defers)
      exact endless ⟨1, encode, atOnce _ 0⟩

/-- The nearest encoding is what a walk of any number of steps comes to. -/
theorem encoding?_eq_ok_iff {id : TypeId} {found : Option String} :
    definition.encoding? id = .ok found ↔
      ∃ steps, definition.encodingWithin steps id = .ok found := by
  -- The bound that is built in is one more than the types, and those are steps enough.
  refine ⟨fun answered => ⟨_, answered⟩, fun ⟨steps, answered⟩ => ?_⟩
  have enough := encoding_isSearch.enough answered
  rwa [length_typeIds] at enough

/-- Every walk to the nearest encoding ends just if no scalar defers to itself in the end. -/
theorem encodings_end_iff :
    (∀ id, ∃ found, definition.encoding? id = .ok found) ↔
      ∀ id, ¬Relation.TransGen definition.DefersTo id id := by
  -- Walks that end are those without a cycle, as for searches of any kind.
  rw [← encoding_isSearch.all_end_iff encoding_isAsked]
  refine forall_congr' fun id => ?_
  rw [encoding_isSearch.ends_iff, length_typeIds]
  rfl

/-- Where no scalar is its own base in the end, the walk to the nearest encoding ends by itself. -/
theorem encodingOr_eq_encoding? (acyclic : ∀ id, ¬Relation.TransGen definition.Extends id id)
    (exhausted : TypeId → Except TypeId (Option String)) {steps : Nat}
    (enough : definition.types.size < steps) (id : TypeId) :
    definition.encodingOr exhausted steps id = definition.encoding? id := by
  -- What a scalar defers to is its base.
  have base (id base : TypeId) (defers : definition.DefersTo id base) :
      definition.Extends id base := by
    obtain ⟨scalar, shape, -, isBase, -⟩ := defers
    rw [Extends, scalarBase?, shape]
    exact isBase
  obtain ⟨found, answered⟩ := encodings_end_iff.mpr
    (fun id cyclic => acyclic id (Relation.TransGen.mono base _ _ cyclic)) id
  rw [answered]
  exact encodingOr_of_encodingWithin exhausted steps id found
    (encoding_isSearch.approximates_of_le enough id found answered)

end Service.Definition

namespace Derivation

open Service (Definition)

variable {definition : Definition}

/-! ## The search for a status -/

/-- The search for a status goes on from a union to a variant: those before it come to none. -/
def LooksInto (definition : Definition) (id next : TypeId) : Prop :=
  ∃ union before variant after,
    definition.shapeAt (definition.payloadType id) = .union union ∧
      union.variants = before ++ variant :: after ∧
      (∀ other ∈ before, ∃ steps, monitorWithin definition steps other.type = .ok none) ∧
      variant.type = next

/-- A type is followed by whatever it is a union of. -/
def Unites (definition : Definition) (id next : TypeId) : Prop :=
  ∃ union, definition.shapeAt (definition.payloadType id) = .union union ∧
    ∃ variant ∈ union.variants, variant.type = next

/-- Of the answers in a row, the first one that finds something counts. -/
theorem findSomeM?_cons_eq_ok_iff {α β ε : Type} {search : α → Except ε (Option β)} {first : α}
    {rest : List α} {found : Option β} :
    (first :: rest).findSomeM? search = .ok found ↔
      (∃ value, search first = .ok (some value) ∧ found = some value) ∨
        search first = .ok none ∧ rest.findSomeM? search = .ok found := by
  -- The first search fails, finds something, or passes on to the rest.
  rw [List.findSomeM?]
  cases search first with
  | error cause => simp [bind, Except.bind]
  | ok answer => cases answer <;> simp [bind, Except.bind, pure, Except.pure, eq_comm]

/-- Where each of the answers in a row stays, what they come to stays as well. -/
theorem findSomeM?_mono {α β ε : Type} {fewer more : α → Except ε (Option β)} {entries : List α}
    (grown : ∀ entry ∈ entries, ∀ found, fewer entry = .ok found → more entry = .ok found)
    {found : Option β} (answered : entries.findSomeM? fewer = .ok found) :
    entries.findSomeM? more = .ok found := by
  -- By induction on the row: a first find stays, and what was passed over is passed over again.
  induction entries with
  | nil => exact answered
  | cons first rest ih =>
    rw [findSomeM?_cons_eq_ok_iff] at answered ⊢
    refine answered.imp ?_ fun ⟨isNone, later⟩ => ?_
    · exact fun ⟨value, isValue, isFound⟩ => ⟨value, grown _ List.mem_cons_self _ isValue, isFound⟩
    · exact ⟨grown _ List.mem_cons_self _ isNone,
        ih (fun entry listed => grown entry (List.mem_cons_of_mem _ listed)) later⟩

/-- A union is searched by its variants in turn. -/
theorem monitorWithin_of_union {id : TypeId} {union : Service.Union}
    (shape : definition.shapeAt (definition.payloadType id) = .union union) (steps : Nat) :
    monitorWithin definition (steps + 1) id =
      union.variants.findSomeM? fun variant => monitorWithin definition steps variant.type := by
  simp only [monitorWithin, shape]

/-- What is no union has its status, or none, after a single step. -/
theorem monitorWithin_of_not_union {id : TypeId}
    (other : ∀ union, definition.shapeAt (definition.payloadType id) ≠ .union union) :
    ∃ found, ∀ steps, monitorWithin definition (steps + 1) id = .ok found := by
  -- By cases on the shape: a model is looked at for its status, and nothing else has one.
  cases shape : definition.shapeAt (definition.payloadType id) with
  | union union => exact absurd shape (other union)
  | model model =>
    exact ⟨(statusOf? definition (definition.payloadType id)).map (definition.payloadType id, ·),
      fun _ => by simp only [monitorWithin, shape]⟩
  | _ => exact ⟨none, fun _ => by simp only [monitorWithin, shape]⟩

/-- The search for a status is one through the types. -/
theorem monitor_isSearch : IsSearch (monitorWithin definition) definition.typeIds where
  start id found answered := by cases answered
  grows {fewer more} approximates id found answered := by
    by_cases united : ∃ union, definition.shapeAt (definition.payloadType id) = .union union
    · obtain ⟨union, shape⟩ := united
      rw [monitorWithin_of_union shape] at answered ⊢
      exact findSomeM?_mono (fun variant _ => approximates variant.type) answered
    · -- What is no union is answered after one step, however many there are.
      obtain ⟨status, atOnce⟩ := monitorWithin_of_not_union (not_exists.mp united)
      rw [atOnce] at answered ⊢
      exact answered
  outside id outside := by
    have shape := Definition.shapeAt_of_notMem outside
    -- Only a model may stand for another type.
    have own : definition.payloadType id = id := by
      simp [Definition.payloadType, Definition.model?, shape]
    have other (union : Service.Union) :
        definition.shapeAt (definition.payloadType id) ≠ .union union := by
      simp [own, shape]
    obtain ⟨status, atOnce⟩ := monitorWithin_of_not_union other
    exact ⟨status, atOnce 0⟩

/-- In a row that comes to something, so does each entry with nothing before it. -/
theorem ok_of_findSomeM?_append {α β ε : Type} (search : α → Except ε (Option β))
    {before after : List α} {entry : α} {found : Option β}
    (none : ∀ other ∈ before, ∀ answer, search other = .ok answer → answer = none)
    (answered : (before ++ entry :: after).findSomeM? search = .ok found) :
    ∃ answer, search entry = .ok answer := by
  -- By induction on what comes before: none of it ends the row.
  induction before with
  | nil =>
    rcases findSomeM?_cons_eq_ok_iff.mp answered with ⟨value, isValue, -⟩ | ⟨isNone, -⟩
    · exact ⟨_, isValue⟩
    · exact ⟨_, isNone⟩
  | cons first rest ih =>
    rcases findSomeM?_cons_eq_ok_iff.mp answered with ⟨value, isValue, -⟩ | ⟨-, later⟩
    · cases none first List.mem_cons_self _ isValue
    · exact ih (fun other listed => none other (List.mem_cons_of_mem _ listed)) later

/-- Either the search through some variants ends, or there is a first one where it does not. -/
theorem exists_endless_variant (definition : Definition) (variants : List Service.Variant) :
    (∃ steps found,
      variants.findSomeM? (fun variant => monitorWithin definition steps variant.type) =
        .ok found) ∨
    ∃ before variant after, variants = before ++ variant :: after ∧
      (∀ other ∈ before, ∃ steps, monitorWithin definition steps other.type = .ok none) ∧
      ¬Ends (monitorWithin definition) variant.type := by
  -- By induction on the variants, the first of which ends or is the one looked for.
  induction variants with
  | nil => exact Or.inl ⟨0, none, rfl⟩
  | cons first rest ih =>
    by_cases ends : Ends (monitorWithin definition) first.type
    · obtain ⟨early, answer, answered⟩ := ends
      cases answer with
      | some value =>
        exact Or.inl
          ⟨early, some value, findSomeM?_cons_eq_ok_iff.mpr (Or.inl ⟨value, answered, rfl⟩)⟩
      | none =>
        rcases ih with
          ⟨late, found, isFound⟩ | ⟨before, variant, after, isSplit, fruitless, endless⟩
        · -- With as many steps as the first variant and the others take together, all have theirs.
          refine Or.inl ⟨early + late, found, findSomeM?_cons_eq_ok_iff.mpr (Or.inr ⟨?_, ?_⟩)⟩
          · exact monitor_isSearch.approximates_add early late _ _ answered
          · refine findSomeM?_mono (fun variant _ => ?_) isFound
            exact Nat.add_comm late early ▸
              monitor_isSearch.approximates_add late early variant.type
        · refine Or.inr
            ⟨first :: before, variant, after, by rw [isSplit, List.cons_append], ?_, endless⟩
          intro other listed
          rcases List.mem_cons.mp listed with rfl | later
          · exact ⟨early, answered⟩
          · exact fruitless other later
    · exact Or.inr ⟨[], first, rest, rfl, by simp, ends⟩

/-- The search for a status asks for that of each variant until one of them has it. -/
theorem monitor_isAsked : IsAsked (monitorWithin definition) (LooksInto definition) where
  -- What a union comes to is what its variants come to in their row.
  needs {id next steps found} looks answered := by
    obtain ⟨union, before, variant, after, shape, isSplit, fruitless, rfl⟩ := looks
    rw [monitorWithin_of_union shape, isSplit] at answered
    refine ok_of_findSomeM?_append (fun variant : Service.Variant =>
      monitorWithin definition steps variant.type) (fun other listed answer isAnswer => ?_) answered
    obtain ⟨early, isNone⟩ := fruitless other listed
    exact monitor_isSearch.answer_unique isAnswer isNone
  -- Only a union waits for anything, namely for its first variant without end.
  waits {id} endless := by
    by_cases united : ∃ union, definition.shapeAt (definition.payloadType id) = .union union
    · obtain ⟨union, shape⟩ := united
      rcases exists_endless_variant definition union.variants with
        ⟨steps, found, answered⟩ | ⟨before, variant, after, isSplit, fruitless, still⟩
      · exact absurd ⟨steps + 1, found, (monitorWithin_of_union shape steps).trans answered⟩ endless
      · exact ⟨_, ⟨union, before, variant, after, shape, isSplit, fruitless, rfl⟩, still⟩
    · obtain ⟨found, atOnce⟩ := monitorWithin_of_not_union (not_exists.mp united)
      exact absurd ⟨1, found, atOnce 0⟩ endless

/-- Every search for a status ends just if none comes back to a union that it is looking into. -/
theorem monitors_end_iff :
    (∀ id, ∃ found, monitor? definition id = .ok found) ↔
      ∀ id, ¬Relation.TransGen (LooksInto definition) id id := by
  -- Searches that end are those without a cycle, as for searches of any kind.
  rw [← monitor_isSearch.all_end_iff monitor_isAsked]
  refine forall_congr' fun id => ?_
  rw [monitor_isSearch.ends_iff, Definition.length_typeIds]
  rfl

/-- Where no union is among its own variants in the end, every search for a status ends. -/
theorem looksInto_acyclic (acyclic : ∀ id, ¬Relation.TransGen (Unites definition) id id)
    (id : TypeId) : ¬Relation.TransGen (LooksInto definition) id id := by
  -- To look into a variant is to have it as a variant, so a cycle of the one is a cycle of the
  -- other.
  refine fun cyclic => acyclic id (Relation.TransGen.mono ?_ _ _ cyclic)
  rintro id next ⟨union, before, variant, after, shape, isSplit, -, rfl⟩
  exact ⟨union, shape, variant, by simp [isSplit], rfl⟩

/-! ## Definitions that can be searched -/

/-- Neither the walk to an encoding nor the search for a status comes back to where it has been. -/
structure Searchable (definition : Definition) : Prop where
  encodings : ∀ id, ¬Relation.TransGen definition.DefersTo id id
  statuses : ∀ id, ¬Relation.TransGen (LooksInto definition) id id

/-- A definition can be searched just if all searches through it end. -/
theorem searchable_iff :
    Searchable definition ↔ (∀ id, ∃ encode, definition.encoding? id = .ok encode) ∧
      ∀ id, ∃ found, monitor? definition id = .ok found := by
  -- Each half is the lemma about its own search.
  rw [Definition.encodings_end_iff, monitors_end_iff]
  exact ⟨fun searchable => ⟨searchable.1, searchable.2⟩, fun both => ⟨both.1, both.2⟩⟩

/-- It suffices that the searches from the types that are declared end. -/
theorem searchable_iff_declared :
    Searchable definition ↔ ∀ id ∈ definition.typeIds,
      (definition.encoding? id).isOk = true ∧ (monitor? definition id).isOk = true := by
  have isOk_iff {β : Type} (answer : Except TypeId β) :
      answer.isOk = true ↔ ∃ found, answer = .ok found := by
    cases answer <;> simp [Except.isOk, Except.toBool]
  -- From what is not declared, both searches end at once.
  have encoding {id : TypeId} (outside : id ∉ definition.typeIds) :
      ∃ encode, definition.encoding? id = .ok encode := by
    obtain ⟨encode, atOnce⟩ := Definition.encoding_isSearch.outside id outside
    exact ⟨encode,
      Definition.encoding_isSearch.approximates_of_le (Nat.le_add_left 1 _) id _ atOnce⟩
  have monitor {id : TypeId} (outside : id ∉ definition.typeIds) :
      ∃ found, monitor? definition id = .ok found := by
    obtain ⟨found, atOnce⟩ := monitor_isSearch.outside id outside
    exact ⟨found, monitor_isSearch.approximates_of_le (Nat.le_add_left 1 _) id _ atOnce⟩
  -- Each of the two searches is asked type by type.
  rw [searchable_iff]
  constructor
  · exact fun both id _ => ⟨(isOk_iff _).mpr (both.1 id), (isOk_iff _).mpr (both.2 id)⟩
  · intro each
    refine ⟨fun id => ?_, fun id => ?_⟩
    · by_cases inside : id ∈ definition.typeIds
      · exact (isOk_iff _).mp (each id inside).1
      · exact encoding inside
    · by_cases inside : id ∈ definition.typeIds
      · exact (isOk_iff _).mp (each id inside).2
      · exact monitor inside

instance (definition : Definition) : Decidable (Searchable definition) :=
  decidable_of_iff _ searchable_iff_declared.symm

/-- Where a row of searches comes to something, that is the first thing any of them finds. -/
theorem findSome?_of_findSomeM? {α β ε : Type} {search : α → Except ε (Option β)} {entries : List α}
    {found : Option β} (answered : entries.findSomeM? search = .ok found) :
    entries.findSome? (fun entry => (search entry).toOption.join) = found := by
  -- By induction on the row, as both searches take the first find.
  induction entries with
  | nil => exact Except.ok.inj answered
  | cons first rest ih =>
    rw [List.findSome?_cons]
    rcases findSomeM?_cons_eq_ok_iff.mp answered with ⟨value, isValue, rfl⟩ | ⟨isNone, later⟩
    · simp [isValue, Except.toOption]
    · simpa [isNone, Except.toOption] using ih later

/-- If each of some searches ends, so does the one for the first of them that finds something. -/
theorem findSomeM?_isOk {α β ε : Type} {search : α → Except ε (Option β)} (entries : List α)
    (each : ∀ entry ∈ entries, ∃ found, search entry = .ok found) :
    ∃ found, entries.findSomeM? search = .ok found := by
  -- By induction on the row: either the first entry has something, or the rest decides.
  induction entries with
  | nil => exact ⟨none, rfl⟩
  | cons first rest ih =>
    obtain ⟨answer, answered⟩ := each first List.mem_cons_self
    cases answer with
    | some value =>
      exact ⟨some value, findSomeM?_cons_eq_ok_iff.mpr (Or.inl ⟨value, answered, rfl⟩)⟩
    | none =>
      obtain ⟨found, later⟩ := ih fun entry listed => each entry (List.mem_cons_of_mem _ listed)
      exact ⟨found, findSomeM?_cons_eq_ok_iff.mpr (Or.inr ⟨answered, later⟩)⟩

/-- The search among some types ends if that from each of them does. -/
theorem findSomeM?_finalMonitor?_isOk {context : Context} {types : List TypeId}
    (each : ∀ type ∈ types, ∃ found, monitor? context.definition type = .ok found) :
    ∃ found, types.findSomeM? context.finalMonitor? = .ok found := by
  -- One type after the other; none of the searches fails, so the row does not.
  refine findSomeM?_isOk types fun type listed => ?_
  obtain ⟨found, isFound⟩ := each type listed
  exact ⟨found.bind context.withStates?, by rw [Context.finalMonitor?, isFound, Except.map]⟩

end Derivation

end ClientModel
