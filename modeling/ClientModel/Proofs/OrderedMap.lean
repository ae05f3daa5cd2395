import ClientModel.OrderedMap

/-! Laws of ordered maps: what a key has after the value of a key is set. -/

namespace ClientModel.OrderedMap

variable {α β : Type} [BEq α] [LawfulBEq α]

/-- An entry that is set is found under its key, and others are found as before. -/
theorem lookup_insertEntry (key other : α) (value : β) (entries : List (α × β)) :
    (insertEntry key value entries).lookup other =
      if other == key then some value else entries.lookup other := by
  -- By induction on the entries: the key is set where it is met, or else at the end.
  induction entries with
  | nil =>
    rw [insertEntry, List.lookup_cons]
    split
    · rename_i same
      rw [if_pos same]
    · rename_i apart
      rw [if_neg (by simp [apart])]
  | cons entry entries ih =>
    obtain ⟨first, old⟩ := entry
    rw [insertEntry]
    by_cases same : first = key
    · subst same
      rw [if_pos (by simp), List.lookup_cons, List.lookup_cons]
      cases met : other == first with
      | true => simp
      | false => simp
    · rw [if_neg (by simpa using same), List.lookup_cons, List.lookup_cons, ih]
      -- The first entry counts only for its own key, which is not the one that is set.
      cases met : other == first with
      | true =>
        have apart : other ≠ key := fun isKey => same ((beq_iff_eq.mp met).symm.trans isKey)
        simp [apart]
      | false => rfl

/-- A key that is set has its value, and others have theirs as before. -/
theorem get?_insert (map : OrderedMap α β) (key other : α) (value : β) :
    (map.insert key value).get? other = if other == key then some value else map.get? other :=
  lookup_insertEntry key other value map.entries

/-- A key that is set has its value. -/
@[simp] theorem get?_insert_self (map : OrderedMap α β) (key : α) (value : β) :
    (map.insert key value).get? key = some value := by
  rw [get?_insert, if_pos (beq_self_eq_true key)]

/-- Any other key has the value it had. -/
theorem get?_insert_ne (map : OrderedMap α β) {key other : α} (value : β) (apart : other ≠ key) :
    (map.insert key value).get? other = map.get? other := by
  rw [get?_insert, if_neg (by simpa using apart)]

/-- What a key is found to have after a key is set is what was set, or what it had before. -/
theorem get?_insert_cases {map : OrderedMap α β} {key other : α} {value found : β}
    (known : (map.insert key value).get? other = some found) :
    other = key ∧ found = value ∨ map.get? other = some found := by
  -- By cases on whether it is the key that was set.
  rw [get?_insert] at known
  split at known
  · rename_i isKey
    exact Or.inl ⟨beq_iff_eq.mp isKey, (Option.some.inj known).symm⟩
  · exact Or.inr known

/-- What is known stays known where a key is set that has no other value. -/
theorem get?_insert_of_get? {map : OrderedMap α β} {key other : α} {value found : β}
    (same : ∀ first, map.get? key = some first → first = value)
    (known : map.get? other = some found) : (map.insert key value).get? other = some found := by
  -- At the key itself the value is the one that it had; at other keys nothing happens.
  by_cases isKey : other = key
  · subst isKey
    rw [get?_insert_self, same found known]
  · rw [get?_insert_ne _ _ isKey, known]

/-- A key without a value goes last when it is set. -/
theorem entries_insert_of_get? {map : OrderedMap α β} {key : α} (value : β)
    (fresh : map.get? key = none) :
    (map.insert key value).entries = map.entries ++ [(key, value)] := by
  -- Of the entries alone it is shown by induction on them.
  have entries (list : List (α × β)) (absent : list.lookup key = none) :
      insertEntry key value list = list ++ [(key, value)] := by
    induction list with
    | nil => rfl
    | cons entry rest ih =>
      rw [List.lookup_cons] at absent
      cases met : key == entry.1 with
      | true => simp [met] at absent
      | false =>
        -- The first entry has another key, so that the search goes on behind it.
        rw [met] at absent
        have apart : ¬(entry.1 == key) = true := by
          intro same
          rw [beq_iff_eq.mp same, beq_self_eq_true] at met
          cases met
        rw [insertEntry, if_neg apart, ih absent, List.cons_append]
  exact entries map.entries fresh

/-- A value that is set is the only new one. -/
theorem mem_values_insert {map : OrderedMap α β} {key : α} {value other : β}
    (member : other ∈ (map.insert key value).values) : other = value ∨ other ∈ map.values := by
  -- The value takes the place of the one that the key had, or comes last.
  have entries (list : List (α × β)) (listed : other ∈ (insertEntry key value list).map Prod.snd) :
      other = value ∨ other ∈ list.map Prod.snd := by
    induction list with
    | nil => simpa [insertEntry] using listed
    | cons entry rest ih =>
      rw [insertEntry] at listed
      split at listed
      · rcases List.mem_cons.mp listed with new | old
        · exact Or.inl new
        · exact Or.inr (List.mem_cons_of_mem _ old)
      · rcases List.mem_cons.mp listed with first | later
        · exact Or.inr (first ▸ List.mem_cons_self)
        · exact (ih later).imp_right (List.mem_cons_of_mem _)
  exact entries map.entries member

/-- Where every key comes once, looking a key up finds the one entry that it has. -/
theorem lookup_eq_some_iff {entries : List (α × β)} (once : (entries.map Prod.fst).Nodup)
    (key : α) (value : β) : entries.lookup key = some value ↔ (key, value) ∈ entries := by
  induction entries with
  | nil => simp
  | cons entry rest ih =>
    obtain ⟨first, others⟩ := List.nodup_cons.mp once
    rw [List.lookup_cons, List.mem_cons]
    cases met : key == entry.1 with
    | true =>
      obtain rfl : key = entry.1 := beq_iff_eq.mp met
      -- The key is spent on the first entry, so no later one has it.
      have spent : (entry.1, value) ∉ rest := fun later =>
        first (List.mem_map.mpr ⟨_, later, rfl⟩)
      simp [spent, Prod.ext_iff, eq_comm]
    | false =>
      have apart : key ≠ entry.1 := by simpa using met
      simp only [ih others, Prod.ext_iff, apart, false_and, false_or]

/-- A key has the value with which it is listed, since no key is listed twice. -/
theorem get?_eq_some_iff (map : OrderedMap α β) (key : α) (value : β) :
    map.get? key = some value ↔ (key, value) ∈ map.entries :=
  lookup_eq_some_iff map.once key value

/-- A key that is set is the only one that may be new. -/
theorem mem_keys_insert (map : OrderedMap α β) (key other : α) (value : β) :
    other ∈ (map.insert key value).keys ↔ other = key ∨ other ∈ map.keys :=
  mem_keys_insertEntry key other value map.entries

/-- The keys are what has a value. -/
theorem mem_keys_iff (map : OrderedMap α β) (key : α) :
    key ∈ map.keys ↔ (map.get? key).isSome := by
  -- A key is in the list of entries just if the lookup finds it there.
  rw [get?, List.lookup_isSome_iff, keys, List.mem_map]
  simp only [beq_iff_eq, eq_comm (a := key)]

end ClientModel.OrderedMap
