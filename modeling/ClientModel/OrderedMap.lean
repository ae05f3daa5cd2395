/-! Maps that keep their entries in the order in which the keys first came. -/

namespace ClientModel

/--
A map held as its entries, in the order in which their keys were first inserted. No key has two
of them, so that a map cannot be built that repeats one.
-/
@[ext]
structure OrderedMap (α β : Type) where
  entries : List (α × β) := []
  once : (entries.map Prod.fst).Nodup := by exact List.nodup_nil

namespace OrderedMap

variable {α β γ : Type}

/-- The map without entries. -/
def empty : OrderedMap α β := {}

/-- The keys, in order. -/
def keys (map : OrderedMap α β) : List α :=
  map.entries.map Prod.fst

/-- The values, in the order of their keys. -/
def values (map : OrderedMap α β) : List β :=
  map.entries.map Prod.snd

/-- How many keys have a value. -/
def size (map : OrderedMap α β) : Nat :=
  map.entries.length

/-- The map has no entries. -/
def isEmpty (map : OrderedMap α β) : Bool :=
  map.entries.isEmpty

/-- Every key comes once. -/
theorem nodup_keys (map : OrderedMap α β) : map.keys.Nodup :=
  map.once

/-- The entries whose value passes a test. -/
def filterValues (map : OrderedMap α β) (keep : β → Bool) : OrderedMap α β where
  entries := map.entries.filter fun entry => keep entry.2
  -- Keys are only left out.
  once := map.once.sublist (List.filter_sublist.map Prod.fst)

/-- Entries to whose value a function gives another still have their keys in order. -/
theorem keys_filterMap_sublist (f : β → Option γ) (entries : List (α × β)) :
    ((entries.filterMap fun entry => (f entry.2).map (entry.1, ·)).map Prod.fst).Sublist
      (entries.map Prod.fst) := by
  induction entries with
  | nil => exact List.Sublist.refl _
  | cons entry entries ih =>
    rw [List.filterMap_cons, List.map_cons]
    cases f entry.2 with
    | none => exact ih.cons _
    | some value => exact ih.cons_cons _

/-- The entries to whose value a function gives another, with that value. -/
def filterMap (map : OrderedMap α β) (f : β → Option γ) : OrderedMap α γ where
  entries := map.entries.filterMap fun entry => (f entry.2).map (entry.1, ·)
  once := map.once.sublist (keys_filterMap_sublist f map.entries)

section Lookup

variable [BEq α]

/-- The value of a key. -/
def get? (map : OrderedMap α β) (key : α) : Option β :=
  map.entries.lookup key

/-- The map has a value for the key. -/
def contains (map : OrderedMap α β) (key : α) : Bool :=
  (map.get? key).isSome

/-- Entries with the value of a key set; a new key goes last. -/
def insertEntry (key : α) (value : β) : List (α × β) → List (α × β)
  | [] => [(key, value)]
  | entry :: rest =>
    if entry.1 == key then (entry.1, value) :: rest else entry :: insertEntry key value rest

end Lookup

section Insert

variable [BEq α] [LawfulBEq α]

/-- A key that is set is the only one that may be new. -/
theorem mem_keys_insertEntry (key other : α) (value : β) (entries : List (α × β)) :
    other ∈ (insertEntry key value entries).map Prod.fst ↔
      other = key ∨ other ∈ entries.map Prod.fst := by
  induction entries with
  | nil => simp [insertEntry]
  | cons entry rest ih =>
    rw [insertEntry]
    split
    · -- The key was there already, and it keeps its place.
      rename_i same
      simp [beq_iff_eq.mp same]
    · simp only [List.map_cons, List.mem_cons, ih]
      exact or_left_comm

/-- Setting the value of a key leaves every key once. -/
theorem nodup_keys_insertEntry (key : α) (value : β) {entries : List (α × β)}
    (once : (entries.map Prod.fst).Nodup) :
    ((insertEntry key value entries).map Prod.fst).Nodup := by
  induction entries with
  | nil => simp [insertEntry]
  | cons entry rest ih =>
    obtain ⟨first, others⟩ := List.nodup_cons.mp once
    rw [insertEntry]
    split
    · exact once
    · rename_i apart
      refine List.nodup_cons.mpr ⟨fun again => ?_, ih others⟩
      -- The first key could only come again as the one that is set.
      rcases (mem_keys_insertEntry key entry.1 value rest).mp again with same | later
      · exact apart (by simp [same])
      · exact first later

/-- Sets the value of a key; a key that is already there keeps its place. -/
def insert (map : OrderedMap α β) (key : α) (value : β) : OrderedMap α β where
  entries := insertEntry key value map.entries
  once := nodup_keys_insertEntry key value map.once

/-- Sets the value of a key to what a function makes of its old value. -/
def alter (map : OrderedMap α β) (key : α) (f : Option β → β) : OrderedMap α β :=
  map.insert key (f (map.get? key))

end Insert

end OrderedMap

end ClientModel
