import Mathlib.Data.List.Induction
import ClientModel.Service.Definition
import ClientModel.Proofs.OrderedMap
import ClientModel.Proofs.Placement

/-!
Which customization holds in a scope.

Of all that was recorded for a key, the last value of the scope itself counts, and only without one
the last value of all scopes. What is listed in order is so whenever it was recorded.
-/

namespace ClientModel.Service

/-! ## Entries -/

/-- A value as it is recorded for a key: in the scopes of a list, or in all scopes. -/
structure Entry (κ α : Type) where
  key : κ
  scope : Option String := none
  value : α

namespace Entry

variable {κ α : Type} [DecidableEq κ]

/-- The entry lists a scope by its name. -/
def lists (entry : Entry κ α) (scope : String) : Bool :=
  entry.scope.any fun scopes => (Text.listedNames scopes).contains scope

/-- The last value for a key among the entries of one sort. -/
def last? (entries : List (Entry κ α)) (key : κ) (counts : Entry κ α → Bool) : Option α :=
  (entries.filter fun entry => entry.key == key && counts entry).getLast?.map Entry.value

/-- The value that holds for a key: the last that lists the scope, or else the last for all. -/
def winner (entries : List (Entry κ α)) (scope : Option String) (key : κ) : Option α :=
  (scope.bind fun name => last? entries key (·.lists name)).or
    (last? entries key (·.scope.isNone))

/-- Records an entry. -/
def record (table : OrderedMap κ (Scoped α)) (entry : Entry κ α) : OrderedMap κ (Scoped α) :=
  Service.record table entry.key entry.scope entry.value

/-- With one more entry the last one is this, if it counts for the key, or the last before it. -/
theorem last?_append (entries : List (Entry κ α)) (entry : Entry κ α) (key : κ)
    (counts : Entry κ α → Bool) : last? (entries ++ [entry]) key counts =
      if entry.key = key ∧ counts entry then some entry.value else last? entries key counts := by
  -- The last entry decides if it counts, and is passed over if it does not.
  unfold last?
  rw [List.filter_append]
  by_cases isLast : entry.key = key ∧ counts entry
  · rw [if_pos isLast, List.filter_cons_of_pos (by simpa using isLast)]
    simp
  · rw [if_neg isLast, List.filter_cons_of_neg (by simpa using isLast)]
    simp

end Entry

namespace Scoped

variable {α : Type}

/-- A value set without scope holds for all scopes, and one set for a scope does not touch it. -/
theorem all_set (values : Scoped α) (scope : Option String) (value : α) :
    (values.set scope value).all = if scope.isNone then some value else values.all := by
  cases scope <;> rfl

/-- A list of scopes sets the value of each of them, and of no other. -/
theorem single_set (values : Scoped α) (scope : Option String) (value : α) (name : String) :
    (values.set scope value).single.get? name =
      if scope.any fun scopes => (Text.listedNames scopes).contains name then some value
      else values.single.get? name := by
  cases scope with
  | none => rfl
  | some scopes =>
    -- By induction on the names, whatever was recorded for them before.
    have names (listed : List String) (map : OrderedMap String α) :
        (listed.foldl (fun map name => map.insert name value) map).get? name =
          if listed.contains name then some value else map.get? name := by
      induction listed generalizing map with
      | nil => rfl
      | cons first listed ih =>
        rw [List.foldl_cons, ih, OrderedMap.get?_insert, List.contains_cons]
        cases isFirst : name == first <;> cases isLater : listed.contains name <;> simp
    exact names _ _

/-- Without anything recorded nothing holds. -/
theorem select_empty (scope : Option String) : ({} : Scoped α).select scope = none := by
  cases scope <;> rfl

end Scoped

section Tables

variable {κ α : Type} [DecidableEq κ]

/-- What was recorded last for a key is in its table, by scope and for all scopes. -/
theorem get?_foldl_record (entries : List (Entry κ α)) (key : κ) (name : String) :
    let values := ((entries.foldl Entry.record {}).get? key).getD {}
    values.single.get? name = Entry.last? entries key (·.lists name) ∧
      values.all = Entry.last? entries key (·.scope.isNone) := by
  -- By induction on the entries from their end, where the last one is.
  induction entries using List.reverseRecOn with
  | nil => exact ⟨rfl, rfl⟩
  | append_singleton entries entry ih =>
    simp only [List.foldl_append, List.foldl_cons, List.foldl_nil, Entry.last?_append]
    rw [Entry.record, Service.record, OrderedMap.alter, OrderedMap.get?_insert]
    by_cases isKey : key = entry.key
    · subst isKey
      simp only [beq_self_eq_true, if_true, Option.getD_some, Scoped.single_set, Scoped.all_set,
        true_and]
      rw [ih.1, ih.2]
      exact ⟨rfl, rfl⟩
    · have apart : ¬ entry.key = key := fun same => isKey same.symm
      simp only [beq_eq_false_iff_ne.mpr isKey, apart, false_and, if_false]
      exact ih

/-- A settled table has for each key what its values come to in the scope. -/
theorem get?_settle (table : OrderedMap κ (Scoped α)) (scope : Option String) (key : κ) :
    (settle table scope).get? key = (table.get? key).bind (·.select scope) := by
  -- Every key comes once in either table, so that entries tell it.
  apply Option.ext
  intro value
  rw [Option.bind_eq_some_iff, OrderedMap.get?_eq_some_iff]
  simp only [OrderedMap.get?_eq_some_iff, settle, OrderedMap.filterMap, List.mem_filterMap,
    Option.map_eq_some_iff, Prod.mk.injEq]
  constructor
  · rintro ⟨⟨first, values⟩, listed, chosen, selected, rfl, rfl⟩
    exact ⟨values, listed, selected⟩
  · rintro ⟨values, listed, selected⟩
    exact ⟨(key, values), listed, value, selected, rfl, rfl⟩

/-- What is recorded for a key makes no difference to any other key. -/
theorem get?_settle_record_ne (table : OrderedMap κ (Scoped α)) {key other : κ}
    (recorded : Option String) (value : α) (scope : Option String) (apart : other ≠ key) :
    (settle (Service.record table key recorded value) scope).get? other =
      (settle table scope).get? other := by
  -- A record changes the list of one key.
  rw [get?_settle, get?_settle, Service.record, OrderedMap.alter,
    OrderedMap.get?_insert_ne _ _ apart]

/-- The value that holds for a key once a scope is given. -/
theorem get?_settle_record (entries : List (Entry κ α)) (scope : Option String) (key : κ) :
    (settle (entries.foldl Entry.record {}) scope).get? key = Entry.winner entries scope key := by
  -- A key that has no record selects nothing, as an empty record does.
  have recorded : ((entries.foldl Entry.record {}).get? key).bind (·.select scope) =
      (((entries.foldl Entry.record {}).get? key).getD {}).select scope := by
    cases (entries.foldl Entry.record {}).get? key with
    | none => exact (Scoped.select_empty scope).symm
    | some values => rfl
  rw [get?_settle, recorded, Scoped.select, Entry.winner]
  cases scope with
  | none => rw [(get?_foldl_record entries key "").2]; rfl
  | some name =>
    rw [(get?_foldl_record entries key name).2, Option.bind_some, Option.bind_some,
      (get?_foldl_record entries key name).1]

/-- A settled table may be put in order: each key still has what it had. -/
theorem lookup_mergeSort_settle (entries : List (Entry κ α)) (scope : Option String) (key : κ)
    (notAfter : κ × α → κ × α → Bool) :
    ((settle (entries.foldl Entry.record {}) scope).entries.mergeSort notAfter).lookup key =
      Entry.winner entries scope key := by
  -- Keys are distinct once settled, so that order decides nothing.
  rw [← get?_settle_record]
  apply Option.ext
  intro value
  rw [OrderedMap.lookup_eq_some_iff (settle_sorted _ scope notAfter).1,
    OrderedMap.get?_eq_some_iff, List.mem_mergeSort]

/-- A settled table that is put in order by the places of its keys has each place once. -/
theorem pairwise_mergeSort_settle (entries : List (Entry κ α)) (scope : Option String)
    (place : κ → Nat) (inj : ∀ left right, place left = place right → left = right) :
    ((settle (entries.foldl Entry.record {}) scope).entries.mergeSort
      fun left right => place left.1 ≤ place right.1).Pairwise
        fun left right => place left.1 < place right.1 := by
  have once := (settle_sorted (entries.foldl Entry.record {}) scope
    fun left right => place left.1 ≤ place right.1).1
  have ordered : ((settle (entries.foldl Entry.record {}) scope).entries.mergeSort
      fun left right => place left.1 ≤ place right.1).Pairwise
        fun left right => decide (place left.1 ≤ place right.1) :=
    List.pairwise_mergeSort (fun first second third => by simpa using Nat.le_trans)
      (fun first second => by simpa using Nat.le_total _ _) _
  -- Entries in order that share no key are in order without ties.
  refine (ordered.and (List.pairwise_map.mp once)).imp ?_
  rintro left right ⟨notAfter, apart⟩
  exact Nat.lt_of_le_of_ne (by simpa using notAfter) fun same => apart (inj _ _ same)

end Tables

/-! ## Calls -/

/-- What can be customized about a declaration. -/
inductive Aspect where
  | clientName
  | usage
  | access
  | setup
  | location
  | substitute
  | client
  | protocolMethod
  | convenientMethod
  deriving DecidableEq

namespace Aspect

/-- What a customization is about. -/
def Key : Aspect → Type
  | clientName | access => Declaration
  | usage => TypeId
  | setup | client => ContainerId
  | location | protocolMethod | convenientMethod => OperationId
  | substitute => PropertyId

/-- What a customization sets. -/
def Value : Aspect → Type
  | clientName | substitute => String
  | usage => Usage
  | access => Access
  | setup => ClientSetup
  | location => ContainerId
  | client => ClientDecl
  | protocolMethod | convenientMethod => Bool

instance (aspect : Aspect) : DecidableEq aspect.Key :=
  match aspect with
  | clientName | access => inferInstanceAs (DecidableEq Declaration)
  | usage => inferInstanceAs (DecidableEq TypeId)
  | setup | client => inferInstanceAs (DecidableEq ContainerId)
  | location | protocolMethod | convenientMethod => inferInstanceAs (DecidableEq OperationId)
  | substitute => inferInstanceAs (DecidableEq PropertyId)

/-- The customizations with one more recorded. -/
def set (aspect : Aspect) (all : Customizations) (entry : Entry aspect.Key aspect.Value) :
    Customizations :=
  match aspect, entry with
  | clientName, entry => all.setClientName entry.key entry.scope entry.value
  | usage, entry => all.setUsage entry.key entry.scope entry.value
  | access, entry => all.setAccess entry.key entry.scope entry.value
  | setup, entry => all.setSetup entry.key entry.scope entry.value
  | location, entry => all.setLocation entry.key entry.scope entry.value
  | substitute, entry => all.setAlias entry.key entry.scope entry.value
  | client, entry => all.addClient entry.key entry.scope entry.value
  | protocolMethod, entry => all.setProtocolMethod entry.key entry.scope entry.value
  | convenientMethod, entry => all.setConvenientMethod entry.key entry.scope entry.value

/-- The table of the customizations of an aspect. -/
def table (all : Customizations) : (aspect : Aspect) → OrderedMap aspect.Key (Scoped aspect.Value)
  | clientName => all.clientNames
  | usage => all.usages
  | access => all.accesses
  | setup => all.setups
  | location => all.locations
  | substitute => all.aliases
  | client => all.clients
  | protocolMethod => all.protocolMethods
  | convenientMethod => all.convenientMethods

/-- What was chosen for a key once a scope is settled. -/
def choice? (choices : Choices) : (aspect : Aspect) → aspect.Key → Option aspect.Value
  | clientName, key => choices.clientName? key
  | usage, key => choices.usage? key
  | access, key => choices.access? key
  | setup, key => choices.setup? key
  | location, key => choices.location? key
  | substitute, key => choices.alias? key
  | client, key => choices.clients.lookup key
  | protocolMethod, key => choices.protocolMethod? key
  | convenientMethod, key => choices.convenientMethod? key

/-- An entry of an aspect is recorded in the table of this aspect. -/
theorem table_set_self (all : Customizations) (aspect : Aspect)
    (entry : Entry aspect.Key aspect.Value) :
    table (aspect.set all entry) aspect = Entry.record (table all aspect) entry := by
  cases aspect <;> rfl

/-- An entry of another aspect leaves the table as it is. -/
theorem table_set_ne (all : Customizations) {aspect other : Aspect} (apart : aspect ≠ other)
    (entry : Entry aspect.Key aspect.Value) :
    table (aspect.set all entry) other = table all other := by
  cases aspect <;> cases other <;> first | rfl | exact absurd rfl apart

end Aspect

/-- A call that records a customization of some aspect. -/
structure Customizing where
  aspect : Aspect
  entry : Entry aspect.Key aspect.Value

namespace Customizing

/-- What a call records if it is about an aspect. -/
def told? (aspect : Aspect) (call : Customizing) : Option (Entry aspect.Key aspect.Value) :=
  if same : call.aspect = aspect then some (same ▸ call.entry) else none

/-- All that calls record about an aspect, in their order. -/
def entries (calls : List Customizing) (aspect : Aspect) : List (Entry aspect.Key aspect.Value) :=
  calls.filterMap (told? aspect)

/-- The customizations that calls record one after the other. -/
def record (calls : List Customizing) : Customizations :=
  calls.foldl (fun all call => call.aspect.set all call.entry) {}

/-- The table of an aspect holds what the calls recorded about it, and nothing of any other. -/
theorem table_record (calls : List Customizing) (aspect : Aspect) :
    aspect.table (record calls) = (entries calls aspect).foldl Entry.record {} := by
  -- By induction on the calls from their end, where the last one is.
  induction calls using List.reverseRecOn with
  | nil => cases aspect <;> rfl
  | append_singleton calls call ih =>
    obtain ⟨other, entry⟩ := call
    have last : record (calls ++ [⟨other, entry⟩]) = other.set (record calls) entry := by
      rw [record, List.foldl_append]
      rfl
    by_cases same : other = aspect
    · subst same
      rw [last, Aspect.table_set_self, ih]
      simp [entries, told?]
    · rw [last, Aspect.table_set_ne _ same, ih]
      simp [entries, told?, same]

/--
For every aspect and key, the last value that lists the scope holds, or else the last for all.

Clients and moved operations are in the order of their declaration, whatever the order of the calls.
-/
theorem choice?_resolve (calls : List Customizing) (scope : Option String) (aspect : Aspect)
    (key : aspect.Key) : aspect.choice? ((record calls).resolve scope) key =
      Entry.winner (entries calls aspect) scope key := by
  have recorded := table_record calls aspect
  -- Two of the tables are put in order, which changes nothing about any key.
  cases aspect with
  | location =>
    have settled := lookup_mergeSort_settle (entries calls .location) scope key
      fun left right : OperationId × ContainerId => left.1.index ≤ right.1.index
    rw [← recorded] at settled
    exact settled
  | client =>
    have settled := lookup_mergeSort_settle (entries calls .client) scope key
      fun left right : ContainerId × ClientDecl => left.1.index ≤ right.1.index
    rw [← recorded] at settled
    exact settled
  | _ =>
    rw [← get?_settle_record, ← recorded]
    rfl

/-- Clients are in the order of their declarations once a scope is given. -/
theorem clients_sorted (calls : List Customizing) (scope : Option String) :
    ((record calls).resolve scope).clients.Pairwise fun left right =>
      left.1.index < right.1.index := by
  -- The table is put in order of the indices, and no key is there twice.
  have recorded := table_record calls .client
  have sorted := pairwise_mergeSort_settle (entries calls .client) scope ContainerId.index
    fun left right => ContainerId.index_inj.mp
  rw [← recorded] at sorted
  exact sorted

/-- Moved operations are in the order of their declarations once a scope is given. -/
theorem locations_sorted (calls : List Customizing) (scope : Option String) :
    ((record calls).resolve scope).locations.Pairwise fun left right =>
      left.1.index < right.1.index := by
  -- The table is put in order of the indices, and no key is there twice.
  have recorded := table_record calls .location
  have sorted := pairwise_mergeSort_settle (entries calls .location) scope OperationId.index
    fun left right => OperationId.index_inj.mp
  rw [← recorded] at sorted
  exact sorted

end Customizing

end ClientModel.Service
