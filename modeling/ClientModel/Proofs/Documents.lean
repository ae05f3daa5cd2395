import Mathlib.Data.List.Nodup
import ClientModel.Document.Value
import ClientModel.OrderedMap

/-!
Documents as plain values, and when a way of writing values as documents loses nothing.

A reader of a document cannot tell a table from a record, nor a number that is not finite from
nothing. Where all numbers are finite, it is enough that a table and a record may look alike.
-/

namespace ClientModel.Document

open Decimal (Double)

/-! ## Plain values -/

mutual

/-- The document with tables taken for records, and with numbers written in a given way. -/
def readWith (number : Double → Document) : Document → Document
  | .null => .null
  | .boolean value => .boolean value
  | .integer value => .integer value
  | .number value => number value
  | .text value => .text value
  | .list items => .list (readItems number items)
  | .record fields => .record (readFields number fields)
  | .table entries => .record (readFields number entries)

/-- The items of a list, each as it is read. -/
def readItems (number : Double → Document) : List Document → List Document
  | [] => []
  | item :: rest => readWith number item :: readItems number rest

/-- The fields of a record, each as it is read. -/
def readFields (number : Double → Document) : List (String × Document) → List (String × Document)
  | [] => []
  | (name, field) :: rest => (name, readWith number field) :: readFields number rest

end

/-- What is read of a document: its names in order, and nothing in place of what is no number. -/
def value (document : Document) : Document :=
  document.readWith fun number => if number.isFinite then .number number else .null

/-- The document with tables taken for records. -/
def plain (document : Document) : Document :=
  document.readWith .number

/-! ## Parts -/

mutual

/-- The document and everything in it. -/
def parts : Document → List Document
  | .list items => .list items :: partsOfItems items
  | .record fields => .record fields :: partsOfFields fields
  | .table entries => .table entries :: partsOfFields entries
  | document => [document]

/-- Everything in the items of a list. -/
def partsOfItems : List Document → List Document
  | [] => []
  | item :: rest => parts item ++ partsOfItems rest

/-- Everything in the fields of a record. -/
def partsOfFields : List (String × Document) → List Document
  | [] => []
  | (_, field) :: rest => parts field ++ partsOfFields rest

end

/-- The names in a record or a table, in order. -/
def names : Document → List String
  | .record fields | .table fields => fields.map Prod.fst
  | _ => []

/-- Every number in the document is finite. -/
def IsFinite (document : Document) : Prop :=
  ∀ number, .number number ∈ document.parts → number.isFinite

/-- The document is no number, or a finite one. -/
def isFiniteAlone : Document → Bool
  | .number double => double.isFinite
  | _ => true

/-- Whether all numbers in a document are finite is decided part by part. -/
instance (document : Document) : Decidable document.IsFinite :=
  decidable_of_iff (document.parts.all isFiniteAlone = true) <| by
    rw [List.all_eq_true]
    refine ⟨fun all double within => all _ within, fun finite part within => ?_⟩
    cases part with
    | number double => exact finite double within
    | _ => rfl

/-- No record or table in the document repeats a name. -/
def NamesOnce (document : Document) : Prop :=
  ∀ part ∈ document.parts, part.names.Nodup

/-- Values that are read alike are the same, as long as no number in them is lost. -/
def TellsApart {α : Type} (write : α → Document) : Prop :=
  ∀ left right, (write left).IsFinite → (write right).IsFinite →
    (write left).value = (write right).value → left = right

/-! ## Reading -/

/-- To read the items of a list is to read each of them. -/
theorem readItems_eq_map (number : Double → Document) (items : List Document) :
    readItems number items = items.map (readWith number) := by
  -- By induction on the items, for the function is one of three that call each other.
  induction items with
  | nil => rfl
  | cons item rest ih => rw [readItems, ih, List.map_cons]

/-- To read the fields of a record is to read what each of them holds. -/
theorem readFields_eq_map (number : Double → Document) (fields : List (String × Document)) :
    readFields number fields = fields.map fun field => (field.1, readWith number field.2) := by
  -- By induction on the fields, for the function is one of three that call each other.
  induction fields with
  | nil => rfl
  | cons field rest ih => rw [readFields, ih, List.map_cons]

/-- Read as plain data, nothing is nothing. -/
@[simp] theorem plain_null : null.plain = .null := rfl

/-- Read as plain data, a truth value is itself. -/
@[simp] theorem plain_boolean (value : Bool) : (boolean value).plain = .boolean value := rfl

/-- Read as plain data, a natural number is an integer. -/
theorem plain_ofNat (n : Nat) : (ofNat n).plain = .integer n := rfl

/-- Different natural numbers are read as different integers. -/
theorem plain_ofNat_inj {m n : Nat} : (ofNat m).plain = (ofNat n).plain ↔ m = n := by
  rw [plain_ofNat, plain_ofNat, integer.injEq, Int.natCast_inj]

/-- Read as plain data, a number is itself. -/
@[simp] theorem plain_number (value : Double) : (number value).plain = .number value := rfl

/-- Read as plain data, a text is itself. -/
@[simp] theorem plain_text (value : String) : (text value).plain = .text value := rfl

/-- A list is read item by item. -/
@[simp] theorem plain_list (items : List Document) :
    (list items).plain = .list (items.map plain) :=
  congrArg list (readItems_eq_map .number items)

/-- A record is read field by field. -/
@[simp] theorem plain_record (fields : List (String × Document)) :
    (record fields).plain = .record (fields.map fun field => (field.1, field.2.plain)) :=
  congrArg record (readFields_eq_map .number fields)

/-- Records are read alike if their first fields are, and what is left of them. -/
theorem plain_record_cons_inj {name name' : String} {first first' : Document}
    {rest rest' : List (String × Document)} :
    (record ((name, first) :: rest)).plain = (record ((name', first') :: rest')).plain ↔
      (name = name' ∧ first.plain = first'.plain) ∧ (record rest).plain = (record rest').plain := by
  simp

/-- A table is read as the record of its entries. -/
@[simp] theorem plain_table (entries : List (String × Document)) :
    (table entries).plain = (record entries).plain := rfl

mutual

/-- Two ways to read numbers that agree on those of a document read the document alike. -/
theorem readWith_congr {first second : Double → Document} :
    ∀ document : Document, (∀ number, .number number ∈ document.parts →
      first number = second number) → document.readWith first = document.readWith second
  | .null, _ | .boolean _, _ | .integer _, _ | .text _, _ => by simp only [readWith]
  -- Numbers are where the two ways could differ; all else is read from its parts.
  | .number double, same => by
    rw [readWith, readWith, same double (by simp [parts])]
  | .list items, same => by
    rw [readWith, readWith, readItems_congr items fun number within =>
      same number (List.mem_cons_of_mem _ within)]
  | .record fields, same | .table fields, same => by
    rw [readWith, readWith, readFields_congr fields fun number within =>
      same number (List.mem_cons_of_mem _ within)]

/-- The same holds of the items of a list. -/
theorem readItems_congr {first second : Double → Document} :
    ∀ items : List Document, (∀ number, .number number ∈ partsOfItems items →
      first number = second number) → readItems first items = readItems second items
  | [], _ => by simp only [readItems]
  | item :: rest, same => by
    rw [readItems, readItems,
      readWith_congr item fun number within => same number (List.mem_append_left _ within),
      readItems_congr rest fun number within => same number (List.mem_append_right _ within)]

/-- The same holds of the fields of a record. -/
theorem readFields_congr {first second : Double → Document} :
    ∀ fields : List (String × Document), (∀ number, .number number ∈ partsOfFields fields →
      first number = second number) → readFields first fields = readFields second fields
  | [], _ => by simp only [readFields]
  | (_, field) :: rest, same => by
    rw [readFields, readFields,
      readWith_congr field fun number within => same number (List.mem_append_left _ within),
      readFields_congr rest fun number within => same number (List.mem_append_right _ within)]

end

/-- Where all numbers are finite, no number is lost to the reader. -/
theorem value_eq_plain {document : Document} (finite : document.IsFinite) :
    document.value = document.plain :=
  readWith_congr document fun number within => if_pos (finite number within)

/-! ## Names -/

/-- The parts of some items are those of each. -/
theorem mem_partsOfItems {part : Document} {items : List Document} :
    part ∈ partsOfItems items ↔ ∃ item ∈ items, part ∈ item.parts := by
  -- By induction on the items, as the parts are gathered.
  induction items with
  | nil => simp [partsOfItems]
  | cons item rest ih => simp [partsOfItems, ih]

/-- The parts of some fields are those of what each holds. -/
theorem mem_partsOfFields {part : Document} {fields : List (String × Document)} :
    part ∈ partsOfFields fields ↔ ∃ field ∈ fields, part ∈ field.2.parts := by
  -- By induction on the fields, as the parts are gathered.
  induction fields with
  | nil => simp [partsOfFields]
  | cons field rest ih => simp [partsOfFields, ih]

/-- Nothing repeats no name. -/
@[simp] theorem namesOnce_null : NamesOnce .null := by
  simp [NamesOnce, parts, names]

/-- A truth value repeats no name. -/
@[simp] theorem namesOnce_boolean (value : Bool) : NamesOnce (.boolean value) := by
  simp [NamesOnce, parts, names]

/-- A natural number repeats no name. -/
@[simp] theorem namesOnce_ofNat (n : Nat) : NamesOnce (ofNat n) := by
  simp [NamesOnce, parts, names, ofNat]

/-- A number repeats no name. -/
@[simp] theorem namesOnce_number (value : Double) : NamesOnce (.number value) := by
  simp [NamesOnce, parts, names]

/-- A text repeats no name. -/
@[simp] theorem namesOnce_text (value : String) : NamesOnce (.text value) := by
  simp [NamesOnce, parts, names]

/-- A list repeats no name just if none of its items does. -/
@[simp] theorem namesOnce_list (items : List Document) :
    NamesOnce (.list items) ↔ ∀ item ∈ items, item.NamesOnce := by
  -- A list has no names of its own, so its first part asks for nothing.
  simp only [NamesOnce, parts, List.forall_mem_cons, mem_partsOfItems]
  exact ⟨fun all item listed part within => all.2 part ⟨item, listed, within⟩,
    fun all => ⟨List.nodup_nil, fun part ⟨item, listed, within⟩ => all item listed part within⟩⟩

/-- A record repeats no name just if its own ones differ and no field repeats one. -/
@[simp] theorem namesOnce_record (fields : List (String × Document)) :
    NamesOnce (.record fields) ↔
      (fields.map Prod.fst).Nodup ∧ ∀ field ∈ fields, field.2.NamesOnce := by
  -- The first part of a record is the record itself, and the others are the parts of its fields.
  simp only [NamesOnce, parts, List.forall_mem_cons, mem_partsOfFields, names]
  exact and_congr_right fun _ =>
    ⟨fun all field listed part within => all part ⟨field, listed, within⟩,
      fun all part ⟨field, listed, within⟩ => all field listed part within⟩

/-- A table repeats no name just if its own ones differ and no entry repeats one. -/
@[simp] theorem namesOnce_table (entries : List (String × Document)) :
    NamesOnce (.table entries) ↔
      (entries.map Prod.fst).Nodup ∧ ∀ entry ∈ entries, entry.2.NamesOnce := by
  -- A table is read like the record of its entries.
  rw [← namesOnce_record]
  simp only [NamesOnce, parts, List.forall_mem_cons, names]

/-- An option repeats no name just if what it holds does not. -/
@[simp] theorem namesOnce_ofOption {α : Type} (write : α → Document) (value : Option α) :
    NamesOnce (ofOption write value) ↔ ∀ inner ∈ value, (write inner).NamesOnce := by
  cases value <;> simp [ofOption]

/-- A list of values repeats no name just if none of the values does. -/
@[simp] theorem namesOnce_ofList {α : Type} (write : α → Document) (values : List α) :
    NamesOnce (ofList write values) ↔ ∀ value ∈ values, (write value).NamesOnce := by
  simp [ofList]

/-- A table repeats no name, since its map repeats no key, as long as keys are told apart. -/
theorem namesOnce_table_of_keys {κ α : Type} {label : κ → String} {write : α → Document}
    (labels : ∀ left right, label left = label right → left = right) {map : OrderedMap κ α}
    (each : ∀ value ∈ map.values, (write value).NamesOnce) :
    NamesOnce (.table (map.entries.map fun entry => (label entry.1, write entry.2))) := by
  rw [namesOnce_table, List.map_map]
  refine ⟨?_, fun field written => ?_⟩
  · -- The names that are written are the labels of the keys, in order.
    have keys : map.entries.map (Prod.fst ∘ fun entry => (label entry.1, write entry.2)) =
        map.keys.map label := by
      rw [OrderedMap.keys, List.map_map]
      rfl
    rw [keys]
    exact (List.nodup_map_iff_inj_on map.nodup_keys).mpr fun left _ right _ => labels left right
  · obtain ⟨entry, listed, rfl⟩ := List.mem_map.mp written
    exact each entry.2 (List.mem_map_of_mem listed)

/-- A text that may be missing repeats no name. -/
@[simp] theorem namesOnce_ofText? (value : Option String) : NamesOnce (ofText? value) := by
  simp [ofText?]

/-- A list of texts repeats no name. -/
@[simp] theorem namesOnce_ofTexts (values : List String) : NamesOnce (ofTexts values) := by
  simp [ofTexts]

/-! ## Ways to write values -/

/-- A way of writing values that tells them apart, and each of them from nothing at all. -/
structure Faithful {α : Type} (write : α → Document) : Prop where
  inj : ∀ left right, (write left).plain = (write right).plain ↔ left = right
  present : ∀ value, (write value).plain ≠ .null

namespace Faithful

variable {α : Type} {write : α → Document}

/-- What is written faithfully can be told from what is written, if all numbers are finite. -/
theorem tellsApart (faithful : Faithful write) : TellsApart write := by
  -- With finite numbers nothing is lost when a document is read, so what is read tells as much as
  -- what is written.
  intro left right finite finite' same
  rw [value_eq_plain finite, value_eq_plain finite'] at same
  exact (faithful.inj left right).mp same

/-- To write the label of a value is faithful where labels tell values apart. -/
theorem of_text {label : α → String}
    (injective : ∀ left right, label left = label right → left = right) :
    Faithful fun value => .text (label value) where
  inj left right := by
    rw [plain_text, plain_text, text.injEq]
    exact ⟨injective left right, congrArg label⟩
  present value := by simp

/-- To write the number of a value is faithful where numbers tell values apart. -/
theorem of_nat {number : α → Nat}
    (injective : ∀ left right, number left = number right → left = right) :
    Faithful fun value => ofNat (number value) where
  inj left right := by
    rw [plain_ofNat_inj]
    exact ⟨injective left right, congrArg number⟩
  present value := by simp [plain_ofNat]

/-- Options are told apart as well, for what is there is never written as nothing. -/
theorem option (faithful : Faithful write) (left right : Option α) :
    (ofOption write left).plain = (ofOption write right).plain ↔ left = right := by
  -- By cases on both; only where one is there and the other not does it matter what is written.
  cases left with
  | none =>
    cases right with
    | none => simp
    | some right => simpa [ofOption] using (faithful.present right).symm
  | some left =>
    cases right with
    | none => simpa [ofOption] using faithful.present left
    | some right => simpa [ofOption] using faithful.inj left right

/-- Lists are told apart entry by entry. -/
theorem map_inj (faithful : Faithful write) (left right : List α) :
    (left.map write).map plain = (right.map write).map plain ↔ left = right := by
  -- A list is mapped without loss just where its entries are.
  rw [List.map_map, List.map_map]
  exact List.map_inj_right fun left right => (faithful.inj left right).mp

/-- To write a list of values is faithful if to write a value is. -/
theorem list (faithful : Faithful write) : Faithful (ofList write) where
  inj left right := by
    rw [ofList, ofList, plain_list, plain_list, list.injEq, faithful.map_inj]
  present value := by simp [ofList, plain_list]

/-- A map is told by its entries, in order, if keys and values are told apart. -/
theorem table {κ : Type} {label : κ → String}
    (labels : ∀ left right, label left = label right → left = right) (faithful : Faithful write) :
    Faithful fun map : OrderedMap κ α =>
      .table (map.entries.map fun entry => (label entry.1, write entry.2)) where
  inj left right := by
    simp only [plain_table, plain_record, List.map_map, record.injEq, OrderedMap.ext_iff]
    refine List.map_inj_right fun ⟨key, value⟩ ⟨key', value'⟩ same => ?_
    obtain ⟨keys, values⟩ := Prod.mk.inj same
    rw [labels key key' keys, (faithful.inj value value').mp values]
  present map := by simp

end Faithful

/-- To write a text is faithful. -/
theorem faithful_text : Faithful text :=
  .of_text fun _ _ => id

/-- To write a list of texts is faithful. -/
theorem faithful_texts : Faithful ofTexts :=
  faithful_text.list

/-- Texts that may be missing are told apart. -/
@[simp] theorem plain_ofText?_inj (left right : Option String) :
    (ofText? left).plain = (ofText? right).plain ↔ left = right :=
  faithful_text.option left right

/-- Lists of texts are told apart. -/
@[simp] theorem plain_ofTexts_inj (left right : List String) :
    (ofTexts left).plain = (ofTexts right).plain ↔ left = right :=
  faithful_texts.inj left right

end ClientModel.Document
