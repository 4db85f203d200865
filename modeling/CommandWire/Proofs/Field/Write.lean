import CommandWire.Field.Document
import CommandWire.Proofs.Field.Read
import CommandWire.Proofs.Value.Distinct

namespace CommandWire.Document

/-!
# What writers of fields leave behind

A document is built field by field.  Each field has the content that it was given last, and giving
one its content leaves the others alone.

* `get?_put_self`, `get?_put_of_ne`, `get?_putOptional_of_ne` — the values afterwards.
* `read_put_self`, `read_put_of_ne` — what a reader makes of it.
* `forall_keys_put`, `forall_keys_putOptional`, `nodup_keys_put`, `nodup_keys_putOptional` — the
  names afterwards.
* `distinct_put`, `distinct_putOptional` — a document whose fields are distinct stays so.
* `sortOptions_put`, `sortOptions_putOptional` — sorted options, before or after.
-/

variable {α : Type} [FieldType α] {d : Document} {field : Field α} {key : String}

/-! ### Values -/

/-- A field that is written holds its value. -/
@[simp] theorem get?_put_self (d : Document) (field : Field α) (x : α) :
    get? (d.put field x) field.name = some (FieldType.toValue x) :=
  get?_insert_self d field.name _

/-- Writing a field leaves what stands under other names. -/
theorem get?_put_of_ne (d : Document) (x : α) (h : key ≠ field.name) :
    get? (d.put field x) key = get? d key :=
  get?_insert_of_ne d _ h

/-- A field that may be missing holds its value if there is one, and what was there else. -/
theorem get?_putOptional_self (d : Document) (field : Field α) (x : Option α) :
    get? (d.putOptional field x) field.name = (x.map FieldType.toValue).or (get? d field.name) := by
  cases x with
  | none => rfl
  | some x => exact get?_put_self d field x

/-- Writing a field that may be missing leaves what stands under other names. -/
theorem get?_putOptional_of_ne (d : Document) (x : Option α) (h : key ≠ field.name) :
    get? (d.putOptional field x) key = get? d key := by
  cases x with
  | none => rfl
  | some x => exact get?_put_of_ne d x h

/-! ### Reading what was written -/

/-- A field is read back after it was written, if its type reads what it writes. -/
theorem read_put_self (d : Document) (field : Field α) {x : α}
    (h : FieldType.ofValue? (FieldType.toValue x) = some x) : (d.put field x).read field = .ok x :=
  read_eq_ok_iff.2 ⟨_, get?_put_self d field x, h⟩

/-- A field is read as before after another was written. -/
theorem read_put_of_ne {β : Type} [FieldType β] {other : Field β} (d : Document) (y : β)
    (h : field.name ≠ other.name) : (d.put other y).read field = d.read field :=
  read_congr field (get?_put_of_ne d y h)

/-! ### Names -/

/-- What holds of all names holds afterwards if it holds of the field's. -/
theorem forall_keys_put {P : String → Prop} (x : α) (h : ∀ key ∈ d.keys, P key)
    (hfield : P field.name) : ∀ key ∈ keys (d.put field x), P key :=
  forall_keys_insert _ h hfield

/-- The same for a field that may be missing. -/
theorem forall_keys_putOptional {P : String → Prop} (x : Option α) (h : ∀ key ∈ d.keys, P key)
    (hfield : P field.name) : ∀ key ∈ keys (d.putOptional field x), P key := by
  cases x with
  | none => exact h
  | some x => exact forall_keys_put x h hfield

/-- Writing a field puts no name twice. -/
theorem nodup_keys_put (field : Field α) (x : α) (h : d.keys.Nodup) :
    (keys (d.put field x)).Nodup :=
  nodup_keys_insert _ _ h

/-- Writing a field that may be missing puts no name twice. -/
theorem nodup_keys_putOptional (field : Field α) (x : Option α) (h : d.keys.Nodup) :
    (keys (d.putOptional field x)).Nodup := by
  cases x with
  | none => exact h
  | some x => exact nodup_keys_put field x h

/-! ### Distinct names and sorted options -/

/-- A document in which no name stands twice, at any depth, stays so when such a value is written. -/
theorem distinct_put (field : Field α) {x : α} (hd : Document.Distinct d)
    (hx : (FieldType.toValue x).Distinct) : Document.Distinct (d.put field x) :=
  distinct_insert field.name hd hx

/-- The same for a field that may be missing. -/
theorem distinct_putOptional (field : Field α) {x : Option α} (hd : Document.Distinct d)
    (hx : ∀ y, x = some y → (FieldType.toValue y).Distinct) :
    Document.Distinct (d.putOptional field x) := by
  cases x with
  | none => exact hd
  | some y => exact distinct_put field hd (hx y rfl)

/-- Sorting options passes through the writing of a field. -/
theorem sortOptions_put (d : Document) (field : Field α) (x y : α)
    (h : (FieldType.toValue x).sortOptions = FieldType.toValue y) :
    Document.sortOptions (d.put field x) = put (Document.sortOptions d) field y := by
  rw [put, sortOptions_insert, h]
  rfl

/-- Sorting options passes by a field without any. -/
theorem sortOptions_putOptional (d : Document) (field : Field α) {x : Option α}
    (h : ∀ y, x = some y → (FieldType.toValue y).sortOptions = FieldType.toValue y) :
    Document.sortOptions (d.putOptional field x) =
      putOptional (Document.sortOptions d) field x := by
  cases x with
  | none => rfl
  | some y => exact sortOptions_put d field y y (h y rfl)

end CommandWire.Document
