import CommandWire.Command.ListIndexes
import CommandWire.Proofs.Cursor
import CommandWire.Proofs.Index

namespace CommandWire.ListIndexes

/-!
# The result of `listIndexes`

A cursor over indexes is written as a document with one field, and it can be read back from there
whatever other fields the document is given.

* `exists_writeResult_eq_ok`, `writeResult_of_first_keyless` — a cursor is written if every index
  of its batch has a key; the first that has none decides.
* `readResult_put` — a cursor is read back from its document.
* `distinct_writeResult`, `writeResult_sortOptions` — distinct names and sorted options.
-/

variable {cursor : Cursor Index} {written : Document}

/-- A result is written when its cursor is, and as that document under its name. -/
theorem writeResult_eq_ok_iff : writeResult cursor = .ok written ↔
    ∃ d, cursor.toDocument Index.toValue = .ok d ∧ written = Document.empty.put cursorField d := by
  unfold writeResult
  rw [bind_eq_ok]
  constructor
  · rintro ⟨d, hd, h⟩
    cases h
    exact ⟨d, mapError_eq_ok.1 hd, rfl⟩
  · rintro ⟨d, hd, rfl⟩
    exact ⟨d, mapError_eq_ok.2 hd, rfl⟩

/-- A cursor is written if every index of its batch has a key. -/
theorem exists_writeResult_eq_ok (h : ∀ x ∈ cursor.firstBatch, x.key ≠ []) :
    ∃ written, writeResult cursor = .ok written := by
  have hitems : List.Forall₂ (fun x v => Index.toValue x = .ok v) cursor.firstBatch
      (cursor.firstBatch.map fun x => .document x.toDocument) := by
    rw [List.forall₂_map_right_iff, List.forall₂_same]
    exact fun x hx => Index.toValue_eq_ok_iff.2 ⟨h x hx, rfl⟩
  exact ⟨_, writeResult_eq_ok_iff.2 ⟨_, Cursor.toDocument_eq_ok_iff.2 ⟨_, hitems, rfl⟩, rfl⟩⟩

/-- If some index has no key, one of them is the first. -/
theorem exists_first_keyless {items : List Index} (h : ∃ x ∈ items, x.key = []) :
    ∃ before x after, items = before ++ x :: after ∧ (∀ y ∈ before, y.key ≠ []) ∧ x.key = [] := by
  have hsome : (items.find? fun x => x.key.isEmpty).isSome := by
    rw [List.find?_isSome]
    obtain ⟨x, hmem, hx⟩ := h
    exact ⟨x, hmem, List.isEmpty_iff.2 hx⟩
  obtain ⟨x, hx⟩ := Option.isSome_iff_exists.1 hsome
  obtain ⟨hkey, before, after, hitems, hbefore⟩ := List.find?_eq_some_iff_append.1 hx
  refine ⟨before, x, after, hitems, fun y hy hnil => ?_, List.isEmpty_iff.1 hkey⟩
  have hy := hbefore y hy
  rw [hnil] at hy
  cases hy

/-- The first index without a key decides, whatever follows. -/
theorem writeResult_of_first_keyless {before after : List Index} {x : Index}
    (hbatch : cursor.firstBatch = before ++ x :: after) (hbefore : ∀ y ∈ before, y.key ≠ [])
    (hx : x.key = []) :
    writeResult cursor =
      .error (.unwritable (.badValue (Index.Fault.writtenWithoutKey x.name).message)) := by
  have hcursor := Cursor.toDocument_of_first_error hbatch
    (fun y hy => ⟨_, Index.toValue_eq_ok_iff.2 ⟨hbefore y hy, rfl⟩⟩)
    (Index.toValue_of_key_eq_nil hx)
  rw [writeResult, hcursor]
  rfl

/-- A result of proper indexes has no name twice. -/
theorem distinct_writeResult (hproper : ∀ x ∈ cursor.firstBatch, x.Proper)
    (h : writeResult cursor = .ok written) : Document.Distinct written := by
  obtain ⟨d, hd, rfl⟩ := writeResult_eq_ok_iff.1 h
  refine Document.distinct_put _ trivial (Cursor.distinct_toDocument hd ?_)
  intro x hx v hv
  obtain ⟨-, rfl⟩ := Index.toValue_eq_ok_iff.1 hv
  exact (hproper x hx).distinct_toDocument

/-- **Round trip.** A cursor is read back from its document, also when the document has been given
    another field. -/
theorem readResult_put {α : Type} [FieldType α] (field : Field α) (y : α)
    (hfield : cursorField.name ≠ field.name) (hproper : ∀ x ∈ cursor.firstBatch, x.Proper)
    (h : writeResult cursor = .ok written) : readResult (written.put field y) = .ok cursor := by
  obtain ⟨d, hd, rfl⟩ := writeResult_eq_ok_iff.1 h
  have hread : ((Document.empty.put cursorField d).put field y).read cursorField = .ok d := by
    rw [Document.read_put_of_ne _ _ hfield, Document.read_put_self _ _ rfl]
  refine bind_eq_ok.2 ⟨d, hread, Cursor.ofDocument_toDocument hd ?_⟩
  intro x hx v hv
  exact (hproper x hx).separate.ofValue_toValue hv

/-- The document of a cursor with sorted options is its document, sorted. -/
theorem writeResult_sortOptions (h : writeResult cursor = .ok written) :
    writeResult (cursor.map Index.sortOptions) = .ok (Document.sortOptions written) := by
  obtain ⟨d, hd, rfl⟩ := writeResult_eq_ok_iff.1 h
  refine writeResult_eq_ok_iff.2 ⟨Document.sortOptions d, Cursor.map_toDocument hd ?_, rfl⟩
  intro x _ v hv
  exact Index.toValue_sortOptions hv

end CommandWire.ListIndexes
