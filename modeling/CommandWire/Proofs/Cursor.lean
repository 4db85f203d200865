import CommandWire.Cursor
import CommandWire.Proofs.Field.Read
import CommandWire.Proofs.Field.Write
import CommandWire.Proofs.Value.Pairs

namespace CommandWire.Cursor

/-!
# Cursors as documents

Whatever the items of a cursor are, what holds of the way in which one item is written and read
holds of the whole cursor.

* `Cursor.toDocument_eq`, `Cursor.toDocument_eq_ok_iff`, `Cursor.errorsIn_toDocument` — a cursor is
  written when all its items are; the first that is not decides.
* `Cursor.Shows`, `Cursor.Extends` — what a document says about a cursor, which neither other fields
  nor the order change.
* `Cursor.Shows.ofDocument_eq`, `Cursor.ofDocument_extends` — reading is up to the items, too; a
  cursor is read back if its items are.
* `Cursor.framed` — all this at once.
* `Cursor.distinct_toDocument`, `Cursor.map_toDocument` — distinct names and sorted options.
-/

variable {α : Type} {writeItem : α → Checked Value} {readItem : Value → Checked α} {c : Cursor α}
  {d : Document}

/-- The cursor with something done to every item. -/
def map {β : Type} (f : α → β) (c : Cursor α) : Cursor β := ⟨c.id, c.ns, c.firstBatch.map f⟩

/-- The document of a cursor whose items have been written. -/
def frame (id : Int64) (ns : String) (batch : List Value) : Document :=
  Document.empty |>.put idField id |>.put nsField ns |>.put firstBatchField batch

/-- What each pair implies may depend on where the first one stands. -/
theorem forall₂_of_mem {β : Type} {R S : α → β → Prop} {items : List α} {results : List β}
    (h : List.Forall₂ R items results) (hRS : ∀ a ∈ items, ∀ b, R a b → S a b) :
    List.Forall₂ S items results :=
  ((List.forall₂_and_left items results).2 ⟨hRS, h⟩).imp fun _ b hb => hb.1 b hb.2

/-! ### Writing -/

/-- A cursor is written item by item, and framed by the number and the namespace. -/
theorem toDocument_eq (writeItem : α → Checked Value) (c : Cursor α) :
    c.toDocument writeItem = (c.firstBatch.mapM writeItem).map (frame c.id c.ns) := by
  unfold toDocument
  cases c.firstBatch.mapM writeItem <;> rfl

/-- A cursor is written when each of its items is. -/
theorem toDocument_eq_ok_iff : c.toDocument writeItem = .ok d ↔
    ∃ batch, List.Forall₂ (fun x v => writeItem x = .ok v) c.firstBatch batch ∧
      d = frame c.id c.ns batch := by
  rw [toDocument_eq, map_eq_ok_iff]
  simp only [mapM_eq_ok_iff]
  exact exists_congr fun _ => and_congr_right fun _ => eq_comm

/-- The first item that is not written decides. -/
theorem toDocument_of_first_error {before : List α} {x : α} {after : List α} {e : ProtocolError}
    (hbatch : c.firstBatch = before ++ x :: after)
    (hbefore : ∀ y ∈ before, ∃ v, writeItem y = .ok v) (hx : writeItem x = .error e) :
    c.toDocument writeItem = .error e := by
  rw [toDocument_eq, map_eq_error_iff, mapM_eq_error_iff]
  exact ⟨before, x, after, hbatch, hbefore, hx⟩

/-- A cursor is refused for what one of its items is refused for. -/
theorem errorsIn_toDocument {P : ProtocolError → Prop} (hitem : ∀ x, ErrorsIn P (writeItem x))
    (c : Cursor α) : ErrorsIn P (c.toDocument writeItem) :=
  (errorsIn_mapM hitem c.firstBatch).bind fun _ => errorsIn_ok _

/-! ### Reading -/

/-- The names of the fields of a cursor. -/
def frameNames : List String := ["id", "ns", "firstBatch"]

/-- A document has the fields of a cursor, whatever else it has. -/
structure Shows (d : Document) (id : Int64) (ns : String) (batch : List Value) : Prop where
  id_eq : d.get? "id" = some (.int64 id)
  ns_eq : d.get? "ns" = some (.string ns)
  batch_eq : d.get? "firstBatch" = some (.array batch)

/-- The fields of a document in any order, among others whose names are not those of a cursor. -/
def Extends (e d : Document) : Prop :=
  ∃ others : Document, (∀ key ∈ others.keys, key ∉ frameNames) ∧ e.Perm (d ++ others)

variable {id : Int64} {ns : String} {batch : List Value} {e : Document}

/-- Every document extends itself. -/
theorem Extends.refl (d : Document) : Extends d d :=
  ⟨[], List.forall_mem_nil _, by rw [List.append_nil]⟩

/-- A cursor's document holds three names. -/
theorem keys_frame (id : Int64) (ns : String) (batch : List Value) :
    (frame id ns batch).keys = frameNames := rfl

/-- **Extra fields.** The fields of a cursor are found among others and in any order. -/
theorem Extends.shows (h : Extends e (frame id ns batch)) : Shows e id ns batch := by
  obtain ⟨others, hothers, hperm⟩ := h
  have hnodup : (frame id ns batch).keys.Nodup := by
    rw [keys_frame]
    decide
  have hfound {key : String} {v : Value} (hmem : (key, v) ∈ frame id ns batch) :
      e.get? key = some v := by
    have hkey : key ∈ frameNames := keys_frame id ns batch ▸ List.mem_map_of_mem hmem
    exact Document.get?_of_perm_append hnodup hmem (fun hother => hothers key hother hkey) hperm
  have hfields : frame id ns batch =
      [("id", .int64 id), ("ns", .string ns), ("firstBatch", .array batch)] := rfl
  simp only [hfields] at hfound
  exact ⟨hfound (by simp), hfound (by simp), hfound (by simp)⟩

/-- A document that shows a cursor is read item by item. -/
theorem Shows.ofDocument_eq (h : Shows d id ns batch) (readItem : Value → Checked α) :
    ofDocument readItem d = (batch.mapM readItem).map fun items => ⟨id, ns, items⟩ := by
  have hid : d.read idField = .ok id := Document.read_eq_ok_iff.2 ⟨_, h.id_eq, rfl⟩
  have hns : d.read nsField = .ok ns := Document.read_eq_ok_iff.2 ⟨_, h.ns_eq, rfl⟩
  have hbatch : d.read firstBatchField = .ok batch := Document.read_eq_ok_iff.2 ⟨_, h.batch_eq, rfl⟩
  rw [ofDocument, hid, ok_bind, hns, ok_bind, hbatch, ok_bind]
  cases batch.mapM readItem <;> rfl

/-- **Round trip.** A cursor is read back if each of its items is, also among other fields. -/
theorem ofDocument_extends (h : c.toDocument writeItem = .ok d) (he : Extends e d)
    (hitem : ∀ x ∈ c.firstBatch, ∀ v, writeItem x = .ok v → readItem v = .ok x) :
    ofDocument readItem e = .ok c := by
  obtain ⟨batch, hbatch, rfl⟩ := toDocument_eq_ok_iff.1 h
  rw [he.shows.ofDocument_eq, map_eq_ok_iff]
  exact ⟨c.firstBatch, mapM_eq_ok_iff.2 (forall₂_of_mem hbatch hitem).flip, rfl⟩

/-- A cursor is read back when each item is. -/
theorem ofDocument_toDocument (h : c.toDocument writeItem = .ok d)
    (hitem : ∀ x ∈ c.firstBatch, ∀ v, writeItem x = .ok v → readItem v = .ok x) :
    ofDocument readItem d = .ok c :=
  ofDocument_extends h (.refl d) hitem

/-! ### Framing -/

/-- What becomes of a cursor, in terms of what becomes of its items. -/
structure Framed (writeItem : α → Checked Value) (readItem : Value → Checked α) (c : Cursor α) :
    Prop where
  /-- A cursor is written if and only if all its items are. -/
  written : (∃ d, c.toDocument writeItem = .ok d) ↔ ∀ x ∈ c.firstBatch, ∃ v, writeItem x = .ok v
  /-- Otherwise the first item that is not written decides. -/
  refused : ∀ error, c.toDocument writeItem = .error error ↔
    FirstError writeItem c.firstBatch error
  /-- A cursor whose items can be read back can be read back itself. -/
  restored : (∀ x ∈ c.firstBatch, ∃ v, writeItem x = .ok v ∧ readItem v = .ok x) →
    ∃ d, c.toDocument writeItem = .ok d ∧ ∀ e, Extends e d → ofDocument readItem e = .ok c
  /-- What was written of the items is what there is to be read. -/
  shown : ∀ d e, c.toDocument writeItem = .ok d → Extends e d →
    ∃ batch, List.Forall₂ (fun x v => writeItem x = .ok v) c.firstBatch batch ∧
      Shows e c.id c.ns batch
  /-- A cursor is read if and only if all its items are. -/
  read : ∀ d id ns batch, Shows d id ns batch →
    ((∃ c', ofDocument readItem d = .ok c') ↔ ∀ v ∈ batch, ∃ x, readItem v = .ok x)
  /-- Otherwise the first item that is not read decides. -/
  unread : ∀ d id ns batch, Shows d id ns batch →
    ∀ error, ofDocument readItem d = .error error ↔ FirstError readItem batch error

/-- **Framing.** It is faithful whatever the ways are in which one item is written and read. -/
theorem framed (writeItem : α → Checked Value) (readItem : Value → Checked α) (c : Cursor α) :
    Framed writeItem readItem c where
  written := by
    rw [toDocument_eq, exists_map_eq_ok_iff, exists_mapM_eq_ok_iff]
  refused error := by
    rw [toDocument_eq, map_eq_error_iff, mapM_eq_error_iff]
  restored hitems := by
    obtain ⟨batch, hbatch⟩ := exists_mapM_eq_ok_iff.2 fun x hx => (hitems x hx).imp fun _ => And.left
    have hd : c.toDocument writeItem = .ok (frame c.id c.ns batch) :=
      toDocument_eq_ok_iff.2 ⟨batch, mapM_eq_ok_iff.1 hbatch, rfl⟩
    refine ⟨_, hd, fun e he => ofDocument_extends hd he fun x hx v hv => ?_⟩
    obtain ⟨v', hv', hread⟩ := hitems x hx
    rw [hv] at hv'
    exact Except.ok.inj hv' ▸ hread
  shown d e hd he := by
    obtain ⟨batch, hbatch, rfl⟩ := toDocument_eq_ok_iff.1 hd
    exact ⟨batch, hbatch, he.shows⟩
  read d id ns batch h := by
    rw [h.ofDocument_eq, exists_map_eq_ok_iff, exists_mapM_eq_ok_iff]
  unread d id ns batch h error := by
    rw [h.ofDocument_eq, map_eq_error_iff, mapM_eq_error_iff]

/-! ### Distinct names and sorted options -/

/-- A cursor's document has no name twice when no item has. -/
theorem distinct_toDocument (h : c.toDocument writeItem = .ok d)
    (hitem : ∀ x ∈ c.firstBatch, ∀ v, writeItem x = .ok v → v.Distinct) :
    Document.Distinct d := by
  obtain ⟨batch, hbatch, rfl⟩ := toDocument_eq_ok_iff.1 h
  -- every value of the batch was written for an item.
  have hdistinct : ∀ v ∈ batch, v.Distinct :=
    ((List.forall₂_and_left batch c.firstBatch).1
      (forall₂_of_mem hbatch fun x hx v hv => ⟨hitem x hx v hv, hv⟩).flip).1
  refine Document.distinct_put _ (Document.distinct_put _ (Document.distinct_put _ trivial trivial)
    trivial) ?_
  exact (Value.allDistinct_iff batch).2 hdistinct

/-- Items whose options are sorted make up a cursor whose options are. -/
theorem map_toDocument {f : α → α} (h : c.toDocument writeItem = .ok d)
    (hitem : ∀ x ∈ c.firstBatch, ∀ v, writeItem x = .ok v → writeItem (f x) = .ok v.sortOptions) :
    (c.map f).toDocument writeItem = .ok (Document.sortOptions d) := by
  obtain ⟨batch, hbatch, rfl⟩ := toDocument_eq_ok_iff.1 h
  have hsorted : List.Forall₂ (fun x v => writeItem x = .ok v) (c.firstBatch.map f)
      (batch.map Value.sortOptions) := by
    rw [List.forall₂_map_left_iff, List.forall₂_map_right_iff]
    exact forall₂_of_mem hbatch hitem
  refine toDocument_eq_ok_iff.2 ⟨_, hsorted, ?_⟩
  rw [← Value.sortAllOptions_eq_map]
  rfl

end CommandWire.Cursor
