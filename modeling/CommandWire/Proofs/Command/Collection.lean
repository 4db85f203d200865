import CommandWire.Command.ListIndexes
import CommandWire.Proofs.Command.Figures
import CommandWire.Proofs.Field.Write
import CommandWire.Proofs.Namespace

namespace CommandWire

/-!
# Names of collections

Two commands are given the name of a collection as the content of the field that names them.
`listIndexes` refuses the empty name, `collStats` takes every name, and the namespace of its reply
ends in a dot when the name is empty or ends in one itself.

* `ListIndexes.readArgument_eq_ok_iff`, `CollStats.readArgument_eq_ok_iff` — the documents that are
  accepted, and their arguments.
* `CollStats.readArgument_insert` — of an accepted document any name is accepted.
* `CollStats.Reply.get?_ns_of_toDocument`, `CollStats.Reply.endsInDot_ns_iff` — the namespace of a
  reply, and when it ends in a dot.
* `collection_of_readArgument` — all of this together.
-/

/-! ### `listIndexes` -/

namespace ListIndexes

/-- An argument is made of every name but the empty one, which no argument holds. -/
theorem ofCollection_eq_ok_iff {collection : String} {a : Argument} :
    Argument.ofCollection collection = .ok a ↔ a.collection = collection := by
  obtain ⟨name, hname⟩ := a
  unfold Argument.ofCollection
  split
  · constructor
    · intro h
      cases h
      rfl
    · rintro rfl
      rfl
  · next hempty =>
    constructor
    · intro h
      cases h
    · rintro rfl
      exact absurd hname hempty

/-- The argument is read from the text under the command's name. -/
theorem readArgument_eq_ok_iff {d : Document} {a : Argument} :
    readArgument d = .ok a ↔ d.get? "listIndexes" = some (.string a.collection) := by
  have hread : ∀ name, (d.read collectionField).mapError reword = .ok name ↔
      d.get? "listIndexes" = some (.string name) :=
    fun name => mapError_eq_ok.trans Document.read_text_eq_ok_iff
  rw [readArgument, bind_eq_ok]
  constructor
  · rintro ⟨name, hname, ha⟩
    rw [ofCollection_eq_ok_iff.1 ha]
    exact (hread name).1 hname
  · intro h
    exact ⟨a.collection, (hread _).2 h, ofCollection_eq_ok_iff.2 rfl⟩

end ListIndexes

/-! ### `collStats` -/

namespace CollStats

/-- An argument is read from three fields, each by itself. -/
theorem readArgument_eq_ok_iff {d : Document} {a : Argument} :
    readArgument d = .ok a ↔ d.get? "collStats" = some (.string a.collection) ∧
      (∃ n, d.readOr scaleField (.int32 1) = .ok n ∧ Scale.ofInt? n.toInt64.toInt = some a.scale) ∧
      d.readFlag verboseField false = .ok a.verbose := by
  unfold readArgument
  rw [bind_eq_ok]
  constructor
  · rintro ⟨name, hname, h⟩
    obtain ⟨n, hn, h⟩ := bind_eq_ok.1 h
    split at h
    · cases h
    · next scale hscale =>
      obtain ⟨verbose, hverbose, h⟩ := bind_eq_ok.1 h
      cases h
      exact ⟨Document.read_text_eq_ok_iff.1 hname, ⟨n, hn, hscale⟩, hverbose⟩
  · rintro ⟨hname, ⟨n, hn, hscale⟩, hverbose⟩
    refine ⟨a.collection, Document.read_text_eq_ok_iff.2 hname, bind_eq_ok.2 ⟨n, hn, ?_⟩⟩
    rw [hscale]
    exact bind_eq_ok.2 ⟨a.verbose, hverbose, rfl⟩

/-- The name decides nothing: whatever it is in a document that is accepted, any other name would be
    accepted in its place. -/
theorem readArgument_insert {d : Document} {a : Argument} (h : readArgument d = .ok a)
    (name : String) :
    readArgument (d.insert "collStats" (.string name)) = .ok { a with collection := name } := by
  have hother : ∀ key, key ≠ "collStats" →
      Document.get? (d.insert "collStats" (.string name)) key = d.get? key :=
    fun key hkey => Document.get?_insert_of_ne d _ hkey
  obtain ⟨-, hscale, hverbose⟩ := readArgument_eq_ok_iff.1 h
  rw [readArgument_eq_ok_iff, Document.readOr_congr scaleField _ (hother _ (by decide)),
    Document.readFlag_congr verboseField _ (hother _ (by decide))]
  exact ⟨Document.get?_insert_self d _ _, hscale, hverbose⟩

namespace Reply

/-- A reply that is written holds the collection's full name. -/
theorem get?_ns_of_toDocument {r : Reply} {written : Document} (h : r.toDocument = .ok written) :
    written.get? "ns" = some (.string r.ns) := by
  obtain ⟨-, -, rfl⟩ := writeResult_eq_ok_iff.1 h
  exact get?_table (by simp [table])

end Reply

end CollStats

/-! ### Trailing dots -/

/-- The last character of a text is a dot. -/
def EndsInDot (text : String) : Prop := text.toList.getLast? = some '.'

/-- A full name ends in a dot when the collection's name is empty or does. -/
theorem CollStats.Reply.endsInDot_ns_iff (r : CollStats.Reply) :
    EndsInDot r.ns ↔ r.collection = "" ∨ EndsInDot r.collection := by
  unfold EndsInDot
  -- behind the joining dot, the last character is that of the collection if there is one.
  rw [ns, Namespace.toList_join, ← String.toList_eq_nil_iff]
  cases r.collection.toList with
  | nil => simp
  | cons c cs => simp [List.getLast?_append, List.getLast?_cons_cons]

/-- **Names of collections.** A name that `listIndexes` accepts is not empty.  One that `collStats`
    accepts is empty exactly when the document holds the empty name, and every document that it
    accepts under some name it accepts under the empty one.  The namespace of a reply about the
    collection then ends in a dot. -/
theorem collection_of_readArgument (d : Document) :
    (∀ a, ListIndexes.readArgument d = .ok a ↔
      a.collection ≠ "" ∧ d.get? "listIndexes" = some (.string a.collection)) ∧
    ∀ a, CollStats.readArgument d = .ok a →
      (a.collection = "" ↔ d.get? "collStats" = some (.string "")) ∧
      (∀ name, CollStats.readArgument (d.insert "collStats" (.string name)) =
        .ok { a with collection := name }) ∧
      ∀ (r : CollStats.Reply) (written : Document), r.collection = a.collection →
        r.toDocument = .ok written → written.get? "ns" = some (.string r.ns) ∧
          (EndsInDot r.ns ↔ d.get? "collStats" = some (.string "") ∨ EndsInDot a.collection) := by
  refine ⟨fun a => ?_, fun a ha => ?_⟩
  · rw [ListIndexes.readArgument_eq_ok_iff]
    exact ⟨fun h => ⟨a.nonempty, h⟩, fun h => h.2⟩
  · have hname := (CollStats.readArgument_eq_ok_iff.1 ha).1
    have hempty : a.collection = "" ↔ d.get? "collStats" = some (.string "") := by
      rw [hname]
      simp
    refine ⟨hempty, CollStats.readArgument_insert ha, fun r written hr hwritten => ?_⟩
    refine ⟨CollStats.Reply.get?_ns_of_toDocument hwritten, ?_⟩
    rw [CollStats.Reply.endsInDot_ns_iff, hr, hempty]

/-- The empty name is a name for `collStats`. -/
theorem not_forall_collection_ne_empty :
    ¬ ∀ (d : Document) (a : CollStats.Argument),
      CollStats.readArgument d = .ok a → a.collection ≠ "" := by
  intro h
  exact h [("collStats", .string "")] ⟨"", ⟨1, by decide⟩, false⟩ (by rfl) rfl

end CommandWire
