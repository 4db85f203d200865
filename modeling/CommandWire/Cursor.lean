import CommandWire.Field.Document

namespace CommandWire

/-!
# Cursors

The answer to a query of many items is a cursor: an identifier to ask for more with, the namespace
that is read, and the first batch of items.

* `Cursor` — a cursor over items of any type.
* `Cursor.toDocument`, `Cursor.ofDocument` — a cursor as a document, given how one item is written
  or read.  The first item that fails decides.
-/

/-- A cursor and the first batch of its items. -/
structure Cursor (α : Type) where
  id : Int64
  ns : String
  firstBatch : List α
deriving DecidableEq

namespace Cursor

variable {α : Type}

/-- The number to ask for more items with; zero if there are none. -/
def idField : Field Int64 := ⟨"id"⟩

/-- The namespace that is read. -/
def nsField : Field String := ⟨"ns"⟩

/-- The items of the first batch. -/
def firstBatchField : Field (List Value) := ⟨"firstBatch"⟩

/-- A cursor whose items all stand in the first batch. -/
def exhausted (ns : String) (firstBatch : List α) : Cursor α := ⟨0, ns, firstBatch⟩

/-- Whether there is nothing more to ask for. -/
def isExhausted (c : Cursor α) : Bool := c.id == 0

/-- A cursor as a document. -/
def toDocument (writeItem : α → Checked Value) (c : Cursor α) : Checked Document := do
  let batch ← c.firstBatch.mapM writeItem
  return Document.empty |>.put idField c.id |>.put nsField c.ns |>.put firstBatchField batch

/-- The cursor that a document describes. -/
def ofDocument (readItem : Value → Checked α) (d : Document) : Checked (Cursor α) := do
  let id ← d.read idField
  let ns ← d.read nsField
  let values ← d.read firstBatchField
  let batch ← values.mapM readItem
  return ⟨id, ns, batch⟩

end Cursor

end CommandWire
