import CommandWire.Command.Basic
import CommandWire.Cursor
import CommandWire.Index

namespace CommandWire.ListIndexes

/-!
# `listIndexes`

Lists the indexes of a collection as a cursor.

* `Argument` — the collection, whose name is not empty.
* `command` — the command; its result is a cursor over indexes.
-/

/-- The collection whose indexes are asked for, which has a name. -/
structure Argument where
  collection : String
  nonempty : collection ≠ ""
deriving DecidableEq

/-- The collection's name stands under the command's own token. -/
def collectionField : Field String := ⟨"listIndexes"⟩

/-- The cursor over the indexes. -/
def cursorField : Field Document := ⟨"cursor"⟩

/-- The argument that names a collection. -/
def Argument.ofCollection (collection : String) : Checked Argument :=
  if h : collection ≠ "" then .ok ⟨collection, h⟩
  else
    .error (.badValue "Argument to listIndexes must be a collection name, not the empty string")

/-- Words an error about the kind of the argument in this command's way. -/
def reword (e : ProtocolError) : ProtocolError :=
  match e.foundKind? with
  | some found =>
    e.withMessage ("Argument to listIndexes must be of type String, not " ++ found.label)
  | none => e

/-- The argument that a document describes. -/
def readArgument (d : Document) : Checked Argument := do
  let collection ← (d.read collectionField).mapError reword
  Argument.ofCollection collection

/-- The document that asks for the indexes of a collection. -/
def writeArgument (a : Argument) : Document := Document.empty.put collectionField a.collection

/-- The reply that carries a cursor.  An index that cannot be written makes the whole result
    unwritable. -/
def writeResult (cursor : Cursor Index) : Checked Document := do
  let d ← Checked.wrapped (cursor.toDocument Index.toValue)
  return Document.empty.put cursorField d

/-- The cursor that a reply carries. -/
def readResult (d : Document) : Checked (Cursor Index) := do
  let cursor ← d.read cursorField
  Cursor.ofDocument Index.ofValue cursor

/-- `listIndexes`: no secondary answers it, and all four directions are there. -/
def command : Command Argument (Cursor Index) where
  name := "listIndexes"
  onSecondary := false
  readArgument := readArgument
  writeResult := writeResult
  writeArgument? := some fun a => .ok (writeArgument a)
  readResult? := some readResult

end CommandWire.ListIndexes
