import CommandWire.Bson.Decode
import CommandWire.Error

namespace CommandWire.Batch

/-!
# Batches of documents

A batch is the octets of documents one after another.  Each begins with its own length, so that one
that cannot be read does not hide those after it.

* `chunks` — the octets of the single documents, and what is left at the end.
* `items` — the documents, with an error for each that cannot be read and one for what is left.
* `Reading`, `Reading.next` — the same item by item.
-/

/-- The octets of the document in front, and what follows; none when the length in front is less than
    that of an empty document or more than there is. -/
def chunk? (bytes : List UInt8) : Option (List UInt8 × List UInt8) := do
  let (length, _) ← Octets.takeInt32? bytes
  if length < 5 then none else Octets.take? length.toInt.toNat bytes

/-- The octets of the first `fuel` documents at most, and what is left. -/
def chunksFrom : Nat → List UInt8 → List (List UInt8) × List UInt8
  | 0, bytes => ([], bytes)
  | fuel + 1, bytes =>
    match chunk? bytes with
    | none => ([], bytes)
    | some (front, rest) =>
      let (others, left) := chunksFrom fuel rest
      (front :: others, left)

/-- The octets of the documents of a batch, and what is left at the end.  No batch holds more
    documents than octets. -/
def chunks (bytes : List UInt8) : List (List UInt8) × List UInt8 := chunksFrom bytes.length bytes

/-- Why an item of a batch is not a document. -/
inductive Fault where
  | malformed
  /-- So many octets are left that do not begin with a length that fits. -/
  | truncated (left : Nat)
deriving DecidableEq, Repr

/-- The text of a fault. -/
def Fault.message : Fault → String
  | .malformed => Bson.malformed
  | .truncated left =>
    "truncated document in reply batch (" ++ toString left ++ " bytes left)"

/-- The error in the place of an item. -/
def Fault.toError (fault : Fault) : ProtocolError := .failedToParse fault.message

/-- The document of the octets of one. -/
def item (chunk : List UInt8) : Checked Document :=
  match Bson.decode chunk with
  | some d => .ok d
  | none => .error Fault.malformed.toError

/-- The documents of a batch. -/
def items (bytes : List UInt8) : List (Checked Document) :=
  let (front, left) := chunks bytes
  front.map item ++ if left.isEmpty then [] else [.error (Fault.truncated left.length).toError]

/-! ### Item by item -/

/-- A batch while it is read: the octets that are still to be read, and whether octets that begin
    with no length that fits have ended the reading. -/
structure Reading where
  bytes : List UInt8
  ended : Bool
deriving DecidableEq, Repr

namespace Reading

/-- A reading at the beginning of a batch. -/
def start (bytes : List UInt8) : Reading := ⟨bytes, false⟩

/-- The next item, if there is one, and the reading after it. -/
def next (r : Reading) : Option (Checked Document) × Reading :=
  if r.ended || r.bytes.isEmpty then (none, r)
  else
    match chunk? r.bytes with
    | some (front, rest) => (some (item front), { r with bytes := rest })
    | none => (some (.error (Fault.truncated r.bytes.length).toError), { r with ended := true })

end Reading

end CommandWire.Batch
