import CommandWire.Command.Basic
import CommandWire.Field.Document

namespace CommandWire.CollStats

/-!
# `collStats`

Reports how many documents a collection holds and how many bytes it and its indexes take.

* `Scale` — the unit of the sizes, in bytes, which is not zero.
* `Argument` — what is asked for.
* `Reply` — the figures; `Reply.averageSize` and `Reply.totalIndexSize` are computed from the others.
* `Reply.toDocument` — the figures as a document, each as the narrowest integer that holds it.
* `command` — the command.
-/

/-- A unit of sizes. -/
structure Scale where
  factor : UInt32
  ne_zero : factor ≠ 0
deriving DecidableEq

/-- The unit of so many bytes, if the number is positive and fits. -/
def Scale.ofInt? (n : Int) : Option Scale :=
  if h : 1 ≤ n ∧ n < UInt32.size then
    some ⟨UInt32.ofNat n.toNat, by
      intro hzero
      have hsize : UInt32.size = 4294967296 := rfl
      have hnat := congrArg UInt32.toNat hzero
      rw [UInt32.toNat_ofNat'] at hnat
      simp at hnat
      omega⟩
  else none

/-- What a client asks: which collection, the unit of the sizes, and whether to say more. -/
structure Argument where
  collection : String
  scale : Scale
  verbose : Bool
deriving DecidableEq

/-- Whether a collection is of limited size, and then how many documents it holds at most. -/
inductive Capping where
  | uncapped
  | capped (max : Option UInt64)
deriving DecidableEq

/-- The figures of a collection.  Sizes are numbers of the scale's units. -/
structure Reply where
  scale : Scale
  database : String
  collection : String
  count : UInt64
  size : UInt64
  storageSize : UInt64
  capping : Capping
  indexDetails : Document
  /-- The size of every index, in the order of the indexes. -/
  indexSizes : List (String × UInt64)
deriving DecidableEq

/-- The collection's name stands under the command's own token. -/
def collectionField : Field String := ⟨"collStats"⟩

/-- The unit of the sizes, in bytes; 1 if it is missing. -/
def scaleField : Field Number := ⟨"scale"⟩

/-- Whether the details of the indexes are asked for; a number stands for a boolean. -/
def verboseField : Field Bool := ⟨"verbose"⟩

/-- The collection's full name. -/
def nsField : Field String := ⟨"ns"⟩

/-- The number of documents. -/
def countField : Field Number := ⟨"count"⟩

/-- The size of the documents together, in units of the scale. -/
def sizeField : Field Number := ⟨"size"⟩

/-- The mean size of a document, in bytes; only written if there are documents. -/
def averageSizeField : Field Number := ⟨"avgObjSize"⟩

/-- The size that is set aside for the collection. -/
def storageSizeField : Field Number := ⟨"storageSize"⟩

/-- The number of indexes. -/
def indexCountField : Field Number := ⟨"nindexes"⟩

/-- What the server says about its indexes, unchanged. -/
def indexDetailsField : Field Document := ⟨"indexDetails"⟩

/-- The sizes of all indexes, added up. -/
def totalIndexSizeField : Field Number := ⟨"totalIndexSize"⟩

/-- The size of each index, under its name. -/
def indexSizesField : Field Document := ⟨"indexSizes"⟩

/-- Whether the collection is of limited size. -/
def cappedField : Field Bool := ⟨"capped"⟩

/-- The greatest number of documents of a capped collection, if there is one. -/
def maxField : Field Number := ⟨"max"⟩

/-! ### The argument -/

/-- The argument that a document describes.  The scale is refused after the collection and before
    the verbosity is read. -/
def readArgument (d : Document) : Checked Argument := do
  let collection ← d.read collectionField
  let scaleNumber ← d.readOr scaleField (.int32 1)
  match Scale.ofInt? scaleNumber.toInt64.toInt with
  | none => throw (.badValue "Scale must be a value >= 1")
  | some scale =>
    let verbose ← d.readFlag verboseField false
    return ⟨collection, scale, verbose⟩

/-! ### The figures -/

namespace Reply

/-- The collection's full name: database and collection, with a dot between them. -/
def ns (r : Reply) : String := r.database ++ "." ++ r.collection

/-- Whether the collection is capped. -/
def isCapped (r : Reply) : Bool :=
  match r.capping with
  | .uncapped => false
  | .capped _ => true

/-- The greatest number of documents. -/
def maxCount (r : Reply) : Option UInt64 :=
  match r.capping with
  | .uncapped => none
  | .capped max => max

/-- Why figures are not reported. -/
inductive Fault where
  | averageSizeOverflow
  | totalIndexSizeOverflow
deriving DecidableEq, Repr

/-- The text of a fault. -/
def Fault.message : Fault → String
  | .averageSizeOverflow => "avgObjSize overflows a 64-bit integer"
  | .totalIndexSizeOverflow => "totalIndexSize overflows a 64-bit integer"

/-- The mean size of a document in bytes; an empty collection has none.  The size in bytes has to fit
    64 bits. -/
def averageSize (r : Reply) : Except Fault (Option UInt64) :=
  if r.count = 0 then .ok none
  else
    let bytes := r.scale.factor.toNat * r.size.toNat
    if bytes < UInt64.size then .ok (some (UInt64.ofNat (bytes / r.count.toNat)))
    else .error .averageSizeOverflow

/-- A sum of sizes and one more size.  They have to fit 64 bits together. -/
def addSize (sum size : UInt64) : Except Fault UInt64 :=
  if sum.toNat + size.toNat < UInt64.size then .ok (sum + size) else .error .totalIndexSizeOverflow

/-- The sizes of all indexes together, added up one by one. -/
def totalIndexSize (r : Reply) : Except Fault UInt64 :=
  r.indexSizes.foldlM (fun sum p => addSize sum p.2) 0

/-- A fault as an error of the protocol. -/
def orBadValue {α : Type} (x : Except Fault α) : Checked α :=
  x.mapError fun fault => .badValue fault.message

/-- The size of every index under its name. -/
def indexSizesDocument (r : Reply) : Checked Document :=
  r.indexSizes.foldlM
    (fun (d : Document) p => (Number.ofCount p.2).map fun n => d.insert p.1 n.toValue)
    Document.empty

/-- An optional count. -/
def optionalCount : Option UInt64 → Checked (Option Number)
  | none => .ok none
  | some n => (Number.ofCount n).map some

/-- The document of a reply, its errors not yet wrapped. -/
def figures (r : Reply) : Checked Document := do
  let indexSizes ← r.indexSizesDocument
  let totalIndexSize ← orBadValue r.totalIndexSize
  let indexCount ← Number.ofNat r.indexSizes.length
  let count ← Number.ofCount r.count
  let size ← Number.ofCount r.size
  let averageSize ← orBadValue r.averageSize
  let average ← optionalCount averageSize
  let storageSize ← Number.ofCount r.storageSize
  let total ← Number.ofCount totalIndexSize
  let max ← optionalCount r.maxCount
  return Document.empty
    |>.put nsField r.ns
    |>.put countField count
    |>.put sizeField size
    |>.putOptional averageSizeField average
    |>.put storageSizeField storageSize
    |>.put indexCountField indexCount
    |>.put indexDetailsField r.indexDetails
    |>.put totalIndexSizeField total
    |>.put indexSizesField indexSizes
    |>.put cappedField r.isCapped
    |>.putOptional maxField max

/-- The document of a reply. -/
def toDocument (r : Reply) : Checked Document := Checked.wrapped r.figures

end Reply

/-- `collStats`: secondaries answer it too, and only the server's side of it is there. -/
def command : Command Argument Reply where
  name := "collStats"
  onSecondary := true
  readArgument := readArgument
  writeResult := Reply.toDocument

end CommandWire.CollStats
