import CommandWire.Field.Document
import CommandWire.Value.Same

namespace CommandWire

/-!
# Descriptions of indexes

* `Index` — the options of one index: those that have a field of their own, and all others by name.
* `Index.with…` — the options one by one.  An option that has a field of its own cannot be set by name.
* `Index.toValue`, `Index.ofValue` — the description as a wire value.  An index without a key is
  neither written nor read.
-/

/-- The options of an index, and the fields of its description that have no meaning here. -/
structure Index where
  version : Int32
  name : String
  ns : String
  key : Document
  unique : Bool
  sparse : Bool
  background : Bool
  expireAfterSeconds : Option Int64
  other : Document
deriving DecidableEq

namespace Index

/-- The version of the index's format. -/
def versionField : Field Number := ⟨"v"⟩

/-- The names that are indexed, each with its direction. -/
def keyField : Field Document := ⟨"key"⟩

/-- The name of the index. -/
def nameField : Field String := ⟨"name"⟩

/-- The namespace of the index. -/
def nsField : Field String := ⟨"ns"⟩

/-- Whether a key stands for one document at most; written only if it does. -/
def uniqueField : Field Bool := ⟨"unique"⟩

/-- Whether documents without the names are left out; written only if they are. -/
def sparseField : Field Bool := ⟨"sparse"⟩

/-- Whether the index is built while others write; written only if it is. -/
def backgroundField : Field Bool := ⟨"background"⟩

/-- After how many seconds a document goes, if ever. -/
def expireAfterSecondsField : Field Number := ⟨"expireAfterSeconds"⟩

/-- The options that have a field of their own. -/
def knownNames : List String :=
  ["v", "key", "name", "ns", "unique", "sparse", "background", "expireAfterSeconds"]

/-- The version of an index that names none. -/
def defaultVersion : Int32 := 1

/-! ### Options -/

/-- An index without options. -/
def plain (name ns : String) (key : Document) : Index :=
  ⟨defaultVersion, name, ns, key, false, false, false, none, Document.empty⟩

/-- The index in another version of the format. -/
def withVersion (x : Index) (version : Int32) : Index := { x with version }

/-- The index with or without unique keys. -/
def withUnique (x : Index) (unique : Bool) : Index := { x with unique }

/-- The index with or without the documents that lack its names. -/
def withSparse (x : Index) (sparse : Bool) : Index := { x with sparse }

/-- The index built in the background or not. -/
def withBackground (x : Index) (background : Bool) : Index := { x with background }

/-- The index whose documents go after some seconds. -/
def withExpireAfterSeconds (x : Index) (seconds : Int64) : Index :=
  { x with expireAfterSeconds := some seconds }

/-- Keeps an option that has no field of its own; one that has is ignored. -/
def withOther (x : Index) (name : String) (value : Value) : Index :=
  if name ∈ knownNames then x else { x with other := x.other.insert name value }

/-- Whether two descriptions are the same, their documents compared as documents. -/
def same (x y : Index) : Bool :=
  x.version == y.version && x.name == y.name && x.ns == y.ns && Document.same x.key y.key &&
    x.unique == y.unique && x.sparse == y.sparse && x.background == y.background &&
    x.expireAfterSeconds == y.expireAfterSeconds && Document.same x.other y.other

/-! ### The wire form -/

/-- Why a description is neither written nor read. -/
inductive Fault where
  /-- The index to be written has no key. -/
  | writtenWithoutKey (name : String)
  /-- The index that was read has no key. -/
  | readWithoutKey
deriving DecidableEq, Repr

/-- The text of a fault. -/
def Fault.message : Fault → String
  | .writtenWithoutKey name => "index '" ++ name ++ "' has an empty key pattern"
  | .readWithoutKey => "index key pattern must not be empty"

/-- Writes a field only if it is true. -/
def putIfSet (d : Document) (field : Field Bool) (b : Bool) : Document :=
  d.putOptional field (if b then some true else none)

/-- The document of an index, whatever its key. -/
def toDocument (x : Index) : Document :=
  let typed :=
    Document.empty
      |>.put versionField (.int32 x.version)
      |>.put keyField x.key
      |>.put nameField x.name
      |>.put nsField x.ns
  let flagged :=
    putIfSet (putIfSet (putIfSet typed uniqueField x.unique) sparseField x.sparse)
      backgroundField x.background
  let expiring :=
    flagged.putOptional expireAfterSecondsField (x.expireAfterSeconds.map Number.int64)
  x.other.foldl (fun d p => Document.insert d p.1 p.2) expiring

/-- The description of an index as an item of a batch. -/
def toValue (x : Index) : Checked Value :=
  if x.key.isEmpty then .error (.badValue (Fault.writtenWithoutKey x.name).message)
  else .ok (.document x.toDocument)

/-- The index that a document describes. -/
def ofDocument (d : Document) : Checked Index := do
  let key ← d.read keyField
  if key.isEmpty then throw (.badValue Fault.readWithoutKey.message)
  let version ← d.readOr versionField (.int32 defaultVersion)
  let name ← d.read nameField
  let ns ← d.read nsField
  let unique ← d.readFlag uniqueField false
  let sparse ← d.readFlag sparseField false
  let background ← d.readFlag backgroundField false
  let expireAfterSeconds ← d.readOptional expireAfterSecondsField
  return {
    version := version.toInt32
    name, ns, key, unique, sparse, background
    expireAfterSeconds := expireAfterSeconds.map Number.toInt64
    other := Document.ofPairs (d.filter fun p => !knownNames.contains p.1) }

/-- The index that an item of a batch describes. -/
def ofValue : Value → Checked Index
  | .document d => ofDocument d
  | v => .error (.wrongKind "firstBatch" .document v.kind)

end Index

end CommandWire
