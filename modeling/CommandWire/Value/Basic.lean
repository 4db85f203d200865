import CommandWire.Number.Binary64
import CommandWire.Value.Kind

namespace CommandWire

/-!
# Wire values and documents

A document is a sequence of named values in which no name stands twice.  Values nest: a value can be
a document or a sequence of values.

* `Value` — every value of the wire format.
* `Document` — named values in order, with `Document.get?`, `Document.insert` and
  `Document.ofPairs`.  Inserting a name that is there already replaces its value and keeps its place.
* `Value.kind` — the kind that a value has on the wire.
-/

/-- A sequence of octets of fixed length. -/
structure FixedOctets (count : Nat) where
  bytes : List UInt8
  length_eq : bytes.length = count
deriving DecidableEq

namespace FixedOctets

/-- The octets, if their count is right. -/
def ofList? {count : Nat} (bytes : List UInt8) : Option (FixedOctets count) :=
  if h : bytes.length = count then some ⟨bytes, h⟩ else none

/-- Octets of the right number are read as themselves. -/
@[simp] theorem ofList?_bytes {count : Nat} (o : FixedOctets count) : ofList? o.bytes = some o := by
  simp [ofList?, o.length_eq]

instance {count : Nat} : Inhabited (FixedOctets count) :=
  ⟨⟨List.replicate count 0, List.length_replicate⟩⟩

end FixedOctets

/-- An object identifier. -/
abbrev ObjectId := FixedOctets 12

/-- A replication timestamp: seconds since 1970 and a count within the second. -/
structure Timestamp where
  time : UInt32
  increment : UInt32
deriving DecidableEq, Repr, Inhabited

/-- A value on the wire.  Array and document hold their items in order. -/
inductive Value where
  | double (x : Binary64)
  | string (s : String)
  | document (fields : List (String × Value))
  | array (items : List Value)
  | binary (subtype : UInt8) (bytes : List UInt8)
  | undefined
  | objectId (id : ObjectId)
  | boolean (b : Bool)
  /-- Milliseconds since 1970. -/
  | dateTime (millis : Int64)
  | null
  | regex (pattern options : String)
  | dbPointer (ns : String) (id : ObjectId)
  | code (text : String)
  | symbol (name : String)
  | codeWithScope (text : String) (scope : List (String × Value))
  | int32 (n : Int32)
  | timestamp (t : Timestamp)
  | int64 (n : Int64)
  | decimal128 (digits : FixedOctets 16)
  | minKey
  | maxKey
deriving Inhabited

/-- Named values in order. -/
abbrev Document := List (String × Value)

/-- The kind that a value has on the wire. -/
def Value.kind : Value → Kind
  | .double _ => .double
  | .string _ => .string
  | .document _ => .document
  | .array _ => .array
  | .binary _ _ => .binary
  | .undefined => .undefined
  | .objectId _ => .objectId
  | .boolean _ => .boolean
  | .dateTime _ => .dateTime
  | .null => .null
  | .regex _ _ => .regex
  | .dbPointer _ _ => .dbPointer
  | .code _ => .code
  | .symbol _ => .symbol
  | .codeWithScope _ _ => .codeWithScope
  | .int32 _ => .int32
  | .timestamp _ => .timestamp
  | .int64 _ => .int64
  | .decimal128 _ => .decimal128
  | .minKey => .minKey
  | .maxKey => .maxKey

/-! ### Deciding equality -/

mutual

/-- Whether two values are identical, bit for bit and in the same order. -/
def Value.beq : Value → Value → Bool
  | .double x, .double y => x = y
  | .string s, .string t => s = t
  | .document xs, .document ys => Document.beq xs ys
  | .array xs, .array ys => Value.beqList xs ys
  | .binary s xs, .binary t ys => s = t && xs = ys
  | .undefined, .undefined => true
  | .objectId x, .objectId y => x = y
  | .boolean x, .boolean y => x = y
  | .dateTime x, .dateTime y => x = y
  | .null, .null => true
  | .regex p o, .regex q r => p = q && o = r
  | .dbPointer n x, .dbPointer m y => n = m && x = y
  | .code x, .code y => x = y
  | .symbol x, .symbol y => x = y
  | .codeWithScope x xs, .codeWithScope y ys => x = y && Document.beq xs ys
  | .int32 x, .int32 y => x = y
  | .timestamp x, .timestamp y => x = y
  | .int64 x, .int64 y => x = y
  | .decimal128 x, .decimal128 y => x = y
  | .minKey, .minKey => true
  | .maxKey, .maxKey => true
  | _, _ => false

/-- Whether two sequences of values are equal. -/
def Value.beqList : List Value → List Value → Bool
  | [], [] => true
  | x :: xs, y :: ys => Value.beq x y && Value.beqList xs ys
  | _, _ => false

/-- Whether two sequences of named values are equal. -/
def Document.beq : List (String × Value) → List (String × Value) → Bool
  | [], [] => true
  | (k, x) :: xs, (l, y) :: ys => k = l && Value.beq x y && Document.beq xs ys
  | _, _ => false

end

mutual

/-- The test of equality is exact on values. -/
theorem Value.beq_iff (x y : Value) : Value.beq x y = true ↔ x = y := by
  cases x <;> cases y <;>
    simp [Value.beq, Value.beqList_iff, Document.beq_iff]

/-- The test of equality is exact on sequences of values. -/
theorem Value.beqList_iff (xs ys : List Value) : Value.beqList xs ys = true ↔ xs = ys := by
  cases xs <;> cases ys <;> simp [Value.beqList]
  rename_i x xs y ys
  rw [Value.beq_iff x y, Value.beqList_iff xs ys]

/-- The test of equality is exact on sequences of named values. -/
theorem Document.beq_iff (xs ys : List (String × Value)) :
    Document.beq xs ys = true ↔ xs = ys := by
  match xs, ys with
  | [], [] => simp [Document.beq]
  | [], _ :: _ => simp [Document.beq]
  | _ :: _, [] => simp [Document.beq]
  | (k, x) :: xs, (l, y) :: ys =>
    simp [Document.beq, Value.beq_iff x y, Document.beq_iff xs ys]

end

instance : DecidableEq Value := fun x y =>
  if h : Value.beq x y = true then isTrue ((Value.beq_iff x y).1 h)
  else isFalse fun hxy => h ((Value.beq_iff x y).2 hxy)

/-! ### Documents -/

namespace Document

/-- The document without names. -/
def empty : Document := []

/-- The names of a document, in order. -/
def keys (d : Document) : List String := d.map Prod.fst

/-- The value of a name. -/
def get? : Document → String → Option Value
  | [], _ => none
  | (k, v) :: rest, key => if k = key then some v else get? rest key

/-- Gives a name a value: in its place if it is there already, at the end else. -/
def insert : Document → String → Value → Document
  | [], key, value => [(key, value)]
  | (k, v) :: rest, key, value =>
    if k = key then (key, value) :: rest else (k, v) :: insert rest key value

/-- The document that results from inserting pairs one by one. -/
def ofPairs (pairs : List (String × Value)) : Document :=
  pairs.foldl (fun d p => insert d p.1 p.2) empty

/-- Nothing stands under a name in the empty document. -/
@[simp] theorem get?_nil (key : String) : get? [] key = none := rfl

/-- A name inserted into the empty document is its only one. -/
@[simp] theorem insert_nil (key : String) (value : Value) : insert [] key value = [(key, value)] :=
  rfl

/-- A name that was inserted holds the value that it was given. -/
theorem get?_insert_self (d : Document) (key : String) (value : Value) :
    get? (insert d key value) key = some value := by
  induction d with
  | nil => simp [get?]
  | cons p rest ih =>
    obtain ⟨k, v⟩ := p
    by_cases h : k = key <;> simp [insert, get?, h, ih]

/-- An insertion leaves what stands under other names. -/
theorem get?_insert_of_ne {key other : String} (d : Document) (value : Value) (h : other ≠ key) :
    get? (insert d key value) other = get? d other := by
  induction d with
  | nil => simp [get?, h.symm]
  | cons p rest ih =>
    obtain ⟨k, v⟩ := p
    by_cases hk : k = key
    · subst hk; simp [insert, get?, h.symm]
    · by_cases ho : k = other
      · subst ho; simp [insert, get?, h]
      · simp [insert, get?, hk, ho, ih]

/-- The names after an insertion: a new name comes last, a known one changes nothing. -/
theorem keys_insert (d : Document) (key : String) (value : Value) :
    keys (insert d key value) = if key ∈ keys d then keys d else keys d ++ [key] := by
  induction d with
  | nil => simp [keys]
  | cons p rest ih =>
    obtain ⟨k, v⟩ := p
    by_cases hk : k = key
    · subst hk; simp [insert, keys]
    · have hk' : key ≠ k := fun h => hk h.symm
      simp only [keys] at ih
      by_cases hm : key ∈ List.map Prod.fst rest <;> simp_all [insert, keys]

end Document

end CommandWire
