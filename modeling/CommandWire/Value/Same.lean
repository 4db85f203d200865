import CommandWire.Value.Basic

namespace CommandWire

/-!
# Sameness of values

Two values are the same when nobody who reads them by name and by number can tell them apart:
documents without regard to the order of their names, doubles as numbers.  What is not a number
differs from everything, itself included.

* `Value.same`, `Document.same` — the test.
-/

mutual

/-- Whether two values are the same. -/
def Value.same : Value → Value → Bool
  | .double x, .double y => x.same y
  | .document xs, .document ys => xs.length == ys.length && Document.within xs ys
  | .array xs, .array ys => Value.sameList xs ys
  | .codeWithScope x xs, .codeWithScope y ys =>
    x == y && xs.length == ys.length && Document.within xs ys
  | .string x, .string y => x == y
  | .binary s xs, .binary t ys => s == t && xs == ys
  | .undefined, .undefined => true
  | .objectId x, .objectId y => x == y
  | .boolean x, .boolean y => x == y
  | .dateTime x, .dateTime y => x == y
  | .null, .null => true
  | .regex p o, .regex q r => p == q && o == r
  | .dbPointer n x, .dbPointer m y => n == m && x == y
  | .code x, .code y => x == y
  | .symbol x, .symbol y => x == y
  | .int32 x, .int32 y => x == y
  | .timestamp x, .timestamp y => x == y
  | .int64 x, .int64 y => x == y
  | .decimal128 x, .decimal128 y => x == y
  | .minKey, .minKey => true
  | .maxKey, .maxKey => true
  | _, _ => false

/-- Whether two sequences hold the same values at the same places. -/
def Value.sameList : List Value → List Value → Bool
  | [], [] => true
  | x :: xs, y :: ys => Value.same x y && Value.sameList xs ys
  | _, _ => false

/-- Whether every named value of the first sequence is the same in the second. -/
def Document.within : List (String × Value) → List (String × Value) → Bool
  | [], _ => true
  | (k, x) :: xs, ys =>
    (match Document.get? ys k with
      | some y => Value.same x y
      | none => false) && Document.within xs ys

end

/-- Whether two documents give the same values to the same names. -/
def Document.same (xs ys : Document) : Bool := xs.length == ys.length && Document.within xs ys

end CommandWire
