import CommandWire.Error
import CommandWire.Number.Shortest
import CommandWire.Value.Basic

namespace CommandWire

/-!
# Numeric wire values

* `Number` — a value of one of the three numeric types that commands compute with.
* `Number.toInt32`, `Number.toInt64`, `Number.toDouble` — its value in one of them.
* `Number.ofNat`, `Number.ofCount` — a natural number, or an unsigned count, in the narrowest integer
  type that holds it.
-/

/-- A number of one of the three types that are read as numbers. -/
inductive Number where
  | int32 (n : Int32)
  | int64 (n : Int64)
  | double (x : Binary64)
deriving DecidableEq

namespace Number

/-- The number that a wire value is.  Decimals are not among them. -/
def ofValue? : Value → Option Number
  | .int32 n => some (.int32 n)
  | .int64 n => some (.int64 n)
  | .double x => some (.double x)
  | _ => none

/-- The wire value of a number, of the same type. -/
def toValue : Number → Value
  | .int32 n => .int32 n
  | .int64 n => .int64 n
  | .double x => .double x

/-- A number is read from its wire value. -/
@[simp] theorem ofValue?_toValue (n : Number) : ofValue? n.toValue = some n := by cases n <;> rfl

/-- A number is read from its own wire value only. -/
theorem eq_toValue_of_ofValue? {v : Value} {n : Number} (h : ofValue? v = some n) :
    v = n.toValue := by
  cases v <;> cases h <;> rfl

/-- A natural number in the narrowest integer type. -/
def ofNat (n : Nat) : Checked Number :=
  if n < 2147483648 then .ok (.int32 (Int32.ofNat n))
  else if n < 9223372036854775808 then .ok (.int64 (Int64.ofNat n))
  else .error (.badValue (toString n ++ " does not fit in a 64-bit signed integer"))

/-- A count in the narrowest integer type. -/
def ofCount (n : UInt64) : Checked Number := ofNat n.toNat

/-- The number in 32 bits: the low half of a long, a double without its fraction and moved into the
    range. -/
def toInt32 : Number → Int32
  | .int32 n => n
  | .int64 n => n.toInt32
  | .double x => x.toInt32

/-- The number in 64 bits: a double loses its fraction and is moved into the range. -/
def toInt64 : Number → Int64
  | .int32 n => n.toInt64
  | .int64 n => n
  | .double x => x.toInt64

/-- The nearest double. -/
def toDouble : Number → Binary64
  | .int32 n => Binary64.ofInt n.toInt
  | .int64 n => Binary64.ofInt n.toInt
  | .double x => x

/-- Whether a number is zero; a negative zero is. -/
def isZero : Number → Bool
  | .int32 n => n == 0
  | .int64 n => n == 0
  | .double x => x.isZero

/-- Sameness of numbers of one type; numbers of different types are never the same. -/
def same : Number → Number → Bool
  | .int32 m, .int32 n => m == n
  | .int64 m, .int64 n => m == n
  | .double x, .double y => x.same y
  | _, _ => false

/-- The text of a number. -/
def text : Number → String
  | .int32 n => toString n.toInt
  | .int64 n => toString n.toInt
  | .double x => x.text

end Number

end CommandWire
