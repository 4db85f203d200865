namespace CommandWire

/-!
# Binary floating-point numbers of 64 bits

A double travels as its 64 bits and is kept as them, so that a number that is not a number keeps its
payload and the two zeros stay apart.

* `Binary64.view` — what the bits stand for: not a number, an infinity, or `± mantissa · 2^exponent`.
* `Binary64.rank` — an integer that orders the numbers; `Binary64.lt`, `Binary64.le` and
  `Binary64.same` compare by it and are false of what is not a number.
* `Binary64.truncate` — the integer between two bounds that is nearest on the way to zero.
* `Binary64.ofInt` — the double nearest to an integer, ties to the even neighbour.
* `Binary64.overflows` — whether a decimal number is too large for every double.
-/

/-- A double, as its bits. -/
structure Binary64 where
  bits : UInt64
deriving DecidableEq, Repr, Inhabited

namespace Binary64

/-- What the bits of a double stand for. -/
inductive View where
  | nan
  | infinite (negative : Bool)
  /-- The number `mantissa · 2^exponent`, or its opposite. -/
  | finite (negative : Bool) (mantissa : Nat) (exponent : Int)
deriving DecidableEq, Repr

/-- The value of the highest bit, which tells the sign: two to the 63rd. -/
def signBit : Nat := 0x8000000000000000

/-- The value of the bit above the fraction: two to the 52nd.  The exponent of a double begins there,
    and there a mantissa has the bit that is not stored. -/
def leadingBit : Nat := 0x10000000000000

/-- Whether the sign bit is set. -/
def isNegative (x : Binary64) : Bool := signBit ≤ x.bits.toNat

/-- The bits without the sign bit, as a number. -/
def magnitude (x : Binary64) : Nat := x.bits.toNat % signBit

/-- What the bits of a double stand for. -/
def view (x : Binary64) : View :=
  let scale : Nat := x.magnitude / leadingBit
  let fraction : Nat := x.magnitude % leadingBit
  if scale = 2047 then
    if fraction = 0 then .infinite x.isNegative else .nan
  else if scale = 0 then .finite x.isNegative fraction (-1074)
  else .finite x.isNegative (leadingBit + fraction) ((scale : Int) - 1075)

/-- Whether the bits stand for no number. -/
def isNaN (x : Binary64) : Bool := 2047 * leadingBit < x.magnitude

/-! ### Comparison -/

/-- The place of a number in the order of all doubles; both zeros have place 0. -/
def rank (x : Binary64) : Int := if x.isNegative then -(x.magnitude : Int) else x.magnitude

/-- Whether a double is below another; what is no number is below nothing. -/
def lt (x y : Binary64) : Bool := !x.isNaN && !y.isNaN && x.rank < y.rank

/-- Whether a double is below another or equal to it. -/
def le (x y : Binary64) : Bool := !x.isNaN && !y.isNaN && x.rank ≤ y.rank

/-- Equality of numbers: the zeros are the same, what is not a number differs from itself. -/
def same (x y : Binary64) : Bool := !x.isNaN && !y.isNaN && x.rank == y.rank

/-- The double 0, without a sign. -/
def zero : Binary64 := ⟨0⟩

/-- The double 1. -/
def one : Binary64 := ⟨0x3FF0000000000000⟩

/-- Whether the number is a zero of either sign. -/
def isZero (x : Binary64) : Bool := x.same zero

/-! ### Conversion -/

/-- The integer that is left when the fraction is dropped, moved into the bounds; 0 for what is not
    a number. -/
def truncate (low high : Int) (x : Binary64) : Int :=
  match x.view with
  | .nan => 0
  | .infinite negative => if negative then low else high
  | .finite negative mantissa exponent =>
    let size : Nat :=
      if 0 ≤ exponent then mantissa <<< exponent.toNat else mantissa >>> (-exponent).toNat
    let value : Int := if negative then -(size : Int) else size
    max low (min high value)

/-- The double as a word: cut toward zero, and at the ends of the range. -/
def toInt32 (x : Binary64) : Int32 := Int32.ofInt (x.truncate (-2147483648) 2147483647)

/-- The double as a long: cut toward zero, and at the ends of the range. -/
def toInt64 (x : Binary64) : Int64 :=
  Int64.ofInt (x.truncate (-9223372036854775808) 9223372036854775807)

/-- `n / 2^shift` rounded to the nearest integer, ties to the even one. -/
def roundShift (n shift : Nat) : Nat :=
  let divisor := 1 <<< shift
  let quotient := n / divisor
  let twice := 2 * (n % divisor)
  if twice < divisor then quotient
  else if twice = divisor ∧ quotient % 2 = 0 then quotient
  else quotient + 1

/-- The bits of the double nearest to a positive integer below `2^1023`.  A mantissa that rounds up
    to the next power of two carries into the exponent. -/
def bitsOfNat (n : Nat) : Nat :=
  let length := n.log2
  let mantissa := if length ≤ 52 then n <<< (52 - length) else roundShift n (length - 52)
  (length + 1022) * leadingBit + mantissa

/-- The double nearest to an integer. -/
def ofInt (i : Int) : Binary64 :=
  if i = 0 then zero
  else if i < 0 then ⟨UInt64.ofNat (signBit + bitsOfNat i.natAbs)⟩
  else ⟨UInt64.ofNat (bitsOfNat i.natAbs)⟩

/-! ### Range -/

/-- The least number that rounds to infinity: it lies halfway between the greatest double and
    `2^1024`, and a tie goes up because the greatest double is odd. -/
def overflowBound : Nat := (1 <<< 1024) - (1 <<< 970)

/-- Whether `mantissa · 10^scale` rounds to infinity.  Only of numbers with 309 digits before the
    point some do and some do not, so no other number is computed. -/
def overflows (mantissa : Nat) (scale : Int) : Bool :=
  let length : Int := (Nat.toDigits 10 mantissa).length + scale
  if mantissa = 0 ∨ length < 309 then false
  else if 309 < length then true
  else if 0 ≤ scale then overflowBound ≤ mantissa * Nat.pow 10 scale.toNat
  else overflowBound * Nat.pow 10 (-scale).toNat ≤ mantissa

end Binary64

end CommandWire
