import CommandWire.Number.Basic
import Mathlib.Algebra.BigOperators.Group.List.Basic
import Mathlib.Tactic.NormNum

namespace CommandWire

/-!
# Counts on the wire

A natural number is written as an int or as a long, whichever is the narrowest that holds it.  It is
refused if and only if neither does.

* `Number.integer?`, `Value.integer?` — the integer that a number, or a wire value, is.
* `Value.Counts` — a wire value is a natural number, in the narrowest type.
* `Number.narrowest`, `Number.counted` — the number of the narrowest type, and its wire value, for the
  natural numbers below 2^63.
* `Number.ofNat_eq_ok_iff` — which natural numbers are written, and how.
-/

/-! ### Integers -/

/-- The integer that a number is.  A double is none. -/
def Number.integer? : Number → Option Int
  | .int32 n => some n.toInt
  | .int64 n => some n.toInt
  | .double _ => none

/-- The integer that a wire value is. -/
def Value.integer? (v : Value) : Option Int := (Number.ofValue? v).bind Number.integer?

/-- A wire value is a natural number: an int below 2^31, and a long from there on. -/
structure Value.Counts (v : Value) (n : Nat) : Prop where
  integer_eq : v.integer? = some (n : Int)
  kind_eq : v.kind = if n < 2 ^ 31 then .int32 else .int64

/-- A document has a natural number under a name. -/
def Document.HoldsCount (d : Document) (name : String) (n : Nat) : Prop :=
  ∃ v, d.get? name = some v ∧ v.Counts n

/-! ### The narrowest type -/

namespace Number

/-- The number of the narrowest type. -/
def narrowest (n : Nat) : Number :=
  if n < 2 ^ 31 then .int32 (Int32.ofNat n) else .int64 (Int64.ofNat n)

/-- A natural number as a wire value. -/
def counted (n : Nat) : Value := (narrowest n).toValue

/-- A count below 2 to the 63 is written as itself, in the narrowest type. -/
theorem counts_counted {n : Nat} (h : n < 2 ^ 63) : (counted n).Counts n := by
  unfold counted
  unfold narrowest
  split
  · next hn =>
    refine ⟨?_, (if_pos hn).symm⟩
    exact congrArg some (Int32.toInt_ofNat_of_lt hn)
  · next hn =>
    refine ⟨?_, (if_neg hn).symm⟩
    exact congrArg some (Int64.toInt_ofNat_of_lt h)

/-- **Counts.** A natural number is written in the narrowest type if 63 bits hold it. -/
theorem ofNat_eq_ok_iff {n : Nat} {x : Number} : ofNat n = .ok x ↔ n < 2 ^ 63 ∧ x = narrowest n := by
  -- the bounds of the writer are these powers of two.
  have hint : (2147483648 : Nat) = 2 ^ 31 := by norm_num
  have hlong : (9223372036854775808 : Nat) = 2 ^ 63 := by norm_num
  unfold ofNat narrowest
  rw [hint, hlong]
  split
  · next hn =>
    have hfits : n < 2 ^ 63 := hn.trans (by norm_num)
    exact ⟨fun h => ⟨hfits, (Except.ok.inj h).symm⟩, fun h => congrArg Except.ok h.2.symm⟩
  · split
    · next hfits =>
      exact ⟨fun h => ⟨hfits, (Except.ok.inj h).symm⟩, fun h => congrArg Except.ok h.2.symm⟩
    · next hfits => exact iff_of_false nofun fun h => hfits h.1

end Number

end CommandWire
