import CommandWire.Number.Binary64
import Mathlib.Algebra.Order.Field.Rat
import Mathlib.Data.Int.ConditionallyCompleteOrder
import Mathlib.Order.Monotone.Odd
import Mathlib.Tactic.NormNum

namespace CommandWire.Binary64

/-!
# The order of doubles

Doubles are compared by their bits.  That is the order of the numbers that they stand for: the next
bit pattern stands for the next greater number, across the steps of the exponent too.

* `value?` — the number that a double stands for.
* `size`, `size_lt_succ` — the number without its sign, and that it grows with the bits.
* `value?_eq_some_iff` — which doubles stand for a number, and for which one.
* `between_iff` — a double lies between two others if and only if it stands for a number between
  theirs.
* `isZero_iff` — a double is zero if and only if it stands for zero.
-/

variable {x y z : Binary64}

/-- The number that a double stands for.  Infinities stand for none. -/
def value? (x : Binary64) : Option ℚ :=
  match x.view with
  | .finite negative mantissa exponent =>
    some ((if negative then -1 else 1) * (mantissa * 2 ^ exponent))
  | _ => none

/-! ### Numbers without their signs -/

/-- The mantissa of a double with the given bits. -/
def mantissa (n : Nat) : Nat :=
  if n / leadingBit = 0 then n % leadingBit else leadingBit + n % leadingBit

/-- The exponent of a double with the given bits: the first two steps share one. -/
def exponent (n : Nat) : Int := (max 1 (n / leadingBit) : Nat) - 1075

/-- The number that a double with the given bits stands for, without its sign. -/
def size (n : Nat) : ℚ := mantissa n * 2 ^ exponent n

/-- The bits of zero stand for zero. -/
theorem size_zero : size 0 = 0 := by
  have hmantissa : mantissa 0 = 0 := by decide
  rw [size, hmantissa, Nat.cast_zero, zero_mul]

/-- Below the end of the fraction the next bits add one to the mantissa. -/
theorem succ_of_no_carry {n : Nat} (h : n % leadingBit + 1 ≠ leadingBit) :
    mantissa (n + 1) = mantissa n + 1 ∧ exponent (n + 1) = exponent n := by
  have hscale : (n + 1) / leadingBit = n / leadingBit := by
    unfold leadingBit at h ⊢
    omega
  have hfraction : (n + 1) % leadingBit = n % leadingBit + 1 := by
    unfold leadingBit at h ⊢
    omega
  rw [mantissa, mantissa, exponent, exponent, hscale, hfraction]
  refine ⟨?_, rfl⟩
  split
  · rfl
  · rw [Nat.add_assoc]

/-- At the end of the fraction the mantissa is the greatest that there is, and the next bits have the
    least one that is not small, one exponent further or, at the first step, under the same. -/
theorem succ_of_carry {n : Nat} (h : n % leadingBit + 1 = leadingBit) :
    (mantissa n + 1 = leadingBit ∧ mantissa (n + 1) = leadingBit ∧ exponent (n + 1) = exponent n) ∨
      (mantissa n + 1 = 2 * leadingBit ∧ mantissa (n + 1) = leadingBit ∧
        exponent (n + 1) = exponent n + 1) := by
  have hscale : (n + 1) / leadingBit = n / leadingBit + 1 := by
    unfold leadingBit at h ⊢
    omega
  have hfraction : (n + 1) % leadingBit = 0 := by
    unfold leadingBit at h ⊢
    omega
  rw [mantissa, mantissa, exponent, exponent, hscale, hfraction, if_neg (Nat.succ_ne_zero _)]
  by_cases hfirst : n / leadingBit = 0
  · rw [if_pos hfirst, hfirst]
    exact .inl ⟨h, rfl, rfl⟩
  · rw [if_neg hfirst]
    refine .inr ⟨by omega, rfl, ?_⟩
    generalize n / leadingBit = scale at hfirst
    omega

/-- The next bits stand for the next greater number. -/
theorem size_lt_succ (n : Nat) : size n < size (n + 1) := by
  have hunit : (0 : ℚ) < 2 ^ exponent n := zpow_pos (by norm_num) _
  by_cases hcarry : n % leadingBit + 1 = leadingBit
  · rcases succ_of_carry hcarry with ⟨hlast, hnext, hexponent⟩ | ⟨hlast, hnext, hexponent⟩
    · have hless : (mantissa n : ℚ) < leadingBit := by
        exact_mod_cast (by omega : mantissa n < leadingBit)
      rw [size, size, hnext, hexponent]
      exact mul_lt_mul_of_pos_right hless hunit
    · -- one exponent further the unit is twice as large, and so the least mantissa is enough.
      have hless : (mantissa n : ℚ) < leadingBit * 2 := by
        exact_mod_cast (by omega : mantissa n < leadingBit * 2)
      rw [size, size, hnext, hexponent, zpow_add_one₀ (by norm_num), mul_comm (2 ^ exponent n) 2,
        ← mul_assoc]
      exact mul_lt_mul_of_pos_right hless hunit
  · obtain ⟨hmantissa, hexponent⟩ := succ_of_no_carry hcarry
    have hless : (mantissa n : ℚ) < (mantissa n + 1 : Nat) := by
      exact_mod_cast Nat.lt_succ_self (mantissa n)
    rw [size, size, hmantissa, hexponent]
    exact mul_lt_mul_of_pos_right hless hunit

/-- Greater bits stand for greater numbers. -/
theorem size_strictMono : StrictMono size := strictMono_nat_of_lt_succ size_lt_succ

/-! ### Numbers with their signs -/

/-- The number that has a given place in the order. -/
def ofRank (r : Int) : ℚ := r.sign * size r.natAbs

/-- Opposite places are those of opposite numbers. -/
theorem ofRank_neg (r : Int) : ofRank (-r) = -ofRank r := by
  rw [ofRank, ofRank, Int.sign_neg, Int.natAbs_neg, Int.cast_neg, neg_mul]

/-- A place from zero on is that of the number without its sign. -/
theorem ofRank_natCast (n : Nat) : ofRank n = size n := by
  cases n with
  | zero =>
    rw [size_zero, ofRank]
    simp
  | succ n =>
    rw [ofRank, Int.natAbs_natCast, Int.sign_eq_one_of_pos (by omega), Int.cast_one, one_mul]

/-- **Order.** A later place is that of a greater number. -/
theorem ofRank_strictMono : StrictMono ofRank := by
  refine strictMono_of_odd_strictMonoOn_nonneg ofRank_neg ?_
  intro r hr s hs hrs
  lift r to Nat using hr
  lift s to Nat using hs
  rw [ofRank_natCast, ofRank_natCast]
  exact size_strictMono (by exact_mod_cast hrs)

/-- Without its sign a double has sixty-three bits. -/
theorem magnitude_lt (x : Binary64) : x.magnitude < 2048 * leadingBit :=
  Nat.mod_lt _ (by decide)

/-- Below the bits of infinity a double is a finite number. -/
theorem view_of_lt (h : x.magnitude < 2047 * leadingBit) :
    x.view = .finite x.isNegative (mantissa x.magnitude) (exponent x.magnitude) := by
  have hlast : x.magnitude / leadingBit ≠ 2047 := by
    unfold leadingBit at h ⊢
    omega
  rw [view, if_neg hlast, mantissa, exponent]
  split
  · next hfirst =>
    rw [hfirst]
    rfl
  · next hfirst =>
    rw [Nat.max_eq_right (Nat.one_le_iff_ne_zero.2 hfirst)]

/-- Below the bits of infinity a double stands for the number of its place. -/
theorem value?_of_lt (h : x.magnitude < 2047 * leadingBit) : x.value? = some (ofRank x.rank) := by
  rw [value?, view_of_lt h, rank]
  dsimp only
  split
  · rw [ofRank_neg, ofRank_natCast, size, neg_one_mul]
  · rw [ofRank_natCast, size, one_mul]

/-- From the bits of infinity on a double stands for no number. -/
theorem value?_of_not_lt (h : ¬ x.magnitude < 2047 * leadingBit) : x.value? = none := by
  have hlast : x.magnitude / leadingBit = 2047 := by
    have hlt := x.magnitude_lt
    unfold leadingBit at h hlt ⊢
    omega
  rw [value?, view, if_pos hlast]
  split
  · next heq =>
    split at heq
    · cases heq
    · cases heq
  · rfl

/-- **Numbers.** A double stands for a number unless its exponent is the last one, and its place in
    the order tells which. -/
theorem value?_eq_some_iff {q : ℚ} :
    x.value? = some q ↔ x.magnitude < 2047 * leadingBit ∧ ofRank x.rank = q := by
  by_cases h : x.magnitude < 2047 * leadingBit
  · rw [value?_of_lt h, Option.some.injEq]
    exact ⟨fun hq => ⟨h, hq⟩, And.right⟩
  · rw [value?_of_not_lt h]
    exact ⟨nofun, fun hq => absurd hq.1 h⟩

/-- The place of a double is its bits, up to the sign. -/
theorem natAbs_rank (x : Binary64) : x.rank.natAbs = x.magnitude := by
  unfold rank
  split <;> omega

/-- Up to the bits of infinity a double can be compared. -/
theorem isNaN_eq_false_iff : x.isNaN = false ↔ x.magnitude ≤ 2047 * leadingBit := by
  rw [isNaN, decide_eq_false_iff_not, Nat.not_lt]

/-- Doubles that can be compared are ordered by their places. -/
theorem le_iff : x.le y = true ↔ x.isNaN = false ∧ y.isNaN = false ∧ x.rank ≤ y.rank := by
  simp [le, and_assoc]

/-- Doubles that can be compared are the same when their places are. -/
theorem same_iff : x.same y = true ↔ x.isNaN = false ∧ y.isNaN = false ∧ x.rank = y.rank := by
  simp [same, and_assoc]

/-- A double is below another when its place is, and both can be compared. -/
theorem lt_iff : x.lt y = true ↔ x.isNaN = false ∧ y.isNaN = false ∧ x.rank < y.rank := by
  simp [lt, and_assoc]

/-- A double that stands for a number can be compared. -/
theorem isNaN_of_value? {q : ℚ} (h : x.value? = some q) : x.isNaN = false :=
  isNaN_eq_false_iff.2 (value?_eq_some_iff.1 h).1.le

/-- **Bounds.** What lies between two numbers is a number between them. -/
theorem between_iff {low high : ℚ} (hx : x.value? = some low) (hz : z.value? = some high) :
    x.le y = true ∧ y.le z = true ↔ ∃ q, y.value? = some q ∧ low ≤ q ∧ q ≤ high := by
  obtain ⟨hxlt, hxrank⟩ := value?_eq_some_iff.1 hx
  obtain ⟨hzlt, hzrank⟩ := value?_eq_some_iff.1 hz
  constructor
  · rintro ⟨hxy, hyz⟩
    obtain ⟨-, hnan, hlow⟩ := le_iff.1 hxy
    obtain ⟨-, -, hhigh⟩ := le_iff.1 hyz
    have hylt : y.magnitude < 2047 * leadingBit := by
      rw [← natAbs_rank] at hxlt hzlt ⊢
      omega
    refine ⟨_, value?_of_lt hylt, ?_, ?_⟩
    · rw [← hxrank]
      exact ofRank_strictMono.monotone hlow
    · rw [← hzrank]
      exact ofRank_strictMono.monotone hhigh
  · rintro ⟨q, hy, hlow, hhigh⟩
    obtain ⟨-, hyrank⟩ := value?_eq_some_iff.1 hy
    rw [← hxrank, ← hyrank] at hlow
    rw [← hzrank, ← hyrank] at hhigh
    exact ⟨le_iff.2 ⟨isNaN_of_value? hx, isNaN_of_value? hy, ofRank_strictMono.le_iff_le.1 hlow⟩,
      le_iff.2 ⟨isNaN_of_value? hy, isNaN_of_value? hz, ofRank_strictMono.le_iff_le.1 hhigh⟩⟩

/-- Zero has place 0. -/
theorem rank_zero : zero.rank = 0 := by decide

/-- Only place 0 is that of zero. -/
theorem ofRank_eq_zero_iff (r : Int) : ofRank r = 0 ↔ r = 0 := by
  have hzero : ofRank 0 = 0 := by rw [ofRank, Int.sign_zero, Int.cast_zero, zero_mul]
  rw [← hzero, ofRank_strictMono.injective.eq_iff]

/-- The double 0 stands for zero. -/
theorem value?_zero : zero.value? = some 0 := by
  rw [value?_eq_some_iff, rank_zero, ofRank_eq_zero_iff]
  exact ⟨by decide, rfl⟩

/-- Both zeros stand for zero, and nothing else does. -/
theorem isZero_iff : x.isZero = true ↔ x.value? = some 0 := by
  rw [isZero, same_iff, rank_zero, value?_eq_some_iff, ofRank_eq_zero_iff, isNaN_eq_false_iff]
  constructor
  · rintro ⟨-, -, hrank⟩
    refine ⟨?_, hrank⟩
    rw [← natAbs_rank, hrank]
    decide
  · rintro ⟨hlt, hrank⟩
    exact ⟨hlt.le, by decide, hrank⟩

end CommandWire.Binary64
