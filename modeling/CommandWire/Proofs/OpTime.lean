import CommandWire.OpTime

namespace CommandWire.OpTime

/-!
# The order of times in one long

Both numbers of a time are the halves of one long, and nothing is lost either way.  A long has a sign
and the numbers have none, and so the order of the times is that of the longs without their signs.

* `ofPacked_packed`, `packed_ofPacked` — the two directions undo each other.
* `packed_eq_or`, `ofPacked_eq_shiftRight` — the halves, as shifts put them there and take them out.
* `Before`, `compare_eq_lt_iff` — the order, number by number.
* `compare_eq_compare_toNat` — the order is that of the longs without their signs.
* `compare_toInt_of_top_eq`, `compare_toInt_of_top_ne` — what their signs make of it.
* `packed_sorted` — longs that are sorted as times.
* `packed_order` — all of it, for all times and all longs.
-/

variable {a b c : OpTime}

/-! ### Two halves of one number -/

/-- Both words fit into 64 bits. -/
theorem toNat_lt (t : OpTime) : t.toNat < UInt64.size := by
  have hsecs : t.secs.toNat < UInt32.size := t.secs.toNat_lt_size
  have hterm : t.term.toNat < UInt32.size := t.term.toNat_lt_size
  unfold toNat UInt32.size UInt64.size at *
  omega

/-- The seconds are the upper half of the number. -/
theorem toNat_div (t : OpTime) : t.toNat / UInt32.size = t.secs.toNat := by
  have hterm : t.term.toNat < UInt32.size := t.term.toNat_lt_size
  unfold toNat UInt32.size at *
  omega

/-- The term is the lower half of the number. -/
theorem toNat_mod (t : OpTime) : t.toNat % UInt32.size = t.term.toNat := by
  have hterm : t.term.toNat < UInt32.size := t.term.toNat_lt_size
  unfold toNat UInt32.size at *
  omega

/-- Times are told apart by their numbers. -/
theorem toNat_inj : a.toNat = b.toNat ↔ a = b := by
  refine ⟨fun h => ?_, fun h => h ▸ rfl⟩
  have hsecs : a.secs.toNat = b.secs.toNat := by rw [← toNat_div, ← toNat_div, h]
  have hterm : a.term.toNat = b.term.toNat := by rw [← toNat_mod, ← toNat_mod, h]
  exact (OpTime.mk.injEq ..).mpr ⟨UInt32.toNat_inj.1 hsecs, UInt32.toNat_inj.1 hterm⟩

/-- The packed long holds the number of a time. -/
theorem toNat_packed (t : OpTime) : t.packed.toUInt64.toNat = t.toNat := by
  rw [packed, UInt64.toUInt64_toInt64, UInt64.toNat_ofNat_of_lt' t.toNat_lt]

/-- The time of a long has the long's bits as its number. -/
theorem toNat_ofPacked (p : Int64) : (ofPacked p).toNat = p.toUInt64.toNat := by
  have hp : p.toUInt64.toNat < UInt64.size := p.toUInt64.toNat_lt_size
  rw [toNat, ofPacked, UInt32.toNat_ofNat', UInt32.toNat_ofNat']
  unfold UInt32.size UInt64.size at *
  omega

/-- A time is put into a long and taken out of it again. -/
theorem ofPacked_packed (t : OpTime) : ofPacked t.packed = t := by
  rw [← toNat_inj, toNat_ofPacked, toNat_packed]

/-- Every long is that of the time that is taken out of it. -/
theorem packed_ofPacked (p : Int64) : (ofPacked p).packed = p := by
  have hword : (ofPacked p).packed.toUInt64 = p.toUInt64 := by
    rw [← UInt64.toNat_inj, toNat_packed, toNat_ofPacked]
  rw [← Int64.toInt64_toUInt64 (ofPacked p).packed, hword, Int64.toInt64_toUInt64]

/-- The seconds are shifted into the high half, and the term fills the low one. -/
theorem packed_eq_or (t : OpTime) :
    t.packed = ((t.secs.toUInt64 <<< 32) ||| t.term.toUInt64).toInt64 := by
  have hterm : t.term.toNat < 2 ^ 32 := t.term.toNat_lt
  have hhigh : (t.secs.toUInt64 <<< 32).toNat = t.secs.toNat <<< 32 := by
    have hsecs : t.secs.toNat < UInt32.size := t.secs.toNat_lt_size
    rw [UInt64.toNat_shiftLeft, UInt32.toNat_toUInt64]
    show t.secs.toNat <<< 32 % 2 ^ 64 = _
    rw [Nat.shiftLeft_eq]
    unfold UInt32.size at hsecs
    omega
  have hword : UInt64.ofNat t.toNat = (t.secs.toUInt64 <<< 32) ||| t.term.toUInt64 := by
    rw [← UInt64.toNat_inj, UInt64.toNat_ofNat_of_lt' t.toNat_lt, UInt64.toNat_or, hhigh,
      UInt32.toNat_toUInt64, ← Nat.shiftLeft_add_eq_or_of_lt hterm, Nat.shiftLeft_eq]
    exact congrArg (t.secs.toNat * · + t.term.toNat) (by decide)
  rw [packed, hword]

/-- The seconds are what a shift leaves of a long, and the term is what a word keeps of it. -/
theorem ofPacked_eq_shiftRight (p : Int64) :
    ofPacked p = ⟨(p.toUInt64 >>> 32).toUInt32, p.toUInt64.toUInt32⟩ := by
  have hhigh : (p.toUInt64 >>> 32).toNat = p.toUInt64.toNat / UInt32.size := by
    rw [UInt64.toNat_shiftRight]
    exact Nat.shiftRight_eq_div_pow _ 32
  have hsecs : UInt32.ofNat (p.toUInt64.toNat / UInt32.size) = (p.toUInt64 >>> 32).toUInt32 := by
    rw [← UInt32.toNat_inj, UInt32.toNat_ofNat', UInt64.toNat_toUInt32, hhigh]
  have hterm : UInt32.ofNat p.toUInt64.toNat = p.toUInt64.toUInt32 := by
    rw [← UInt32.toNat_inj, UInt32.toNat_ofNat', UInt64.toNat_toUInt32]
  rw [ofPacked, hsecs, hterm]

/-! ### The order -/

/-- The first time has less seconds, or as many and a smaller term. -/
def Before (a b : OpTime) : Prop :=
  a.secs.toNat < b.secs.toNat ∨ a.secs = b.secs ∧ a.term.toNat < b.term.toNat

/-- Times are ordered by their numbers. -/
theorem before_iff : Before a b ↔ a.toNat < b.toNat := by
  have ha : a.term.toNat < UInt32.size := a.term.toNat_lt_size
  have hb : b.term.toNat < UInt32.size := b.term.toNat_lt_size
  rw [Before, ← UInt32.toNat_inj]
  unfold toNat UInt32.size at *
  omega

/-- The comparison says that a time is before another when it is. -/
theorem compare_eq_lt_iff : a.compare b = .lt ↔ Before a b := by
  rw [compare, Ordering.then_eq_lt, Std.compare_eq_lt, Std.compare_eq_lt, Std.compare_eq_iff_eq,
    UInt32.lt_iff_toNat_lt, UInt32.lt_iff_toNat_lt]
  rfl

/-- The comparison says that a time is after another when it is. -/
theorem compare_eq_gt_iff : a.compare b = .gt ↔ Before b a := by
  rw [compare, Ordering.then_eq_gt, Std.compare_eq_gt, Std.compare_eq_gt, Std.compare_eq_iff_eq,
    UInt32.lt_iff_toNat_lt, UInt32.lt_iff_toNat_lt, @eq_comm _ a.secs]
  rfl

/-- The comparison says that two times are equal when they are. -/
theorem compare_eq_eq_iff : a.compare b = .eq ↔ a = b := by
  rw [compare, Ordering.then_eq_eq, Std.compare_eq_iff_eq, Std.compare_eq_iff_eq]
  exact (OpTime.mk.injEq ..).symm.to_iff

/-- Times are ordered as their longs are without the signs. -/
theorem compare_eq_compare_toNat (a b : OpTime) : a.compare b = Ord.compare a.toNat b.toNat := by
  rcases Nat.lt_trichotomy a.toNat b.toNat with h | h | h
  · rw [Nat.compare_eq_lt.2 h, compare_eq_lt_iff, before_iff]
    exact h
  · rw [Nat.compare_eq_eq.2 h, compare_eq_eq_iff, ← toNat_inj]
    exact h
  · rw [Nat.compare_eq_gt.2 h, compare_eq_gt_iff, before_iff]
    exact h

/-- The test for an earlier time is exact. -/
theorem isBefore_iff : a.isBefore b ↔ Before a b := by
  rw [isBefore, beq_iff_eq, compare_eq_lt_iff]

/-- The test for a later time is exact. -/
theorem isAfter_iff : a.isAfter b ↔ Before b a := by
  rw [isAfter, beq_iff_eq, compare_eq_gt_iff]

/-- A time is before another or equal to it when its number is not greater. -/
theorem before_or_eq_iff : Before a b ∨ a = b ↔ a.toNat ≤ b.toNat := by
  rw [before_iff, ← toNat_inj, Nat.le_iff_lt_or_eq]

/-- The test for a time that is not later, by numbers. -/
theorem isEqualOrBefore_iff : a.isEqualOrBefore b ↔ a.toNat ≤ b.toNat := by
  rw [isEqualOrBefore, bne_iff_ne, ne_eq, compare_eq_gt_iff, before_iff, Nat.not_lt]

/-- The test for a time that is not earlier, by numbers. -/
theorem isEqualOrAfter_iff : a.isEqualOrAfter b ↔ b.toNat ≤ a.toNat := by
  rw [isEqualOrAfter, bne_iff_ne, ne_eq, compare_eq_lt_iff, before_iff, Nat.not_lt]

/-- Of two times one is not later than the other. -/
theorem isEqualOrBefore_total (a b : OpTime) : a.isEqualOrBefore b ∨ b.isEqualOrBefore a := by
  rw [isEqualOrBefore_iff, isEqualOrBefore_iff]
  exact Nat.le_total _ _

/-- Two times of which neither is later are the same. -/
theorem isEqualOrBefore_antisymm (hab : a.isEqualOrBefore b) (hba : b.isEqualOrBefore a) : a = b :=
  toNat_inj.1 (Nat.le_antisymm (isEqualOrBefore_iff.1 hab) (isEqualOrBefore_iff.1 hba))

/-- What is not later than a time is not later than any that this one is not later than. -/
theorem isEqualOrBefore_trans (hab : a.isEqualOrBefore b) (hbc : b.isEqualOrBefore c) :
    a.isEqualOrBefore c :=
  isEqualOrBefore_iff.2 (Nat.le_trans (isEqualOrBefore_iff.1 hab) (isEqualOrBefore_iff.1 hbc))

/-! ### Signs -/

/-- The highest bit of the seconds, which is the sign of the long. -/
def top (t : OpTime) : Bool := t.secs.toBitVec.msb

/-- The top bit is set when the number is in the upper half of its range. -/
theorem top_iff (t : OpTime) : t.top ↔ UInt64.size ≤ 2 * t.toNat := by
  have hterm : t.term.toNat < UInt32.size := t.term.toNat_lt_size
  rw [top, BitVec.msb_eq_decide, decide_eq_true_iff, UInt32.toNat_toBitVec]
  unfold toNat UInt32.size UInt64.size at *
  omega

/-- With its sign a long stands for less, by all that a long can hold, when its highest bit is set. -/
theorem toInt_packed (t : OpTime) :
    t.packed.toInt = t.toNat - (if t.top then UInt64.size else 0 : Nat) := by
  have hbits : t.packed.toBitVec.toNat = t.toNat := by
    rw [← Int64.toBitVec_toUInt64, UInt64.toNat_toBitVec, toNat_packed]
  rw [← Int64.toInt_toBitVec, BitVec.toInt_eq_toNat_cond, hbits]
  by_cases htop : t.top
  · have hlow : ¬ 2 * t.toNat < 2 ^ 64 := Nat.not_lt.2 (t.top_iff.1 htop)
    rw [if_neg hlow, if_pos htop]
  · have hlow : 2 * t.toNat < 2 ^ 64 := Nat.not_le.1 (mt t.top_iff.2 htop)
    rw [if_pos hlow, if_neg htop, Int.natCast_zero, Int.sub_zero]

/-- Numbers are compared alike when the same is taken away from both. -/
theorem compare_sub (m n k : Nat) : Ord.compare (m - k : Int) (n - k) = Ord.compare m n := by
  rcases Nat.lt_trichotomy m n with h | rfl | h
  · rw [Nat.compare_eq_lt.2 h, Int.compare_eq_lt]
    omega
  · rw [Nat.compare_eq_eq.2 rfl, Std.compare_eq_iff_eq]
  · rw [Nat.compare_eq_gt.2 h, Int.compare_eq_gt]
    omega

/-- Longs with the same sign are compared as the times are. -/
theorem compare_toInt_of_top_eq (h : a.top = b.top) :
    Ord.compare a.packed.toInt b.packed.toInt = a.compare b := by
  rw [toInt_packed, toInt_packed, h, compare_sub, compare_eq_compare_toNat]

/-- A long with its highest bit set is below every other, whereas its time is after theirs. -/
theorem lt_of_top (ha : ¬ a.top) (hb : b.top) :
    a.toNat < b.toNat ∧ b.packed.toInt < a.packed.toInt := by
  have hlow : ¬ UInt64.size ≤ 2 * a.toNat := mt a.top_iff.2 ha
  have hhigh : UInt64.size ≤ 2 * b.toNat := b.top_iff.1 hb
  have hlimit : b.toNat < UInt64.size := b.toNat_lt
  rw [toInt_packed, toInt_packed, if_neg ha, if_pos hb]
  omega

/-- Longs with different signs are compared the other way round. -/
theorem compare_toInt_of_top_ne (h : a.top ≠ b.top) :
    Ord.compare a.packed.toInt b.packed.toInt = (a.compare b).swap := by
  rw [compare_eq_compare_toNat, Nat.compare_swap]
  by_cases ha : a.top
  · have hb : ¬ b.top := fun hb => h (ha.trans hb.symm)
    obtain ⟨hless, hbelow⟩ := lt_of_top hb ha
    rwa [Nat.compare_eq_lt.2 hless, Int.compare_eq_lt]
  · have hb : b.top := Bool.not_eq_false _ ▸ fun hb => h ((Bool.not_eq_true _ ▸ ha).trans hb.symm)
    obtain ⟨hless, hbelow⟩ := lt_of_top ha hb
    rwa [Nat.compare_eq_gt.2 hless, Int.compare_eq_gt]

/-- Signs that differ always change the order: such times are never equal. -/
theorem compare_toInt_eq_iff :
    Ord.compare a.packed.toInt b.packed.toInt = a.compare b ↔ a.top = b.top := by
  refine ⟨fun h => Decidable.byContradiction fun hne => ?_, compare_toInt_of_top_eq⟩
  have hswap : (a.compare b).swap = a.compare b := (compare_toInt_of_top_ne hne).symm.trans h
  have heq : a = b := by
    rw [← compare_eq_eq_iff]
    cases hcmp : a.compare b with
    | eq => rfl
    | lt => exact absurd (hcmp ▸ hswap) (by decide)
    | gt => exact absurd (hcmp ▸ hswap) (by decide)
  exact hne (heq ▸ rfl)

/-! ### Longs that are sorted as times -/

/-- Sorted times are in order. -/
theorem pairwise_sorted (ts : List OpTime) :
    (sorted ts).Pairwise (fun a b => a.toNat ≤ b.toNat) := by
  have htrans : ∀ a b c : OpTime, a.isEqualOrBefore b → b.isEqualOrBefore c → a.isEqualOrBefore c :=
    fun _ _ _ => isEqualOrBefore_trans
  have htotal : ∀ a b : OpTime, a.isEqualOrBefore b || b.isEqualOrBefore a :=
    fun a b => (Bool.or_eq_true ..).mpr (isEqualOrBefore_total a b)
  exact (List.pairwise_mergeSort htrans htotal ts).imp isEqualOrBefore_iff.1

/-- The longs come back in the order of unsigned numbers. -/
theorem packed_sorted (ps : List Int64) :
    ((sorted (ps.map ofPacked)).map packed).Perm ps ∧
      ((sorted (ps.map ofPacked)).map packed).Pairwise
        (fun p q => p.toUInt64.toNat ≤ q.toUInt64.toNat) := by
  constructor
  · have hundo : packed ∘ ofPacked = id := funext packed_ofPacked
    have hperm := (List.mergeSort_perm (ps.map ofPacked) isEqualOrBefore).map packed
    rwa [List.map_map, hundo, List.map_id] at hperm
  · rw [List.pairwise_map]
    refine (pairwise_sorted _).imp fun {a b} hle => ?_
    rwa [toNat_packed, toNat_packed]

/-! ### All comparisons of two times -/

/-- What the comparisons of two times, and of their longs, have to do with one another. -/
structure Agree (a b : OpTime) : Prop where
  lt_iff : a.compare b = .lt ↔ Before a b
  gt_iff : a.compare b = .gt ↔ Before b a
  eq_iff : a.compare b = .eq ↔ a = b
  isBefore_iff : a.isBefore b ↔ Before a b
  isAfter_iff : a.isAfter b ↔ Before b a
  isEqualOrBefore_iff : a.isEqualOrBefore b ↔ Before a b ∨ a = b
  isEqualOrAfter_iff : a.isEqualOrAfter b ↔ Before b a ∨ b = a
  unsigned : Ord.compare a.packed.toUInt64.toNat b.packed.toUInt64.toNat = a.compare b
  signed : Ord.compare a.packed.toInt b.packed.toInt =
    if a.top = b.top then a.compare b else (a.compare b).swap
  signed_iff : Ord.compare a.packed.toInt b.packed.toInt = a.compare b ↔ a.top = b.top

/-- The comparisons of two times agree with each other. -/
theorem agree (a b : OpTime) : Agree a b where
  lt_iff := compare_eq_lt_iff
  gt_iff := compare_eq_gt_iff
  eq_iff := compare_eq_eq_iff
  isBefore_iff := isBefore_iff
  isAfter_iff := isAfter_iff
  isEqualOrBefore_iff := isEqualOrBefore_iff.trans before_or_eq_iff.symm
  isEqualOrAfter_iff := isEqualOrAfter_iff.trans before_or_eq_iff.symm
  unsigned := by rw [toNat_packed, toNat_packed, compare_eq_compare_toNat]
  signed := by
    split
    · exact compare_toInt_of_top_eq ‹_›
    · exact compare_toInt_of_top_ne ‹_›
  signed_iff := compare_toInt_eq_iff

/-- **Times in one long.** Putting a time into a long and taking it out again undo each other, for
    every time and for every long; the seconds are the high half and the term is the low one.  All
    comparisons of two times agree, number by number, and with their longs as unsigned numbers; as
    signed numbers their longs agree exactly when the highest bits of the seconds do, and are the
    other way round when they do not.  The order is total, and longs that are sorted as times are
    sorted as unsigned numbers. -/
theorem packed_order :
    (∀ t : OpTime, ofPacked t.packed = t) ∧ (∀ p : Int64, (ofPacked p).packed = p) ∧
      (∀ t : OpTime, t.packed = ((t.secs.toUInt64 <<< 32) ||| t.term.toUInt64).toInt64) ∧
      (∀ p : Int64, ofPacked p = ⟨(p.toUInt64 >>> 32).toUInt32, p.toUInt64.toUInt32⟩) ∧
      (∀ a b : OpTime, Agree a b) ∧
      (∀ a b : OpTime, a.isEqualOrBefore b ∨ b.isEqualOrBefore a) ∧
      (∀ a b : OpTime, a.isEqualOrBefore b → b.isEqualOrBefore a → a = b) ∧
      (∀ a b c : OpTime, a.isEqualOrBefore b → b.isEqualOrBefore c → a.isEqualOrBefore c) ∧
      ∀ ps : List Int64, ((sorted (ps.map ofPacked)).map packed).Perm ps ∧
        ((sorted (ps.map ofPacked)).map packed).Pairwise
          (fun p q => p.toUInt64.toNat ≤ q.toUInt64.toNat) :=
  ⟨ofPacked_packed, packed_ofPacked, packed_eq_or, ofPacked_eq_shiftRight, agree,
    isEqualOrBefore_total, fun _ _ => isEqualOrBefore_antisymm, fun _ _ _ => isEqualOrBefore_trans,
    packed_sorted⟩

/-- A time from 2038 on is after the others, whereas its long is negative. -/
example : (OpTime.mk 0 0).isBefore ⟨0x80000000, 0⟩ ∧ (OpTime.mk 0x80000000 0).packed.toInt < 0 := by
  decide

end CommandWire.OpTime
