import CommandWire.Field.Basic

namespace CommandWire.Instant

/-!
# Instants of dates and of timestamps

A number of milliseconds is rounded down to a second, before 1970 too, and what is left is counted in
nanoseconds.  A timestamp counts whole seconds.

* `InRange` — the milliseconds of the years that instants lie in.
* `ofMillis?_eq_some_iff` — which instant a number of milliseconds has.
* `exists_ofMillis?_iff` — it has one if and only if it is in range.
* `ofWord`, `ofMillis?_ofWord`, `ofValue?_timestamp` — the instant of a timestamp; there always is one.
* `wholeMillis`, `ofMillis?_millis`, `wholeMillis_of_ofMillis?` — what is left of an instant that is
  counted in milliseconds, and that nothing is lost of one that comes from milliseconds.
* `toInt_ofInt_millis` — the milliseconds of an instant fit into a long.
-/

/-! ### Milliseconds -/

variable {m : Int} {t : Instant}

/-- From the first millisecond of the year -262143 to the last of the year 262142. -/
def InRange (m : Int) : Prop := -8334601228800000 ≤ m ∧ m ≤ 8210266876799999

instance (m : Int) : Decidable (InRange m) := inferInstanceAs (Decidable (_ ∧ _))

/-- Milliseconds are in range when their seconds are. -/
theorem inRange_iff : InRange m ↔ firstSecond ≤ m / 1000 ∧ m / 1000 ≤ lastSecond := by
  unfold InRange firstSecond lastSecond
  omega

/-- The instant of some milliseconds has their seconds and the nanoseconds of what is left. -/
theorem ofMillis?_eq_some_iff :
    ofMillis? m = some t ↔ t.seconds = m / 1000 ∧ t.nanos = (m % 1000).toNat * 1000000 := by
  rw [ofMillis?, ofParts?]
  constructor
  · intro h
    split at h
    · cases h
      exact ⟨rfl, rfl⟩
    · cases h
  · rintro ⟨hseconds, hnanos⟩
    obtain ⟨seconds, nanos, hfirst, hlast, hvalid⟩ := t
    subst hseconds hnanos
    exact dif_pos ⟨hfirst, hlast, hvalid⟩

/-- Milliseconds have an instant when they are in range. -/
theorem exists_ofMillis?_iff : (∃ t, ofMillis? m = some t) ↔ InRange m := by
  rw [inRange_iff]
  constructor
  · rintro ⟨t, ht⟩
    rw [← (ofMillis?_eq_some_iff.1 ht).1]
    exact ⟨t.first_le, t.le_last⟩
  · rintro ⟨hfirst, hlast⟩
    -- less than a thousand milliseconds are less than a second of nanoseconds.
    have hnanos : (m % 1000).toNat * 1000000 < 1000000000 := by omega
    exact ⟨_, dif_pos ⟨hfirst, hlast, .inl hnanos⟩⟩

/-- Milliseconds have no instant when they are out of range. -/
theorem ofMillis?_eq_none_iff : ofMillis? m = none ↔ ¬ InRange m := by
  rw [← exists_ofMillis?_iff, ← Option.isSome_iff_exists, Option.not_isSome_iff_eq_none]

/-! ### Timestamps -/

/-- The instant a number of seconds after 1970. -/
def ofWord (n : UInt32) : Instant where
  seconds := n.toNat
  nanos := 0
  first_le := by
    have hfirst : firstSecond < 0 := by decide
    omega
  le_last := by
    have hn : n.toNat < 4294967296 := n.toNat_lt
    have hlast : (4294967296 : Int) < lastSecond := by decide
    omega
  validNanos := .inl (by decide)

/-- The instant of a word has its seconds. -/
@[simp] theorem seconds_ofWord (n : UInt32) : (ofWord n).seconds = n.toNat := rfl

/-- The instant of a word has nothing after its seconds. -/
@[simp] theorem nanos_ofWord (n : UInt32) : (ofWord n).nanos = 0 := rfl

/-- The instant of a timestamp is that of its seconds in milliseconds. -/
theorem ofMillis?_ofWord (n : UInt32) : ofMillis? (n.toNat * 1000) = some (ofWord n) := by
  rw [ofMillis?_eq_some_iff, seconds_ofWord, nanos_ofWord]
  constructor <;> omega

/-- Every timestamp gives an instant, whatever its count within the second. -/
theorem ofValue?_timestamp (t : Timestamp) :
    (FieldType.ofValue? (.timestamp t) : Option Instant) = some (ofWord t.time) :=
  dif_pos ⟨(ofWord t.time).first_le, (ofWord t.time).le_last, (ofWord t.time).validNanos⟩

/-! ### Whole milliseconds -/

/-- The last whole millisecond that is not after an instant. -/
def wholeMillis (t : Instant) : Instant where
  seconds := t.seconds
  nanos := t.nanos / 1000000 * 1000000
  first_le := t.first_le
  le_last := t.le_last
  validNanos := by
    have hle : t.nanos / 1000000 * 1000000 ≤ t.nanos := Nat.div_mul_le_self t.nanos 1000000
    exact t.validNanos.imp (Nat.lt_of_le_of_lt hle) fun h => ⟨Nat.lt_of_le_of_lt hle h.1, h.2⟩

/-- An instant outside a leap second has less than a second of nanoseconds. -/
theorem inLeapSecond_eq_false_iff : t.inLeapSecond = false ↔ t.nanos < 1000000000 := by
  rw [inLeapSecond, decide_eq_false_iff_not, Nat.not_le]

/-- Outside leap seconds the milliseconds of an instant are those of its last whole one. -/
theorem ofMillis?_millis (h : t.inLeapSecond = false) : ofMillis? t.millis = some t.wholeMillis := by
  rw [inLeapSecond_eq_false_iff] at h
  rw [ofMillis?_eq_some_iff, millis, wholeMillis]
  -- fewer than a thousand milliseconds do not reach the next second.
  have hmillis : t.nanos / 1000000 < 1000 := by omega
  constructor <;> dsimp only <;> omega

/-- The instant of some milliseconds is that many milliseconds after 1970. -/
theorem millis_of_ofMillis? (h : ofMillis? m = some t) : t.millis = m := by
  obtain ⟨hseconds, hnanos⟩ := ofMillis?_eq_some_iff.1 h
  rw [millis, hseconds, hnanos]
  omega

/-- The instant of some milliseconds lies in no leap second. -/
theorem inLeapSecond_of_ofMillis? (h : ofMillis? m = some t) : t.inLeapSecond = false := by
  obtain ⟨-, hnanos⟩ := ofMillis?_eq_some_iff.1 h
  rw [inLeapSecond_eq_false_iff, hnanos]
  omega

/-- An instant that comes from milliseconds is a whole one. -/
theorem wholeMillis_of_ofMillis? (h : ofMillis? m = some t) : t.wholeMillis = t := by
  have hread : ofMillis? t.millis = some t.wholeMillis :=
    ofMillis?_millis (inLeapSecond_of_ofMillis? h)
  rw [millis_of_ofMillis? h, h] at hread
  exact (Option.some.inj hread).symm

/-- A long counts the milliseconds of every instant, leap seconds included. -/
theorem toInt_ofInt_millis (t : Instant) : (Int64.ofInt t.millis).toInt = t.millis := by
  have hfirst : -8334601228800 ≤ t.seconds := t.first_le
  have hlast : t.seconds ≤ 8210266876799 := t.le_last
  have hnanos : t.nanos < 1000000000 ∨ t.nanos < 2000000000 ∧ t.seconds % 60 = 59 := t.validNanos
  refine Int64.toInt_ofInt_of_le ?_ ?_ <;> rw [millis] <;> omega

end CommandWire.Instant
