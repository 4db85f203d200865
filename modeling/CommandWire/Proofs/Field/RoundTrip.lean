import CommandWire.Proofs.Field.Refusal

namespace CommandWire

/-!
# Values of fields on the wire and back

A value of a field is written and read again, and a value on the wire is read and written again.
Three things change on the way: an instant loses what is less than a millisecond, an integer that is
read as a longer one stays longer, and a timestamp that is read as an instant becomes a date.

* `Instant.ofValue?_toValue`, `Instant.ofValue?_eq_some_iff`, `Instant.exists_millis_of_ofValue?` —
  instants, which are written as dates.
* `BasicType.rewritten`, `BasicType.toValue_of_ofValue?` — what becomes of a value that is read and
  written again.
* `BasicType.survives_wire` — both ways, for all types, and which values are read.
-/

/-! ### Instants -/

namespace Instant

variable {t : Instant} {v : Value}

/-- The date of an instant is read as its last whole millisecond, unless the instant lies in a leap
    second. -/
theorem ofValue?_toValue (h : t.inLeapSecond = false) :
    FieldType.ofValue? (FieldType.toValue t) = some t.wholeMillis := by
  show ofMillis? (Int64.ofInt t.millis).toInt = _
  rw [toInt_ofInt_millis, ofMillis?_millis h]

/-- An instant is read from a date that has one, and from the seconds of a timestamp. -/
theorem ofValue?_eq_some_iff :
    FieldType.ofValue? v = some t ↔
      (∃ m : Int64, v = .dateTime m ∧ ofMillis? m.toInt = some t) ∨
        ∃ w, v = .timestamp w ∧ t = ofWord w.time := by
  cases v with
  | dateTime m =>
    show ofMillis? m.toInt = some t ↔ _
    simp
  | timestamp w =>
    rw [ofValue?_timestamp]
    simp [eq_comm]
  | _ => simp [FieldType.ofValue?]

/-- What is read as an instant stands for a number of milliseconds. -/
theorem exists_millis_of_ofValue? (h : FieldType.ofValue? v = some t) :
    ∃ m, ofMillis? m = some t := by
  rcases ofValue?_eq_some_iff.1 h with ⟨m, -, hm⟩ | ⟨w, -, rfl⟩
  · exact ⟨m.toInt, hm⟩
  · exact ⟨_, ofMillis?_ofWord w.time⟩

end Instant

namespace BasicType

variable {t : BasicType} {v : Value}

/-! ### Values that are written and read -/

/-- Every type but that of dates reads back what it writes. -/
theorem ofValue?_toValue (hdate : t ≠ .date) (x : t.Carrier) :
    FieldType.ofValue? (FieldType.toValue x) = some x := by
  by_cases hlong : t = .long
  · subst hlong
    rfl
  · exact (exact hlong hdate _ x).2 rfl

/-! ### Values that are read and written -/

/-- What becomes of a value that is read as a type and written again. -/
def rewritten : BasicType → Value → Value
  | .long, .int32 n => .int64 n.toInt64
  | .date, .timestamp w => .dateTime (Int64.ofNat (w.time.toNat * 1000))
  | _, v => v

/-- Every type but two leaves the values that it reads as they are. -/
theorem rewritten_eq_self (hlong : t ≠ .long) (hdate : t ≠ .date) (v : Value) :
    t.rewritten v = v := by
  cases t with
  | long => contradiction
  | date => contradiction
  | _ => rfl

/-- An integer that is read as a long is written as a long. -/
theorem toValue_of_ofValue?_long {n : Int64} (h : FieldType.ofValue? v = some n) :
    FieldType.toValue n = rewritten .long v := by
  rcases Document.ofValue?_int64_eq_some_iff.1 h with rfl | ⟨m, rfl, hm⟩
  · rfl
  · show Value.int64 n = .int64 m.toInt64
    rw [Value.int64.injEq, ← Int64.toInt_inj, hm, Int32.toInt_toInt64]

/-- A value that is read as an instant is written as a date. -/
theorem toValue_of_ofValue?_date {x : Instant} (h : FieldType.ofValue? v = some x) :
    FieldType.toValue x = rewritten .date v := by
  rcases Instant.ofValue?_eq_some_iff.1 h with ⟨m, rfl, hm⟩ | ⟨w, rfl, rfl⟩
  · show Value.dateTime (Int64.ofInt x.millis) = .dateTime m
    rw [Instant.millis_of_ofMillis? hm, Int64.ofInt_toInt]
  · show Value.dateTime (Int64.ofInt (Instant.ofWord w.time).millis) = .dateTime _
    rw [Instant.millis_of_ofMillis? (Instant.ofMillis?_ofWord w.time)]
    rfl

/-- A value that is read and written again is the same, but for integers and timestamps that were
    turned into values of the type. -/
theorem toValue_of_ofValue? {x : t.Carrier} (h : FieldType.ofValue? v = some x) :
    FieldType.toValue x = t.rewritten v := by
  by_cases hlong : t = .long
  · subst hlong
    exact toValue_of_ofValue?_long h
  by_cases hdate : t = .date
  · subst hdate
    exact toValue_of_ofValue?_date h
  · have hv : v = FieldType.toValue x := (exact hlong hdate v x).1 h
    rw [rewritten_eq_self hlong hdate, hv]

/-! ### Both ways -/

/-- **Fields survive the wire.** A value of a field is read from what is written for it; an instant as
    its last whole millisecond, unless it lies in a leap second.  What was read from a value is written
    as that value, but an integer that was read as a longer one as the longer one, and a timestamp that
    was read as an instant as the date of its seconds.  A date is read if there is an instant of it,
    numbers are read from integers and doubles and nothing else, and every other type is read from all
    values of its own kind. -/
theorem survives_wire (t : BasicType) :
    (t ≠ .date → ∀ x : t.Carrier, FieldType.ofValue? (FieldType.toValue x) = some x) ∧
    (∀ x : Instant, x.inLeapSecond = false →
      FieldType.ofValue? (FieldType.toValue x) = some x.wholeMillis) ∧
    (∀ (v : Value) (x : t.Carrier), FieldType.ofValue? v = some x →
      FieldType.toValue x = t.rewritten v) ∧
    (∀ m : Int64, (∃ x : date.Carrier, FieldType.ofValue? (.dateTime m) = some x) ↔
      Instant.InRange m.toInt) ∧
    (∀ v : Value, (∃ x : number.Carrier, FieldType.ofValue? v = some x) ↔
      v.kind = .int32 ∨ v.kind = .int64 ∨ v.kind = .double) ∧
    (t ≠ .date → t ≠ .number → ∀ v : Value, v.kind = t.kind →
      ∃ x : t.Carrier, FieldType.ofValue? v = some x) := by
  refine ⟨fun hdate x => ofValue?_toValue hdate x, fun x hx => Instant.ofValue?_toValue hx,
    fun v x h => toValue_of_ofValue? h, fun m => Instant.exists_ofMillis?_iff, fun v => ?_,
    fun hdate hnumber v hkind => ?_⟩
  · rw [exists_ofValue?_iff_of_ne_date (by decide)]
    simp [sources, Document.numericKinds]
  · rw [exists_ofValue?_iff_of_ne_date hdate, hkind]
    exact kind_mem_sources hnumber

end BasicType

end CommandWire
