import CommandWire.Field.BasicType
import CommandWire.Proofs.Field.Read
import CommandWire.Proofs.Instant

namespace CommandWire

/-!
# Fields that are refused for their kind

A field is refused with two kinds, the one that its type asks for and the one that was found.  Which
values a type reads, which kind it asks for and which kinds that stands for are three tables.  They
agree but for two entries: a number may not be a decimal, and a date may not be any date.

* `Kind.StandsFor`, `Kind.label_injective` — what a kind stands for when it is asked for, and that its
  label tells it from the others.
* `BasicType.sources`, `BasicType.exists_ofValue?_iff` — the kinds that a type is read from, and which
  values of these kinds it reads.
* `BasicType.Unrepresented` — values that a type asks for and cannot represent.
* `BasicType.standsFor_kind_iff`, `BasicType.kind_eq_iff` — of the values that a type does not read,
  these are the ones of a kind that it asks for, and the dates among them those of that very kind.
* `BasicType.refuses_iff` — a field that holds no date is refused for its kind only.
* `Document.Fails` — one of the readers of a field fails; they all do so alike.
* `BasicType.typeMismatch_standsFor_iff` — which refusals name a kind that was asked for.
-/

/-! ### Kinds that are asked for -/

namespace Kind

/-- A kind stands for itself, and the kind of all numbers for every numeric one. -/
def StandsFor (expected found : Kind) : Prop :=
  found = expected ∨ expected = .number ∧ found.isNumeric = true

/-- A kind is known by its short name. -/
theorem ofLabel?_label (k : Kind) : ofLabel? k.label = some k := by cases k <;> decide

/-- Kinds are told apart by their short names. -/
theorem label_injective : Function.Injective label := by
  intro k l h
  rw [← Option.some.injEq, ← ofLabel?_label, h, ofLabel?_label]

/-- The numeric kinds are those of numbers that are read, decimals, and the kind of all numbers. -/
theorem isNumeric_iff {k : Kind} :
    k.isNumeric = true ↔ k ∈ Document.numericKinds ∨ k = .decimal128 ∨ k = .number := by
  cases k <;> decide

end Kind

/-- No value is of the kind that stands for several. -/
theorem Value.kind_ne_number (v : Value) : v.kind ≠ .number := by cases v <;> nofun

/-! ### Values that are read -/

namespace BasicType

variable {t : BasicType} {v : Value}

/-- The kinds of values that a field of the type is read from. -/
def sources : BasicType → List Kind
  | long => [.int64, .int32]
  | number => Document.numericKinds
  | date => [.dateTime, .timestamp]
  | t => [t.kind]

/-- Only for dates the kind of a value is not all that matters. -/
theorem exists_ofValue?_iff_of_ne_date (ht : t ≠ .date) :
    (∃ x : t.Carrier, FieldType.ofValue? v = some x) ↔ v.kind ∈ t.sources := by
  cases t
  case date => contradiction
  all_goals
    cases v <;> simp [FieldType.ofValue?, Number.ofValue?, FieldType.kind, kind, sources,
      Document.numericKinds, Value.kind]

/-- Every timestamp has an instant, and a date has one if it is in range. -/
theorem exists_ofValue?_date_iff :
    (∃ x : date.Carrier, FieldType.ofValue? v = some x) ↔
      v.kind ∈ date.sources ∧ ∀ m, v = .dateTime m → Instant.InRange m.toInt := by
  cases v with
  | dateTime m =>
    have hread : (∃ x : date.Carrier, FieldType.ofValue? (.dateTime m) = some x) ↔
        Instant.InRange m.toInt := Instant.exists_ofMillis?_iff
    simp [hread, Value.kind, sources]
  | timestamp word =>
    have hread : (FieldType.ofValue? (.timestamp word) : Option date.Carrier) =
        some (Instant.ofWord word.time) := Instant.ofValue?_timestamp word
    simp [hread, Value.kind, sources]
  | _ => simp [FieldType.ofValue?, Value.kind, sources]

/-- **Values that are read.** A value is read if it is of one of the kinds that the type is read from,
    and a date only if there is an instant of it. -/
theorem exists_ofValue?_iff :
    (∃ x : t.Carrier, FieldType.ofValue? v = some x) ↔
      v.kind ∈ t.sources ∧ (t = .date → ∀ m, v = .dateTime m → Instant.InRange m.toInt) := by
  by_cases ht : t = .date
  · subst ht
    rw [exists_ofValue?_date_iff, forall_prop_of_true rfl]
  · rw [exists_ofValue?_iff_of_ne_date ht, and_iff_left fun hdate => absurd hdate ht]

/-- A type does not read values of other kinds than its own, and dates without an instant. -/
theorem ofValue?_eq_none_iff :
    (FieldType.ofValue? v : Option t.Carrier) = none ↔
      v.kind ∉ t.sources ∨ t = .date ∧ ∃ m, v = .dateTime m ∧ ¬ Instant.InRange m.toInt := by
  rw [← Option.not_isSome_iff_eq_none, Option.isSome_iff_exists, exists_ofValue?_iff]
  by_cases ht : t = .date <;> simp [ht, imp_iff_not_or]

/-! ### Values that are asked for and not read -/

/-- A value that the type asks for and cannot represent: a decimal as a number, and a date of which
    there is no instant. -/
def Unrepresented (t : BasicType) (v : Value) : Prop :=
  (t = .number ∧ ∃ digits, v = .decimal128 digits) ∨
    (t = .date ∧ ∃ m, v = .dateTime m ∧ ¬ Instant.InRange m.toInt)

/-- A value that a type cannot represent is not read. -/
theorem Unrepresented.ofValue?_eq_none (h : t.Unrepresented v) :
    (FieldType.ofValue? v : Option t.Carrier) = none := by
  rw [ofValue?_eq_none_iff]
  rcases h with ⟨rfl, digits, rfl⟩ | hdate
  · exact .inl (by simp [Value.kind, sources, Document.numericKinds])
  · exact .inr hdate

/-- Only numbers ask for the kind of all numbers. -/
theorem kind_eq_number_iff : t.kind = .number ↔ t = .number := by cases t <;> decide

/-- A type is read from the kind that it asks for, unless that stands for several. -/
theorem kind_mem_sources (ht : t ≠ .number) : t.kind ∈ t.sources := by
  revert ht
  cases t <;> decide

/-- A value of the decimal kind is a decimal. -/
theorem eq_decimal128_of_kind (h : v.kind = .decimal128) : ∃ digits, v = .decimal128 digits := by
  cases v with
  | decimal128 digits => exact ⟨digits, rfl⟩
  | _ => cases h

/-- **Asked for and not read.** A value that is not read is of a kind that the type asks for if and
    only if the type cannot represent it. -/
theorem standsFor_kind_iff (h : (FieldType.ofValue? v : Option t.Carrier) = none) :
    t.kind.StandsFor v.kind ↔ t.Unrepresented v := by
  rw [ofValue?_eq_none_iff] at h
  constructor
  · rintro (hkind | ⟨hnumber, hnumeric⟩)
    · -- the kind itself is read, so this is a date.
      have ht : t ≠ .number := by
        rintro rfl
        exact v.kind_ne_number hkind
      have hsource : v.kind ∈ t.sources := by
        rw [hkind]
        exact kind_mem_sources ht
      exact .inr (h.resolve_left (not_not.2 hsource))
    · -- every numeric kind is read but that of decimals.
      obtain rfl := kind_eq_number_iff.1 hnumber
      have hsource : v.kind ∉ number.sources := h.resolve_right fun hdate => nomatch hdate.1
      rcases Kind.isNumeric_iff.1 hnumeric with hread | hdecimal | hseveral
      · exact absurd hread hsource
      · exact .inl ⟨rfl, eq_decimal128_of_kind hdecimal⟩
      · exact absurd hseveral v.kind_ne_number
  · rintro (⟨rfl, digits, rfl⟩ | ⟨rfl, m, rfl, -⟩)
    · exact .inr ⟨rfl, rfl⟩
    · exact .inl rfl

/-- Only a date is not read although it is of the very kind that was asked for. -/
theorem kind_eq_iff (h : (FieldType.ofValue? v : Option t.Carrier) = none) :
    t.kind = v.kind ↔ t = .date ∧ t.Unrepresented v := by
  constructor
  · intro hsame
    have hasked : t.Unrepresented v := (standsFor_kind_iff h).1 (.inl hsame.symm)
    refine ⟨?_, hasked⟩
    rcases hasked with ⟨rfl, digits, rfl⟩ | ⟨hdate, -⟩
    · cases hsame
    · exact hdate
  · rintro ⟨rfl, ⟨hnumber, -⟩ | ⟨-, m, rfl, -⟩⟩
    · cases hnumber
    · rfl

end BasicType

/-! ### Readers that fail -/

/-- A field that holds no date is refused for its kind only. -/
theorem BasicType.refuses_iff {t : BasicType} {d : Document} {field : Field t.Carrier}
    {e : ProtocolError} (ht : t ≠ .date) :
    d.Refuses field e ↔ ∃ v, d.get? field.name = some v ∧ v.kind ∉ t.sources ∧
      e = .wrongKind field.name t.kind v.kind := by
  refine exists_congr fun v => and_congr_right fun _ => and_congr_left fun _ => ?_
  rw [ofValue?_eq_none_iff, or_iff_left fun hdate => ht hdate.1]

namespace Document

variable {α : Type} [FieldType α] {d : Document} {field : Field α} {e : ProtocolError}

/-- One of the readers of a field fails. -/
def Fails (d : Document) (field : Field α) (e : ProtocolError) : Prop :=
  d.read field = .error e ∨ d.readOptional field = .error e ∨
    ∃ default, d.readOr field default = .error e

/-- A reader fails for a field that is missing, or for one that it refuses. -/
theorem fails_iff :
    d.Fails field e ↔
      d.get? field.name = none ∧ e = .noSuchKey field.name ∨ d.Refuses field e := by
  constructor
  · rintro (h | h | ⟨default, h⟩)
    · exact read_eq_error_iff.1 h
    · exact .inr (readOptional_eq_error_iff.1 h)
    · exact .inr (readOr_eq_error_iff.1 h)
  · exact fun h => .inl (read_eq_error_iff.2 h)

end Document

/-- **Refusals for a kind.** When a reader of a field finds a value of the wrong kind, the error names
    the field, the kind that its type asks for and the kind of the value.  The first stands for the
    second if and only if the type cannot represent the value: a decimal where any number is asked
    for, or a date of which there is no instant, and only of this date does the error say that it must
    be what it is.  Every reader refuses each of these values in this way. -/
theorem BasicType.typeMismatch_standsFor_iff (t : BasicType) (d : Document)
    (field : Field t.Carrier) :
    (∀ name expected found message, d.Fails field (.typeMismatch name expected found message) →
      ∃ v, d.get? field.name = some v ∧ name = field.name ∧ expected = t.kind ∧ found = v.kind ∧
        message = field.name ++ ": field must be of type " ++ t.kind.label ++ ", not " ++
          v.kind.label ∧
        (expected.StandsFor found ↔ t.Unrepresented v) ∧
        (expected.label = found.label ↔ t = .date ∧ t.Unrepresented v)) ∧
    ∀ v, d.get? field.name = some v → t.Unrepresented v →
      d.read field = .error (.wrongKind field.name t.kind v.kind) ∧
      d.readOptional field = .error (.wrongKind field.name t.kind v.kind) ∧
      ∀ default, d.readOr field default = .error (.wrongKind field.name t.kind v.kind) := by
  refine ⟨fun name expected found message h => ?_, fun v hv hunrepresented => ?_⟩
  · rcases Document.fails_iff.1 h with ⟨-, hmissing⟩ | ⟨v, hv, hnone, herror⟩
    · cases hmissing
    · cases herror
      exact ⟨v, hv, rfl, rfl, rfl, rfl, standsFor_kind_iff hnone,
        Kind.label_injective.eq_iff.trans (kind_eq_iff hnone)⟩
  · have hrefuses : d.Refuses field (.wrongKind field.name t.kind v.kind) :=
      ⟨v, hv, hunrepresented.ofValue?_eq_none, rfl⟩
    exact ⟨Document.read_eq_error_iff.2 (.inr hrefuses),
      Document.readOptional_eq_error_iff.2 hrefuses,
      fun default => Document.readOr_eq_error_iff.2 hrefuses⟩

/-- A date may be refused for being a date. -/
theorem BasicType.not_forall_truthful :
    ¬ ∀ (t : BasicType) (d : Document) (field : Field t.Carrier) (name : String)
      (expected found : Kind) (message : String),
      d.Fails field (.typeMismatch name expected found message) → ¬ expected.StandsFor found := by
  intro h
  have hnone : (FieldType.ofValue? (.dateTime 9223372036854775807) : Option date.Carrier) = none :=
    rfl
  have hread : Document.read [("when", .dateTime 9223372036854775807)]
      (⟨"when"⟩ : Field date.Carrier) = .error (.wrongKind "when" .dateTime .dateTime) :=
    Document.read_of_ofValue?_eq_none rfl hnone
  exact h date _ _ _ _ _ _ (.inl hread) (.inl rfl)

end CommandWire
