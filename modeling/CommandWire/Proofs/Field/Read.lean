import CommandWire.Field.BasicType
import CommandWire.Field.Document
import CommandWire.Proofs.Value.Rename
import Mathlib.Data.List.Forall2

namespace CommandWire

/-!
# What readers of fields look at and what they refuse

* `bind_eq_ok`, `bind_eq_error_iff`, `mapM_eq_ok_iff`, `mapM_eq_error_iff` — two steps succeed when
  the first does and the second does on what the first gives; steps over a sequence succeed when each
  does, and else the first that fails decides.
* `ErrorsIn` — every error of a step has a property; it passes through the ways of putting steps
  together.
* `FieldType.Exact` — a type that reads only what it writes; `BasicType.exact` says that all but two do.
* `Document.read_congr` and its companions — a reader looks at the value of its own field only.
* `Document.read_eq_ok_iff`, `Document.read_eq_error_iff` — a field is read when it is there and its
  value is of the right kind, and refused for being missing or with both kinds when it is of another,
  which `Document.Refuses` says.
* `Document.HoldsLong`, `Document.HoldsNumber`, `Document.HoldsFlag` — what a document says about an
  integer, a number or a flag that may be missing, which is what is read; the kind of the value tells
  whether it says anything, and it says one thing only.
* `Document.errorsIn_read` and its companions — a reader refuses a field that is missing or that
  holds a value of the wrong kind, and says which field that is.
* `Document.unexpectedField`, `Document.onlyHas_eq`, `Document.firstUnexpected_eq_some_iff` — the
  first name that is not allowed is refused, and two such refusals differ in their texts when they
  differ in their names.
-/

/-! ### Steps that succeed -/

/-- Two steps succeed when the first does and the second does on what the first gives. -/
theorem bind_eq_ok {α β : Type} {x : Checked α} {f : α → Checked β} {b : β} :
    x >>= f = .ok b ↔ ∃ a, x = .ok a ∧ f a = .ok b := by
  cases x with
  | error e =>
    constructor
    · intro h
      cases h
    · rintro ⟨a, h, -⟩
      cases h
  | ok a =>
    constructor
    · intro h
      exact ⟨a, rfl, h⟩
    · rintro ⟨a', h, hf⟩
      cases h
      exact hf

/-- Two steps fail when the first does or the second does on what the first gives. -/
theorem bind_eq_error_iff {α β : Type} {x : Checked α} {f : α → Checked β} {e : ProtocolError} :
    x >>= f = .error e ↔ x = .error e ∨ ∃ a, x = .ok a ∧ f a = .error e := by
  cases x with
  | error e' =>
    constructor
    · intro h
      cases h
      exact .inl rfl
    · rintro (h | ⟨a, h, -⟩)
      · cases h
        rfl
      · cases h
  | ok a =>
    constructor
    · intro h
      exact .inr ⟨a, rfl, h⟩
    · rintro (h | ⟨a', h, hf⟩)
      · cases h
      · cases h
        exact hf

/-- After a step that succeeded the next goes on with its result. -/
theorem ok_bind {α β : Type} (a : α) (f : α → Checked β) : (.ok a : Checked α) >>= f = f a := rfl

/-- Rewording the errors leaves the results as they are. -/
theorem mapError_eq_ok {α : Type} {x : Checked α} {f : ProtocolError → ProtocolError} {a : α} :
    (x.mapError f : Checked α) = .ok a ↔ x = .ok a := by
  cases x with
  | error e =>
    constructor
    · intro h
      cases h
    · intro h
      cases h
  | ok b => rfl

/-- A result that is turned into another comes from one that was there. -/
theorem map_eq_ok_iff {α β : Type} {x : Checked α} {f : α → β} {b : β} :
    (x.map f : Checked β) = .ok b ↔ ∃ a, x = .ok a ∧ f a = b := by
  cases x with
  | error e => exact iff_of_false nofun fun ⟨_, h, _⟩ => nomatch h
  | ok a =>
    constructor
    · intro h
      exact ⟨a, rfl, Except.ok.inj h⟩
    · rintro ⟨a', h, hf⟩
      cases h
      exact congrArg Except.ok hf

/-- Turning the result of a step into another does not make it fail. -/
theorem exists_map_eq_ok_iff {α β : Type} {x : Checked α} {f : α → β} :
    (∃ b, (x.map f : Checked β) = .ok b) ↔ ∃ a, x = .ok a := by
  simp only [map_eq_ok_iff]
  exact ⟨fun ⟨_, a, ha, _⟩ => ⟨a, ha⟩, fun ⟨a, ha⟩ => ⟨_, a, ha, rfl⟩⟩

/-- Turning the result of a step into another leaves its error as it is. -/
theorem map_eq_error_iff {α β : Type} {x : Checked α} {f : α → β} {e : ProtocolError} :
    (x.map f : Checked β) = .error e ↔ x = .error e := by
  cases x with
  | error e' => exact ⟨fun h => by cases h; rfl, fun h => by cases h; rfl⟩
  | ok a => exact iff_of_false nofun nofun

/-- Steps over a sequence succeed when each does. -/
theorem mapM_eq_ok_iff {α β : Type} {f : α → Checked β} {items : List α} {results : List β} :
    items.mapM f = .ok results ↔ List.Forall₂ (fun a b => f a = .ok b) items results := by
  induction items generalizing results with
  | nil =>
    rw [List.mapM_nil, List.forall₂_nil_left_iff]
    constructor
    · intro h
      cases h
      rfl
    · rintro rfl
      rfl
  | cons a items ih =>
    rw [List.mapM_cons, List.forall₂_cons_left_iff, bind_eq_ok]
    constructor
    · rintro ⟨b, hb, hrest⟩
      obtain ⟨others, hothers, hresults⟩ := bind_eq_ok.1 hrest
      cases hresults
      exact ⟨b, others, hb, ih.1 hothers, rfl⟩
    · rintro ⟨b, others, hb, hothers, rfl⟩
      exact ⟨b, hb, bind_eq_ok.2 ⟨others, ih.2 hothers, rfl⟩⟩

/-- The first item that fails decides. -/
theorem mapM_of_first_error {α β : Type} {f : α → Checked β} {before : List α} {a : α}
    {e : ProtocolError} (after : List α) (hbefore : ∀ b ∈ before, ∃ c, f b = .ok c)
    (ha : f a = .error e) : (before ++ a :: after).mapM f = .error e := by
  induction before with
  | nil =>
    rw [List.nil_append, List.mapM_cons, ha]
    rfl
  | cons b before ih =>
    rw [List.forall_mem_cons] at hbefore
    obtain ⟨⟨c, hc⟩, hrest⟩ := hbefore
    rw [List.cons_append, List.mapM_cons, hc, ih hrest]
    rfl

/-- Steps over a sequence give results when each step gives one. -/
theorem exists_mapM_eq_ok_iff {α β : Type} {f : α → Checked β} {items : List α} :
    (∃ results, items.mapM f = .ok results) ↔ ∀ a ∈ items, ∃ b, f a = .ok b := by
  simp only [mapM_eq_ok_iff]
  induction items with
  | nil => exact iff_of_true ⟨[], .nil⟩ (List.forall_mem_nil _)
  | cons a items ih =>
    rw [List.forall_mem_cons, ← ih]
    constructor
    · rintro ⟨_, _ | ⟨hb, hrest⟩⟩
      exact ⟨⟨_, hb⟩, _, hrest⟩
    · rintro ⟨⟨b, hb⟩, others, hrest⟩
      exact ⟨b :: others, .cons hb hrest⟩

/-- The error of the first item that fails; the items before it succeed. -/
def FirstError {α β : Type} (f : α → Checked β) (items : List α) (e : ProtocolError) : Prop :=
  ∃ before a after, items = before ++ a :: after ∧ (∀ b ∈ before, ∃ c, f b = .ok c) ∧
    f a = .error e

/-- Steps over a sequence give the error of the first item that fails. -/
theorem mapM_eq_error_iff {α β : Type} {f : α → Checked β} {items : List α} {e : ProtocolError} :
    items.mapM f = .error e ↔ FirstError f items e := by
  constructor
  · intro h
    induction items with
    | nil => cases h
    | cons a items ih =>
      cases ha : f a with
      | error e' =>
        rw [List.mapM_cons, ha] at h
        cases h
        exact ⟨[], a, items, rfl, List.forall_mem_nil _, ha⟩
      | ok b =>
        rw [List.mapM_cons, ha] at h
        have hrest : ((items.mapM f).map (b :: ·) : Checked (List β)) = .error e := h
        obtain ⟨before, x, after, rfl, hbefore, hx⟩ := ih (map_eq_error_iff.1 hrest)
        exact ⟨a :: before, x, after, rfl, List.forall_mem_cons.2 ⟨⟨b, ha⟩, hbefore⟩, hx⟩
  · rintro ⟨before, a, after, rfl, hbefore, ha⟩
    exact mapM_of_first_error after hbefore ha

/-! ### Errors of steps -/

/-- Every error that a step gives has a property. -/
def ErrorsIn {α : Type} (P : ProtocolError → Prop) (x : Checked α) : Prop := ∀ e, x = .error e → P e

section ErrorsIn

variable {α β : Type} {P Q : ProtocolError → Prop}

/-- A step that succeeded has no error. -/
theorem errorsIn_ok (a : α) : ErrorsIn P (.ok a : Checked α) := by
  intro e h
  cases h

/-- A step that failed has one error. -/
theorem errorsIn_error {e : ProtocolError} (h : P e) : ErrorsIn P (.error e : Checked α) := by
  intro e' h'
  cases h'
  exact h

/-- Errors with a property have every property that follows from it. -/
theorem ErrorsIn.mono {x : Checked α} (h : ErrorsIn P x) (hPQ : ∀ e, P e → Q e) : ErrorsIn Q x :=
  fun e he => hPQ e (h e he)

/-- Two steps have the errors of the first and those of the second. -/
theorem ErrorsIn.bind {x : Checked α} {f : α → Checked β} (hx : ErrorsIn P x)
    (hf : ∀ a, ErrorsIn P (f a)) : ErrorsIn P (x >>= f) := by
  cases x with
  | error e => exact errorsIn_error (hx e rfl)
  | ok a => exact hf a

/-- Turning the result into another adds no error. -/
theorem ErrorsIn.map {x : Checked α} (f : α → β) (hx : ErrorsIn P x) : ErrorsIn P (x.map f) := by
  cases x with
  | error e => exact errorsIn_error (hx e rfl)
  | ok a => exact errorsIn_ok (f a)

/-- Errors that are reworded have what the rewording gives them. -/
theorem ErrorsIn.mapError {x : Checked α} {f : ProtocolError → ProtocolError} (hx : ErrorsIn P x)
    (hf : ∀ e, P e → Q (f e)) : ErrorsIn Q (x.mapError f : Checked α) := by
  cases x with
  | error e => exact errorsIn_error (hf e (hx e rfl))
  | ok a => exact errorsIn_ok a

/-- Steps over a sequence have the errors of each step. -/
theorem errorsIn_mapM {f : α → Checked β} (hf : ∀ a, ErrorsIn P (f a)) (items : List α) :
    ErrorsIn P (items.mapM f) := by
  induction items with
  | nil => exact errorsIn_ok []
  | cons a items ih =>
    rw [List.mapM_cons]
    exact (hf a).bind fun _ => ih.bind fun _ => errorsIn_ok _

/-- Steps that hand on a state have the errors of each step. -/
theorem errorsIn_foldlM {f : β → α → Checked β} (hf : ∀ b a, ErrorsIn P (f b a)) (items : List α)
    (init : β) : ErrorsIn P (items.foldlM f init) := by
  induction items generalizing init with
  | nil => exact errorsIn_ok init
  | cons a items ih =>
    rw [List.foldlM_cons]
    exact (hf init a).bind fun b => ih b

end ErrorsIn

/-! ### Types that read what they write -/

/-- The type reads a value only if it would write it. -/
def FieldType.Exact (α : Type) [FieldType α] : Prop :=
  ∀ (v : Value) (x : α), ofValue? v = some x ↔ v = toValue x

/-- A type reads only what it writes, unless other values are turned into its own. -/
theorem BasicType.exact {t : BasicType} (hlong : t ≠ .long) (hdate : t ≠ .date) :
    FieldType.Exact t.Carrier := by
  cases t with
  | long => contradiction
  | date => contradiction
  | number =>
    intro v n
    constructor
    · exact Number.eq_toValue_of_ofValue?
    · rintro rfl
      exact Number.ofValue?_toValue n
  | _ =>
    intro v x
    cases v <;> simp [FieldType.ofValue?, FieldType.toValue]

namespace Document

variable {α : Type} [FieldType α] {d e : Document}

/-! ### What is looked at -/

/-- Only what stands under the name is looked at. -/
theorem value_congr {name : String} (h : d.get? name = e.get? name) :
    d.value name = e.value name := by
  rw [value, value, h]

/-- A field that has to be there is read from what stands under its name. -/
theorem read_congr (field : Field α) (h : d.get? field.name = e.get? field.name) :
    d.read field = e.read field := by
  rw [read, read, value_congr h]

/-- A field that may be missing is read from what stands under its name. -/
theorem readOptional_congr (field : Field α) (h : d.get? field.name = e.get? field.name) :
    d.readOptional field = e.readOptional field := by
  rw [readOptional, readOptional, h]

/-- A field with a default is read from what stands under its name. -/
theorem readOr_congr (field : Field α) (default : α) (h : d.get? field.name = e.get? field.name) :
    d.readOr field default = e.readOr field default := by
  rw [readOr, readOr, readOptional_congr field h]

/-- A flag is read from what stands under its name. -/
theorem readFlag_congr (field : Field Bool) (default : Bool)
    (h : d.get? field.name = e.get? field.name) :
    d.readFlag field default = e.readFlag field default := by
  rw [readFlag, readFlag, h]

/-! ### What is read -/

/-- The value of a name is what stands under it. -/
theorem value_eq_ok_iff {name : String} {v : Value} :
    d.value name = .ok v ↔ d.get? name = some v := by
  unfold value
  cases d.get? name <;> simp

/-- A name without a value is refused, and named. -/
theorem value_eq_error_iff {name : String} {error : ProtocolError} :
    d.value name = .error error ↔ name ∉ d.keys ∧ error = .noSuchKey name := by
  rw [← get?_eq_none_iff, value]
  cases d.get? name <;> simp [eq_comm]

/-- A value is converted when its type reads it. -/
theorem convert_eq_ok_iff {name : String} {v : Value} {x : α} :
    convert name v = .ok x ↔ FieldType.ofValue? v = some x := by
  unfold convert
  cases FieldType.ofValue? (α := α) v <;> simp

/-- A field is read when it is there and its type reads the value. -/
theorem read_eq_ok_iff {field : Field α} {x : α} :
    d.read field = .ok x ↔ ∃ v, d.get? field.name = some v ∧ FieldType.ofValue? v = some x := by
  rw [read, bind_eq_ok]
  simp only [value_eq_ok_iff, convert_eq_ok_iff]

/-- A field of such a type holds what is read. -/
theorem read_eq_ok_iff_of_exact (h : FieldType.Exact α) {field : Field α} {x : α} :
    d.read field = .ok x ↔ d.get? field.name = some (FieldType.toValue x) := by
  rw [read_eq_ok_iff]
  simp only [h _ x, exists_eq_right]

/-- A text is read from a text only. -/
theorem read_text_eq_ok_iff {field : Field String} {s : String} :
    d.read field = .ok s ↔ d.get? field.name = some (.string s) :=
  read_eq_ok_iff_of_exact (BasicType.exact (t := .string) nofun nofun)

/-- A word is read from a word only. -/
theorem read_int32_eq_ok_iff {field : Field Int32} {n : Int32} :
    d.read field = .ok n ↔ d.get? field.name = some (.int32 n) :=
  read_eq_ok_iff_of_exact (BasicType.exact (t := .int) nofun nofun)

/-- An identifier is read from an identifier only. -/
theorem read_objectId_eq_ok_iff {field : Field ObjectId} {id : ObjectId} :
    d.read field = .ok id ↔ d.get? field.name = some (.objectId id) :=
  read_eq_ok_iff_of_exact (BasicType.exact (t := .objectId) nofun nofun)

/-- A field that may be missing is read as nothing only where it is missing. -/
theorem readOptional_eq_ok_iff {field : Field α} {x : Option α} :
    d.readOptional field = .ok x ↔
      (∃ v y, d.get? field.name = some v ∧ FieldType.ofValue? v = some y ∧ x = some y) ∨
        d.get? field.name = none ∧ x = none := by
  unfold readOptional
  cases d.get? field.name with
  | none => simp [eq_comm]
  | some v =>
    dsimp only
    rw [map_eq_ok_iff]
    simp only [convert_eq_ok_iff]
    simp [eq_comm]

/-- A field is read as its default only where it is not there. -/
theorem readOr_eq_ok_iff {field : Field α} {default x : α} :
    d.readOr field default = .ok x ↔
      (∃ v, d.get? field.name = some v ∧ FieldType.ofValue? v = some x) ∨
        d.get? field.name = none ∧ x = default := by
  rw [readOr, map_eq_ok_iff]
  simp only [readOptional_eq_ok_iff]
  constructor
  · rintro ⟨_, ⟨v, y, hv, hy, rfl⟩ | ⟨hnone, rfl⟩, rfl⟩
    · exact .inl ⟨v, hv, hy⟩
    · exact .inr ⟨hnone, rfl⟩
  · rintro (⟨v, hv, hx⟩ | ⟨hnone, rfl⟩)
    · exact ⟨some x, .inl ⟨v, x, hv, hx, rfl⟩, rfl⟩
    · exact ⟨none, .inr ⟨hnone, rfl⟩, rfl⟩

/-- What a document says about a number: the number, or nothing, which stands for the default. -/
def HoldsNumber (d : Document) (name : String) (default n : Number) : Prop :=
  d.get? name = some n.toValue ∨ d.get? name = none ∧ n = default

/-- A number with a default is read as the one that the document holds. -/
theorem readOr_number_eq_ok_iff {field : Field Number} {default n : Number} :
    d.readOr field default = .ok n ↔ d.HoldsNumber field.name default n := by
  rw [readOr_eq_ok_iff, HoldsNumber]
  refine or_congr_left ⟨?_, fun h => ⟨_, h, Number.ofValue?_toValue n⟩⟩
  rintro ⟨v, hget, hv⟩
  rw [hget, Number.eq_toValue_of_ofValue? hv]

/-- What a document says about a flag: a boolean, a number that is true unless it is zero, or nothing,
    which stands for the default. -/
def HoldsFlag (d : Document) (name : String) (default b : Bool) : Prop :=
  d.get? name = some (.boolean b) ∨
    (∃ n : Number, d.get? name = some n.toValue ∧ b = !n.isZero) ∨
    d.get? name = none ∧ b = default

/-- A flag is read as the one that the document holds. -/
theorem readFlag_eq_ok_iff {field : Field Bool} {default b : Bool} :
    d.readFlag field default = .ok b ↔ d.HoldsFlag field.name default b := by
  unfold readFlag HoldsFlag
  split
  · next hget => simp [hget, eq_comm]
  · next c hget =>
    have hnumber : ∀ n : Number, Value.boolean c ≠ n.toValue := by
      intro n
      cases n <;> nofun
    simp [hget, hnumber]
  · next v hboolean hget =>
    have hflag : v ≠ .boolean b := hboolean b
    cases hv : Number.ofValue? v with
    | some n =>
      rw [Number.eq_toValue_of_ofValue? hv] at hget hflag
      have hsame : ∀ m : Number, n.toValue = m.toValue ↔ n = m := by
        intro m
        cases n <;> cases m <;> simp [Number.toValue]
      simp [hget, hflag, hsame, eq_comm]
    | none =>
      have hnumber : ∀ n : Number, v ≠ n.toValue := by
        rintro n rfl
        rw [Number.ofValue?_toValue] at hv
        cases hv
      simp [hget, hflag, hnumber]

/-- The kinds of numbers. -/
def numericKinds : List Kind := [.int32, .int64, .double]

/-- The values of a numeric kind are those of numbers. -/
theorem kind_mem_numericKinds_iff {v : Value} :
    v.kind ∈ numericKinds ↔ ∃ n : Number, v = n.toValue := by
  constructor
  · intro h
    cases v with
    | int32 n => exact ⟨.int32 n, rfl⟩
    | int64 n => exact ⟨.int64 n, rfl⟩
    | double x => exact ⟨.double x, rfl⟩
    | _ => simp [Value.kind, numericKinds] at h
  · rintro ⟨n, rfl⟩
    cases n <;> simp [Number.toValue, Value.kind, numericKinds]

/-- What a document says about an integer: nothing, or the number of an `int` or a `long`. -/
def HoldsLong (d : Document) (name : String) : Option Int64 → Prop
  | none => d.get? name = none
  | some n => d.get? name = some (.int64 n) ∨
      ∃ m : Int32, d.get? name = some (.int32 m) ∧ n.toInt = m.toInt

/-- The integer of an `int` is widened. -/
theorem ofValue?_int64_eq_some_iff {v : Value} {n : Int64} :
    FieldType.ofValue? v = some n ↔ v = .int64 n ∨ ∃ m : Int32, v = .int32 m ∧ n.toInt = m.toInt := by
  cases v with
  | int32 m =>
    have hread : FieldType.ofValue? (.int32 m) = some m.toInt64 := rfl
    rw [hread, Option.some.injEq, ← Int64.toInt_inj, Int32.toInt_toInt64]
    simp [eq_comm]
  | _ => simp [FieldType.ofValue?]

/-- A long that may be missing is read as the one that the document holds. -/
theorem readOptional_int64_eq_ok_iff {field : Field Int64} {x : Option Int64} :
    d.readOptional field = .ok x ↔ d.HoldsLong field.name x := by
  rw [readOptional_eq_ok_iff]
  simp only [ofValue?_int64_eq_some_iff]
  cases x with
  | none => simp [HoldsLong]
  | some n =>
    simp only [HoldsLong, Option.some.injEq, reduceCtorEq, and_false, or_false]
    constructor
    · rintro ⟨v, _, hget, rfl | ⟨m, rfl, hm⟩, rfl⟩
      · exact .inl hget
      · exact .inr ⟨m, hget, hm⟩
    · rintro (hget | ⟨m, hget, hm⟩)
      · exact ⟨_, n, hget, .inl rfl, rfl⟩
      · exact ⟨_, n, hget, .inr ⟨m, rfl, hm⟩, rfl⟩

/-- A document holds a number where it holds nothing or a value of a numeric kind. -/
theorem exists_holdsNumber {name : String} (default : Number)
    (h : ∀ v, d.get? name = some v → v.kind ∈ numericKinds) :
    ∃ n, d.HoldsNumber name default n := by
  cases hget : d.get? name with
  | none => exact ⟨default, .inr ⟨hget, rfl⟩⟩
  | some v =>
    obtain ⟨n, rfl⟩ := kind_mem_numericKinds_iff.1 (h v hget)
    exact ⟨n, .inl hget⟩

/-- A document holds a flag where it holds nothing, a boolean or a value of a numeric kind. -/
theorem exists_holdsFlag {name : String} (default : Bool)
    (h : ∀ v, d.get? name = some v → v.kind ∈ .boolean :: numericKinds) :
    ∃ b, d.HoldsFlag name default b := by
  cases hget : d.get? name with
  | none => exact ⟨default, .inr (.inr ⟨hget, rfl⟩)⟩
  | some v =>
    rcases List.mem_cons.1 (h v hget) with hboolean | hnumber
    · cases v with
      | boolean b => exact ⟨b, .inl hget⟩
      | _ => cases hboolean
    · obtain ⟨n, rfl⟩ := kind_mem_numericKinds_iff.1 hnumber
      exact ⟨!n.isZero, .inr (.inl ⟨n, hget, rfl⟩)⟩

/-- Which number a document holds depends on the value of its name only. -/
theorem HoldsNumber.congr {name : String} {default n : Number} (h : d.HoldsNumber name default n)
    (hget : e.get? name = d.get? name) : e.HoldsNumber name default n := by
  rw [HoldsNumber, hget]
  exact h

/-- Which flag a document holds depends on the value of its name only. -/
theorem HoldsFlag.congr {name : String} {default b : Bool} (h : d.HoldsFlag name default b)
    (hget : e.get? name = d.get? name) : e.HoldsFlag name default b := by
  rw [HoldsFlag, hget]
  exact h

/-- A document holds one number under a name. -/
theorem HoldsNumber.unique {name : String} {default m n : Number}
    (hm : d.HoldsNumber name default m) (hn : d.HoldsNumber name default n) : m = n := by
  have hread : d.readOr ⟨name⟩ default = .ok m := readOr_number_eq_ok_iff.2 hm
  rw [readOr_number_eq_ok_iff.2 hn] at hread
  exact (Except.ok.inj hread).symm

/-- A document holds one flag under a name. -/
theorem HoldsFlag.unique {name : String} {default b c : Bool}
    (hb : d.HoldsFlag name default b) (hc : d.HoldsFlag name default c) : b = c := by
  have hread : d.readFlag ⟨name⟩ default = .ok b := readFlag_eq_ok_iff.2 hb
  rw [readFlag_eq_ok_iff.2 hc] at hread
  exact (Except.ok.inj hread).symm

/-- A document that may be missing is read from a document only. -/
theorem readOptional_document_eq_ok_iff {field : Field Document} {x : Option Document} :
    d.readOptional field = .ok x ↔ d.get? field.name = x.map Value.document := by
  have hexact : FieldType.Exact Document := BasicType.exact (t := .document) nofun nofun
  rw [readOptional_eq_ok_iff]
  cases x with
  | none => simp
  | some fields => simp [hexact _ _, FieldType.toValue]

/-! ### What is refused -/

/-- The error says that a field holds a value of the wrong kind. -/
def WrongKind (d : Document) (name : String) (expected : Kind) (e : ProtocolError) : Prop :=
  ∃ v, d.get? name = some v ∧ e = .wrongKind name expected v.kind

/-- A value of the wrong kind is a mismatch of types. -/
theorem WrongKind.code_eq {name : String} {expected : Kind} {error : ProtocolError}
    (h : d.WrongKind name expected error) : error.code = .typeMismatch := by
  obtain ⟨v, -, rfl⟩ := h
  rfl

/-- The field is there and its value is not read; the error says which kind was asked for and which
    was found. -/
def Refuses (d : Document) (field : Field α) (error : ProtocolError) : Prop :=
  ∃ v, d.get? field.name = some v ∧ (FieldType.ofValue? v : Option α) = none ∧
    error = .wrongKind field.name (FieldType.kind α) v.kind

/-- A field is refused with an error about the kind of its value. -/
theorem Refuses.wrongKind {field : Field α} {error : ProtocolError} (h : d.Refuses field error) :
    d.WrongKind field.name (FieldType.kind α) error := by
  obtain ⟨v, hv, -, herror⟩ := h
  exact ⟨v, hv, herror⟩

/-- A value that its type does not read is refused with both kinds. -/
theorem convert_eq_error_iff {name : String} {v : Value} {error : ProtocolError} :
    (convert name v : Checked α) = .error error ↔ (FieldType.ofValue? v : Option α) = none ∧
      error = .wrongKind name (FieldType.kind α) v.kind := by
  unfold convert
  cases (FieldType.ofValue? v : Option α) <;> simp [eq_comm]

/-- A field that may be missing is refused for its value only. -/
theorem readOptional_eq_error_iff {field : Field α} {error : ProtocolError} :
    d.readOptional field = .error error ↔ d.Refuses field error := by
  unfold readOptional Refuses
  cases d.get? field.name with
  | none => simp
  | some v =>
    dsimp only
    rw [map_eq_error_iff, convert_eq_error_iff]
    simp

/-- A field with a default is refused for its value only. -/
theorem readOr_eq_error_iff {field : Field α} {default : α} {error : ProtocolError} :
    d.readOr field default = .error error ↔ d.Refuses field error := by
  rw [readOr, map_eq_error_iff, readOptional_eq_error_iff]

/-- A field that has to be there is refused as one that may be missing, or for being missing. -/
theorem read_eq_error_iff {field : Field α} {error : ProtocolError} :
    d.read field = .error error ↔
      d.get? field.name = none ∧ error = .noSuchKey field.name ∨ d.Refuses field error := by
  rw [read, value]
  unfold Refuses
  cases d.get? field.name with
  | none => simp [bind, Except.bind, eq_comm]
  | some v =>
    dsimp only
    rw [ok_bind, convert_eq_error_iff]
    simp

/-- A field that has to be there and is missing is refused as such. -/
theorem read_of_not_mem (field : Field α) (h : field.name ∉ d.keys) :
    d.read field = .error (.noSuchKey field.name) :=
  read_eq_error_iff.2 (.inl ⟨(get?_eq_none_iff _ _).2 h, rfl⟩)

/-- A value of the wrong kind is refused with the kind asked for and its own. -/
theorem read_of_ofValue?_eq_none {field : Field α} {v : Value} (hd : d.get? field.name = some v)
    (hv : (FieldType.ofValue? v : Option α) = none) :
    d.read field = .error (.wrongKind field.name (FieldType.kind α) v.kind) :=
  read_eq_error_iff.2 (.inr ⟨v, hd, hv, rfl⟩)

/-- A field is refused because it is missing or because of its kind. -/
theorem errorsIn_read (d : Document) (field : Field α) :
    ErrorsIn (fun e => e = .noSuchKey field.name ∨ d.WrongKind field.name (FieldType.kind α) e)
      (d.read field) :=
  fun _ h => (read_eq_error_iff.1 h).imp And.right Refuses.wrongKind

/-- A field that is there is refused for its kind only. -/
theorem errorsIn_read_of_mem (field : Field α) (h : field.name ∈ d.keys) :
    ErrorsIn (d.WrongKind field.name (FieldType.kind α)) (d.read field) := by
  intro error herror
  rcases read_eq_error_iff.1 herror with ⟨hnone, -⟩ | hrefuses
  · exact absurd h ((get?_eq_none_iff _ _).1 hnone)
  · exact hrefuses.wrongKind

/-- A field that may be missing is refused for the kind of its value only. -/
theorem errorsIn_readOptional (d : Document) (field : Field α) :
    ErrorsIn (d.WrongKind field.name (FieldType.kind α)) (d.readOptional field) :=
  fun _ h => (readOptional_eq_error_iff.1 h).wrongKind

/-- A field with a default is refused for the kind of its value only. -/
theorem errorsIn_readOr (d : Document) (field : Field α) (default : α) :
    ErrorsIn (d.WrongKind field.name (FieldType.kind α)) (d.readOr field default) :=
  fun _ h => (readOr_eq_error_iff.1 h).wrongKind

/-- A flag is refused for the kind of its value only. -/
theorem errorsIn_readFlag (d : Document) (field : Field Bool) (default : Bool) :
    ErrorsIn (d.WrongKind field.name .boolean) (d.readFlag field default) := by
  unfold readFlag
  split
  · exact errorsIn_ok _
  · exact errorsIn_ok _
  · next v hv =>
    split
    · exact errorsIn_ok _
    · exact errorsIn_error ⟨_, hv, rfl⟩

/-! ### Names that are not allowed -/

/-- What the refusal of a name says. -/
def unexpectedText (context : String) (allowed : List String) (key : String) : String :=
  context ++ ": unexpected field '" ++ key ++ "', only \x7b" ++ ", ".intercalate allowed ++
    "\x7d are allowed"

/-- The refusal of a name that is not allowed. -/
def unexpectedField (context : String) (allowed : List String) (key : String) : ProtocolError :=
  .failedToParse (unexpectedText context allowed key)

/-- The first name that is not allowed. -/
def firstUnexpected (d : Document) (allowed : List String) : Option String :=
  d.keys.find? fun key => !allowed.contains key

/-- A name that is not allowed decides, whatever follows. -/
theorem exists_firstUnexpected {allowed before : List String}
    (h : ∃ key ∈ before, key ∉ allowed) :
    ∃ key, ∀ (d : Document) (after : List String), d.keys = before ++ after →
      d.firstUnexpected allowed = some key := by
  have hsome : (before.find? fun key => !allowed.contains key).isSome := by
    obtain ⟨key, hmem, hkey⟩ := h
    rw [List.find?_isSome]
    exact ⟨key, hmem, by simpa using hkey⟩
  obtain ⟨key, hkey⟩ := Option.isSome_iff_exists.1 hsome
  refine ⟨key, fun d after hkeys => ?_⟩
  rw [firstUnexpected, hkeys, List.find?_append, hkey, Option.some_or]

/-- The first name that is not allowed stands after allowed ones only. -/
theorem firstUnexpected_of_forall {allowed before after : List String} {key : String}
    (hkeys : d.keys = before ++ key :: after) (h : ∀ key ∈ before, key ∈ allowed)
    (hkey : key ∉ allowed) :
    d.firstUnexpected allowed = some key := by
  have hnone : (before.find? fun key => !allowed.contains key) = none := by
    rw [List.find?_eq_none]
    intro key hmem
    simpa using h key hmem
  rw [firstUnexpected, hkeys, List.find?_append, hnone, Option.none_or]
  exact List.find?_cons_of_pos (by simpa using hkey)

/-- The first name that is not allowed, by what precedes it. -/
theorem firstUnexpected_eq_some_iff {allowed : List String} {key : String} :
    d.firstUnexpected allowed = some key ↔
      ∃ before after, d.keys = before ++ key :: after ∧ (∀ key ∈ before, key ∈ allowed) ∧
        key ∉ allowed := by
  constructor
  · intro h
    obtain ⟨hkey, before, after, hkeys, hbefore⟩ := List.find?_eq_some_iff_append.1 h
    refine ⟨before, after, hkeys, fun key hmem => ?_, by simpa using hkey⟩
    simpa using hbefore key hmem
  · rintro ⟨before, after, hkeys, hbefore, hkey⟩
    exact firstUnexpected_of_forall hkeys hbefore hkey

/-- A name that is not allowed stands in the document. -/
theorem mem_keys_of_firstUnexpected {allowed : List String} {key : String}
    (h : d.firstUnexpected allowed = some key) : key ∈ d.keys :=
  List.mem_of_find?_eq_some h

/-- The refusal is that of the first name that is not allowed. -/
theorem onlyHas_eq (context : String) (d : Document) (allowed : List String) :
    d.onlyHas context allowed =
      match d.firstUnexpected allowed with
      | none => .ok ()
      | some key => .error (unexpectedField context allowed key) := by
  unfold onlyHas firstUnexpected
  cases d.keys.find? fun key => !allowed.contains key <;> rfl

/-- Nothing is refused when all names are allowed. -/
theorem onlyHas_eq_ok_iff {context : String} {allowed : List String} {u : Unit} :
    d.onlyHas context allowed = .ok u ↔ ∀ key ∈ d.keys, key ∈ allowed := by
  rw [onlyHas_eq, firstUnexpected]
  cases hfirst : d.keys.find? fun key => !allowed.contains key with
  | none =>
    refine iff_of_true rfl fun key hkey => ?_
    simpa using List.find?_eq_none.1 hfirst key hkey
  | some key =>
    have hkey : key ∉ allowed := by simpa using List.find?_some hfirst
    exact iff_of_false nofun fun h => hkey (h key (List.mem_of_find?_eq_some hfirst))

/-- The first name that is not allowed is refused. -/
theorem onlyHas_eq_error_iff {context : String} {allowed : List String} {error : ProtocolError} :
    d.onlyHas context allowed = .error error ↔
      ∃ key, d.firstUnexpected allowed = some key ∧ error = unexpectedField context allowed key := by
  rw [onlyHas_eq]
  cases d.firstUnexpected allowed <;> simp [eq_comm]

/-- A refusal begins with the place of the document. -/
theorem prefix_unexpectedText (context : String) (allowed : List String) (key : String) :
    context.toList <+: (unexpectedText context allowed key).toList := by
  unfold unexpectedText
  simp only [String.toList_append, List.append_assoc]
  exact List.prefix_append _ _

/-- Refusals of different names have different texts. -/
theorem unexpectedText_inj {context : String} {allowed : List String} {key other : String}
    (h : unexpectedText context allowed key = unexpectedText context allowed other) :
    key = other := by
  unfold unexpectedText at h
  rw [String.append_left_inj, String.append_left_inj, String.append_left_inj,
    String.append_right_inj] at h
  exact h

end Document

end CommandWire
