import CommandWire.Command.ReplSetFresh
import CommandWire.Proofs.Field.Read
import CommandWire.Proofs.Instant

namespace CommandWire

/-!
# How fresh a candidate is

The time of the last operation reaches a member as an instant.  An instant that was read from a
timestamp is a whole second, and so the count within the second is not part of it.

* `OpTime.ofInstant_ofWord` — the instant of a timestamp, as a time of an operation, has the term
  zero.
* `OpTime.compare_whole` — times with the term zero are ordered by their seconds alone.
* `ReplSetFresh.readArgument_eq_ok_iff` — which requests are accepted, and what is read from them.
* `ReplSetFresh.readArgument_insert_timestamp` — any timestamp will do.
* `ReplSetFresh.freshness_of_timestamps` — how fresh candidates are that send timestamps, and how two
  of them compare.
-/

namespace OpTime

/-- The instant of a timestamp keeps its seconds and nothing else. -/
theorem ofInstant_ofWord (n : UInt32) : ofInstant (Instant.ofWord n) = .ok ⟨n, 0⟩ := by
  have hrange : 0 ≤ (n.toNat : Int) ∧ (n.toNat : Int) < UInt32.size := by
    have hn : n.toNat < UInt32.size := n.toNat_lt
    omega
  rw [ofInstant, ofInstantWithTerm, Instant.seconds_ofWord, Instant.nanos_ofWord, if_pos hrange,
    Int.toNat_natCast, UInt32.ofNat_toNat]
  rfl

/-- Only a timestamp without an increment survives its instant. -/
theorem eq_ofTimestamp_iff (t : Timestamp) : ⟨t.time, 0⟩ = ofTimestamp t ↔ t.increment = 0 := by
  rw [ofTimestamp, OpTime.mk.injEq]
  exact ⟨fun h => h.2.symm, fun h => ⟨rfl, h.symm⟩⟩

/-! ### Order of whole seconds -/

/-- Whole seconds are compared as numbers. -/
theorem compare_whole (m n : UInt32) : compare ⟨m, 0⟩ ⟨n, 0⟩ = Ord.compare m n := by
  show (Ord.compare m n).then (Ord.compare (0 : UInt32) 0) = _
  rw [Std.compare_self, Ordering.then_eq]

/-- Whole seconds are equally fresh only if they are the same. -/
theorem compare_whole_eq_iff (m n : UInt32) : compare ⟨m, 0⟩ ⟨n, 0⟩ = .eq ↔ m = n := by
  rw [compare_whole]
  exact Std.compare_eq_iff_eq

/-- Times with different seconds are ordered as if they had no terms. -/
theorem compare_of_secs_ne {o p : OpTime} (h : o.secs ≠ p.secs) :
    o.compare p = compare ⟨o.secs, 0⟩ ⟨p.secs, 0⟩ := by
  have hne : Ord.compare o.secs p.secs ≠ .eq := fun heq => h (Std.compare_eq_iff_eq.1 heq)
  rw [compare_whole]
  show (Ord.compare o.secs p.secs).then _ = _
  cases hcmp : Ord.compare o.secs p.secs with
  | lt => rfl
  | eq => exact absurd hcmp hne
  | gt => rfl

end OpTime

namespace ReplSetFresh

/-! ### Requests that are accepted -/

/-- **Accepted requests.** A request is accepted when its five fields can be read, the address can
    be parsed, and the instant is the time of an operation. -/
theorem readArgument_eq_ok_iff {d : Document} {a : Argument} :
    readArgument d = .ok a ↔
      d.read clientIdField = .ok a.clientId ∧ d.read setNameField = .ok a.setName ∧
      (∃ text, d.read whoField = .ok text ∧ Address.parse text = .ok a.who) ∧
      (∃ n, d.read configVersionField = .ok n ∧ n.toInt64 = a.configVersion) ∧
      d.read opTimeField = .ok a.opTime ∧ ∃ o, a.lastOpTime = .ok o := by
  unfold readArgument
  simp only [bind_eq_ok]
  constructor
  · rintro ⟨clientId, hid, setName, hset, text, htext, who, hwho, n, hn, opTime, htime, o, ho, h⟩
    cases h
    exact ⟨hid, hset, ⟨text, htext, hwho⟩, ⟨n, hn, rfl⟩, htime, o, ho⟩
  · rintro ⟨hid, hset, ⟨text, htext, hwho⟩, ⟨n, hn, hversion⟩, htime, o, ho⟩
    refine ⟨_, hid, _, hset, text, htext, _, hwho, n, hn, _, htime, o, ho, ?_⟩
    rw [hversion]
    rfl

/-- A timestamp is read as the instant of its seconds. -/
theorem read_opTimeField_of_timestamp {d : Document} {t : Timestamp}
    (h : d.get? opTimeField.name = some (.timestamp t)) :
    d.read opTimeField = .ok (Instant.ofWord t.time) :=
  Document.read_eq_ok_iff.2 ⟨_, h, Instant.ofValue?_timestamp t⟩

/-! ### Requests with timestamps -/

/-- The last operation of a candidate that sends a timestamp. -/
theorem lastOpTime_of_timestamp {d : Document} {t : Timestamp} {a : Argument}
    (ht : d.get? opTimeField.name = some (.timestamp t)) (ha : readArgument d = .ok a) :
    a.lastOpTime = .ok ⟨t.time, 0⟩ := by
  obtain ⟨-, -, -, -, htime, -⟩ := readArgument_eq_ok_iff.1 ha
  rw [read_opTimeField_of_timestamp ht] at htime
  have hinstant : Instant.ofWord t.time = a.opTime := Except.ok.inj htime
  rw [Argument.lastOpTime, ← hinstant, OpTime.ofInstant_ofWord]

/-- An accepted request is accepted with every timestamp in place of its time, and nothing else is
    read differently. -/
theorem readArgument_insert_timestamp {d : Document} {a : Argument} (ha : readArgument d = .ok a)
    (t : Timestamp) :
    readArgument (d.insert opTimeField.name (.timestamp t)) =
      .ok { a with opTime := Instant.ofWord t.time } := by
  obtain ⟨hid, hset, ⟨text, htext, hwho⟩, ⟨n, hn, hversion⟩, -, -⟩ := readArgument_eq_ok_iff.1 ha
  have hkeep : ∀ {α : Type} [FieldType α] (field : Field α), field.name ≠ opTimeField.name →
      (d.insert opTimeField.name (.timestamp t)).read field = d.read field :=
    fun field hne => Document.read_congr field (Document.get?_insert_of_ne d _ hne)
  have htime : (d.insert opTimeField.name (.timestamp t)).read opTimeField =
      .ok (Instant.ofWord t.time) :=
    read_opTimeField_of_timestamp (Document.get?_insert_self d _ _)
  rw [readArgument_eq_ok_iff, hkeep clientIdField (by decide), hkeep setNameField (by decide),
    hkeep whoField (by decide), hkeep configVersionField (by decide)]
  exact ⟨hid, hset, ⟨text, htext, hwho⟩, ⟨n, hn, hversion⟩, htime, _, OpTime.ofInstant_ofWord t.time⟩

/-- **Freshness by timestamps.** The last operation of a candidate that sends a timestamp is the
    second of the timestamp with the term zero, and so the timestamp itself only when its count
    within the second is zero.  Two candidates compare as their seconds do: as their timestamps do
    when the seconds differ, and as equally fresh when they do not. -/
theorem freshness_of_timestamps {d e : Document} {t u : Timestamp} {a b : Argument}
    (ht : d.get? opTimeField.name = some (.timestamp t)) (ha : readArgument d = .ok a)
    (hu : e.get? opTimeField.name = some (.timestamp u)) (hb : readArgument e = .ok b) :
    ∃ o p, a.lastOpTime = .ok o ∧ b.lastOpTime = .ok p ∧
      o = OpTime.ofTimestamp ⟨t.time, 0⟩ ∧
      (o = OpTime.ofTimestamp t ↔ t.increment = 0) ∧
      o.compare p = compare t.time u.time ∧
      (t.time ≠ u.time → o.compare p = (OpTime.ofTimestamp t).compare (OpTime.ofTimestamp u)) ∧
      (o.compare p = .eq ↔ t.time = u.time) := by
  refine ⟨⟨t.time, 0⟩, ⟨u.time, 0⟩, lastOpTime_of_timestamp ht ha, lastOpTime_of_timestamp hu hb,
    rfl, OpTime.eq_ofTimestamp_iff t, OpTime.compare_whole t.time u.time, fun hne => ?_,
    OpTime.compare_whole_eq_iff t.time u.time⟩
  exact (OpTime.compare_of_secs_ne (o := .ofTimestamp t) (p := .ofTimestamp u) hne).symm

/-- The request of a candidate of the set `rs0`. -/
def sampleRequest (t : Timestamp) : Document :=
  [("set", .string "rs0"), ("who", .string "db1:27017"), ("id", .int32 1), ("cfgver", .int32 3),
    ("optime", .timestamp t)]

/-- What the sample request asks. -/
def sampleArgument (t : Timestamp) : Argument :=
  ⟨"rs0", ⟨"db1", some 27017⟩, 1, 3, Instant.ofWord t.time⟩

/-- The sample request is accepted, whatever its timestamp. -/
theorem readArgument_sampleRequest (t : Timestamp) :
    readArgument (sampleRequest t) = .ok (sampleArgument t) := by
  have hwho : Address.parse "db1:27017" = .ok ⟨"db1", some 27017⟩ := rfl
  have htime : (sampleRequest t).read opTimeField = .ok (Instant.ofWord t.time) :=
    read_opTimeField_of_timestamp rfl
  exact readArgument_eq_ok_iff.2
    ⟨rfl, rfl, ⟨_, rfl, hwho⟩, ⟨.int32 3, rfl, rfl⟩, htime, _, OpTime.ofInstant_ofWord t.time⟩

/-- Two candidates in the same second, with different counts, are equally fresh. -/
theorem freshness_of_sampleRequests :
    ∃ o p, (sampleArgument ⟨50, 2⟩).lastOpTime = .ok o ∧ (sampleArgument ⟨50, 7⟩).lastOpTime = .ok p ∧
      o = OpTime.ofTimestamp ⟨50, 0⟩ ∧ o ≠ OpTime.ofTimestamp ⟨50, 2⟩ ∧ o.compare p = .eq := by
  obtain ⟨o, p, ho, hp, hvalue, hsame, -, -, hequal⟩ :=
    freshness_of_timestamps (d := sampleRequest ⟨50, 2⟩) (e := sampleRequest ⟨50, 7⟩) rfl
      (readArgument_sampleRequest ⟨50, 2⟩) rfl (readArgument_sampleRequest ⟨50, 7⟩)
  exact ⟨o, p, ho, hp, hvalue, fun h => absurd (hsame.1 h) (by decide), hequal.2 rfl⟩

/-- The count within the second is lost: the last operation of an accepted candidate need not be the
    timestamp that it sent. -/
theorem not_forall_lastOpTime_eq_ofTimestamp :
    ¬ ∀ (d : Document) (t : Timestamp) (a : Argument), d.get? opTimeField.name = some (.timestamp t) →
      readArgument d = .ok a → a.lastOpTime = .ok (OpTime.ofTimestamp t) := by
  intro h
  have hread := readArgument_sampleRequest ⟨50, 2⟩
  have hkept := h (sampleRequest ⟨50, 2⟩) ⟨50, 2⟩ (sampleArgument ⟨50, 2⟩) rfl hread
  have hlost := lastOpTime_of_timestamp (d := sampleRequest ⟨50, 2⟩) rfl hread
  have heq : OpTime.ofTimestamp ⟨50, 2⟩ = ⟨50, 0⟩ := Except.ok.inj (hkept.symm.trans hlost)
  exact absurd heq (by decide)

end ReplSetFresh

end CommandWire
