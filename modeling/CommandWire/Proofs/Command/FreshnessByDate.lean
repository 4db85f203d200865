import CommandWire.Proofs.Command.Freshness
import CommandWire.Proofs.Instant
import CommandWire.Proofs.OpTime

namespace CommandWire

/-!
# Freshness by dates

A candidate may send the time of its last operation as a date.  Three ranges decide what becomes of
it: a date is any long, an instant lies in a span of years, and an operation has its seconds in a
word without a sign.

* `OpTime.Fits`, `OpTime.exists_ofInstant`, `OpTime.ofInstant_of_not_fits` — the instants of
  operations.
* `OpTime.Labels` — the time of an operation at a millisecond; times at later milliseconds are later.
* `ReplSetFresh.SentBy` — who sends a request, which is everything in it but the time.
* `ReplSetFresh.readArgument_of_date` — what becomes of a request with a date.
-/

namespace OpTime

variable {t : Instant} {o p : OpTime} {m n : Int}

/-! ### Instants of operations -/

/-- The seconds of an instant are those of an operation. -/
def Fits (t : Instant) : Prop := 0 ≤ t.seconds ∧ t.seconds < UInt32.size

/-- An instant that fits is an `OpTime`: its seconds, and its nanoseconds as the term. -/
theorem exists_ofInstant (h : Fits t) :
    ∃ o, ofInstant t = .ok o ∧ (o.secs.toNat : Int) = t.seconds ∧ o.term.toNat = t.nanos := by
  obtain ⟨hfirst, hlast⟩ := h
  -- a leap second counts up to two seconds of nanoseconds, and these fit as well.
  have hnanos : t.nanos < UInt32.size := by
    have hvalid : t.nanos < 1000000000 ∨ t.nanos < 2000000000 ∧ t.seconds % 60 = 59 := t.validNanos
    unfold UInt32.size
    omega
  have hseconds : t.seconds.toNat < UInt32.size := by omega
  refine ⟨⟨UInt32.ofNat t.seconds.toNat, UInt32.ofNat t.nanos⟩, if_pos ⟨hfirst, hlast⟩, ?_,
    UInt32.toNat_ofNat_of_lt' hnanos⟩
  show ((UInt32.ofNat t.seconds.toNat).toNat : Int) = t.seconds
  rw [UInt32.toNat_ofNat_of_lt' hseconds, Int.toNat_of_nonneg hfirst]

/-- An instant that does not fit is refused with its own text. -/
theorem ofInstant_of_not_fits (h : ¬ Fits t) :
    ofInstant t = .error
      (.badValue ("optime " ++ t.text ++ " is outside the unsigned 32-bit seconds range")) :=
  if_neg h

/-! ### Milliseconds of operations -/

/-- An operation has its seconds and, in nanoseconds, what is left of a number of milliseconds. -/
structure Labels (o : OpTime) (m : Int) : Prop where
  secs : (o.secs.toNat : Int) = m / 1000
  term : (o.term.toNat : Int) = m % 1000 * 1000000

/-- From the first millisecond of 1970 on, as long as the seconds fit a word. -/
def Accepted (m : Int) : Prop := 0 ≤ m ∧ m ≤ 4294967295999

instance (m : Int) : Decidable (Accepted m) := inferInstanceAs (Decidable (_ ∧ _))

/-- An instant of whole milliseconds fits when its milliseconds are accepted. -/
theorem fits_iff (h : Instant.ofMillis? m = some t) : Fits t ↔ Accepted m := by
  rw [Fits, (Instant.ofMillis?_eq_some_iff.1 h).1]
  unfold Accepted UInt32.size
  omega

/-- Milliseconds that are accepted have an instant. -/
theorem Accepted.inRange (h : Accepted m) : Instant.InRange m := by
  unfold Accepted at h
  unfold Instant.InRange
  omega

/-- An instant whose milliseconds are accepted gives an `OpTime` with the seconds and the rest of
    them. -/
theorem exists_labels (h : Instant.ofMillis? m = some t) (hm : Accepted m) :
    ∃ o, ofInstant t = .ok o ∧ Labels o m := by
  obtain ⟨hseconds, hnanos⟩ := Instant.ofMillis?_eq_some_iff.1 h
  obtain ⟨o, ho, hsecs, hterm⟩ := exists_ofInstant ((fits_iff h).2 hm)
  exact ⟨o, ho, hsecs.trans hseconds, by omega⟩

/-- Milliseconds of one second are told apart by the term. -/
theorem Labels.isBefore (ho : Labels o m) (hp : Labels p n) (h : m < n) : o.isBefore p := by
  obtain ⟨hosecs, hoterm⟩ := ho
  obtain ⟨hpsecs, hpterm⟩ := hp
  rw [isBefore_iff, Before, ← UInt32.toNat_inj]
  omega

end OpTime

namespace ReplSetFresh

/-! ### Requests without their times -/

/-- Who asks, and in which replica set and configuration. -/
structure Sender where
  setName : String
  who : Address
  clientId : Int32
  configVersion : Int64

variable {d : Document} {s : Sender} {m : Int64} {t : Instant} {a : Argument}

/-- What a sender asks whose last operation was at an instant. -/
def Sender.asks (s : Sender) (t : Instant) : Argument :=
  ⟨s.setName, s.who, s.clientId, s.configVersion, t⟩

/-- The fields of a request other than its time are those of a sender. -/
structure SentBy (d : Document) (s : Sender) : Prop where
  clientId : d.read clientIdField = .ok s.clientId
  setName : d.read setNameField = .ok s.setName
  who : ∃ text, d.read whoField = .ok text ∧ Address.parse text = .ok s.who
  configVersion : ∃ n, d.read configVersionField = .ok n ∧ n.toInt64 = s.configVersion

/-- When the other fields can be read, the time alone decides. -/
theorem SentBy.readArgument_eq (h : SentBy d s) :
    readArgument d = do
      let t ← d.read opTimeField
      let _ ← OpTime.ofInstant t
      return s.asks t := by
  obtain ⟨hid, hset, ⟨text, htext, hwho⟩, ⟨n, hn, hversion⟩⟩ := h
  rw [readArgument, hid, ok_bind, hset, ok_bind, htext, ok_bind, hwho, ok_bind, hn, ok_bind, hversion]
  rfl

/-! ### Requests with dates -/

/-- A date is read as its instant. -/
theorem read_opTimeField_of_date (hd : d.get? opTimeField.name = some (.dateTime m))
    (ht : Instant.ofMillis? m.toInt = some t) : d.read opTimeField = .ok t :=
  Document.read_eq_ok_iff.2 ⟨_, hd, ht⟩

/-- A date without an instant is refused for its kind, which is the one that was asked for. -/
theorem read_opTimeField_of_no_instant (hd : d.get? opTimeField.name = some (.dateTime m))
    (ht : Instant.ofMillis? m.toInt = none) :
    d.read opTimeField = .error (.wrongKind opTimeField.name .dateTime .dateTime) :=
  Document.read_of_ofValue?_eq_none hd ht

/-- A date of an operation is accepted. -/
theorem readArgument_of_accepted (hs : SentBy d s)
    (hd : d.get? opTimeField.name = some (.dateTime m)) (hm : OpTime.Accepted m.toInt) :
    ∃ t, Instant.ofMillis? m.toInt = some t ∧ readArgument d = .ok (s.asks t) := by
  obtain ⟨t, ht⟩ := Instant.exists_ofMillis?_iff.2 hm.inRange
  obtain ⟨o, ho, -⟩ := OpTime.exists_labels ht hm
  refine ⟨t, ht, ?_⟩
  rw [hs.readArgument_eq, read_opTimeField_of_date hd ht, ok_bind, ho]
  rfl

/-- A date with an instant that is not one of an operation is refused for its value. -/
theorem readArgument_of_not_accepted (hs : SentBy d s)
    (hd : d.get? opTimeField.name = some (.dateTime m)) (hm : ¬ OpTime.Accepted m.toInt)
    (hrange : Instant.InRange m.toInt) :
    ∃ t, Instant.ofMillis? m.toInt = some t ∧ readArgument d = .error
      (.badValue ("optime " ++ t.text ++ " is outside the unsigned 32-bit seconds range")) := by
  obtain ⟨t, ht⟩ := Instant.exists_ofMillis?_iff.2 hrange
  have hfits : ¬ OpTime.Fits t := mt (OpTime.fits_iff ht).1 hm
  refine ⟨t, ht, ?_⟩
  rw [hs.readArgument_eq, read_opTimeField_of_date hd ht, ok_bind, OpTime.ofInstant_of_not_fits hfits]
  rfl

/-- A date without an instant is refused as if it were of another kind. -/
theorem readArgument_of_not_inRange (hs : SentBy d s)
    (hd : d.get? opTimeField.name = some (.dateTime m)) (hrange : ¬ Instant.InRange m.toInt) :
    readArgument d = .error (.wrongKind opTimeField.name .dateTime .dateTime) := by
  rw [hs.readArgument_eq, read_opTimeField_of_no_instant hd (Instant.ofMillis?_eq_none_iff.2 hrange)]
  rfl

/-- The last operation of an accepted candidate is the one at its date. -/
theorem lastOpTime_of_date (hd : d.get? opTimeField.name = some (.dateTime m))
    (ha : readArgument d = .ok a) : ∃ o, a.lastOpTime = .ok o ∧ OpTime.Labels o m.toInt := by
  obtain ⟨-, -, -, -, htime, o, ho⟩ := readArgument_eq_ok_iff.1 ha
  cases ht : Instant.ofMillis? m.toInt with
  | none =>
    rw [read_opTimeField_of_no_instant hd ht] at htime
    cases htime
  | some t =>
    rw [read_opTimeField_of_date hd ht] at htime
    cases htime
    have hfits : OpTime.Fits a.opTime := by
      by_contra hnot
      rw [Argument.lastOpTime, OpTime.ofInstant_of_not_fits hnot] at ho
      cases ho
    exact OpTime.exists_labels ht ((OpTime.fits_iff ht).1 hfits)

/-- A request with a date is accepted when its milliseconds are. -/
theorem exists_readArgument_iff (hs : SentBy d s)
    (hd : d.get? opTimeField.name = some (.dateTime m)) :
    (∃ a, readArgument d = .ok a) ↔ OpTime.Accepted m.toInt := by
  constructor
  · rintro ⟨a, ha⟩
    by_contra hm
    by_cases hrange : Instant.InRange m.toInt
    · obtain ⟨t, -, hread⟩ := readArgument_of_not_accepted hs hd hm hrange
      rw [hread] at ha
      cases ha
    · rw [readArgument_of_not_inRange hs hd hrange] at ha
      cases ha
  · intro hm
    obtain ⟨t, -, hread⟩ := readArgument_of_accepted hs hd hm
    exact ⟨_, hread⟩

/-- **Requests with dates.** Let the other fields of a request be those of a sender.  With a date for
    its time it is accepted if and only if the date is one of an operation: from the first
    millisecond of 1970 on, with seconds that fit an unsigned word.  Then the sender asks with the
    instant of the date, and the last operation has the whole seconds of the date and the rest of it
    in nanoseconds, so that of two accepted dates the earlier one gives the earlier operation.  Any
    other date is refused: for its value if it has an instant, and for its kind if it has none. -/
theorem readArgument_of_date {d : Document} {s : Sender} {m : Int64} (hs : SentBy d s)
    (hd : d.get? opTimeField.name = some (.dateTime m)) :
    ((∃ a, readArgument d = .ok a) ↔ 0 ≤ m.toInt ∧ m.toInt ≤ 4294967295999) ∧
      (∀ a, readArgument d = .ok a →
        (∃ t, Instant.ofMillis? m.toInt = some t ∧ a = s.asks t) ∧
        ∃ o, a.lastOpTime = .ok o ∧ (o.secs.toNat : Int) = m.toInt / 1000 ∧
          (o.term.toNat : Int) = m.toInt % 1000 * 1000000) ∧
      (∀ (e : Document) (n : Int64) (a b : Argument) (o p : OpTime),
        e.get? opTimeField.name = some (.dateTime n) → readArgument d = .ok a →
        readArgument e = .ok b → a.lastOpTime = .ok o → b.lastOpTime = .ok p →
        m.toInt < n.toInt → o.isBefore p) ∧
      (¬ (0 ≤ m.toInt ∧ m.toInt ≤ 4294967295999) →
        -8334601228800000 ≤ m.toInt ∧ m.toInt ≤ 8210266876799999 →
        ∃ t, Instant.ofMillis? m.toInt = some t ∧ readArgument d = .error
          (.badValue ("optime " ++ t.text ++ " is outside the unsigned 32-bit seconds range"))) ∧
      (¬ (-8334601228800000 ≤ m.toInt ∧ m.toInt ≤ 8210266876799999) →
        readArgument d = .error (.wrongKind "optime" .dateTime .dateTime)) := by
  refine ⟨exists_readArgument_iff hs hd, fun a ha => ⟨?_, ?_⟩, ?_,
    readArgument_of_not_accepted hs hd, readArgument_of_not_inRange hs hd⟩
  · obtain ⟨t, ht, hread⟩ := readArgument_of_accepted hs hd ((exists_readArgument_iff hs hd).1 ⟨a, ha⟩)
    exact ⟨t, ht, Except.ok.inj (ha.symm.trans hread)⟩
  · obtain ⟨o, ho, hsecs, hterm⟩ := lastOpTime_of_date hd ha
    exact ⟨o, ho, hsecs, hterm⟩
  · intro e n a b o p he ha hb ho hp hless
    obtain ⟨o', ho', hlabels⟩ := lastOpTime_of_date hd ha
    obtain ⟨p', hp', hlabels'⟩ := lastOpTime_of_date he hb
    obtain rfl : o = o' := Except.ok.inj (ho.symm.trans ho')
    obtain rfl : p = p' := Except.ok.inj (hp.symm.trans hp')
    exact hlabels.isBefore hlabels' hless

/-- The request of a candidate of the set `rs0` with a date. -/
def datedRequest (m : Int64) : Document :=
  [("set", .string "rs0"), ("who", .string "db1:27017"), ("id", .int32 1), ("cfgver", .int32 3),
    ("optime", .dateTime m)]

/-- The dated request is sent by the sample member. -/
theorem sentBy_datedRequest (m : Int64) :
    SentBy (datedRequest m) ⟨"rs0", ⟨"db1", some 27017⟩, 1, 3⟩ :=
  ⟨rfl, rfl, ⟨_, rfl, rfl⟩, ⟨.int32 3, rfl, rfl⟩⟩

/-- The last date of an operation is accepted, the one before 1970 is refused for its value, and the
    first one without an instant for its kind. -/
theorem readArgument_of_date_ends :
    (∃ a o, readArgument (datedRequest 4294967295999) = .ok a ∧ a.lastOpTime = .ok o ∧
      o.secs.toNat = 4294967295 ∧ o.term.toNat = 999000000) ∧
      (∃ t : Instant, t.seconds = -1 ∧ readArgument (datedRequest (-1)) = .error
        (.badValue ("optime " ++ t.text ++ " is outside the unsigned 32-bit seconds range"))) ∧
      readArgument (datedRequest 8210266876800000) =
        .error (.wrongKind "optime" .dateTime .dateTime) := by
  obtain ⟨haccepted, hargument, -⟩ := readArgument_of_date (sentBy_datedRequest 4294967295999) rfl
  obtain ⟨-, -, -, hbefore, -⟩ := readArgument_of_date (sentBy_datedRequest (-1)) rfl
  obtain ⟨-, -, -, -, hafter⟩ := readArgument_of_date (sentBy_datedRequest 8210266876800000) rfl
  refine ⟨?_, ?_, hafter (by decide)⟩
  · obtain ⟨a, ha⟩ := haccepted.2 (by decide)
    obtain ⟨-, o, ho, hsecs, hterm⟩ := hargument a ha
    exact ⟨a, o, ha, ho, Int.natCast_inj.1 hsecs, Int.natCast_inj.1 hterm⟩
  · obtain ⟨t, ht, hread⟩ := hbefore (by decide) (by decide)
    exact ⟨t, (Instant.ofMillis?_eq_some_iff.1 ht).1, hread⟩

end ReplSetFresh

end CommandWire
