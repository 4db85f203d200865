import CommandWire.Proofs.Command.Argument
import CommandWire.Proofs.Field.RoundTrip
import CommandWire.Proofs.Field.Write

namespace CommandWire.IsMaster

/-!
# Replies of `isMaster` that are read back

A reply has nine fields, and for six of them its reader knows what to do without them.  What was
written is read all the same and not replaced by a default; only the time is cut to milliseconds.

* `fieldNames`, `looksAt_ofDocument` — a reply is read from nine fields and nothing else.
* `Describes`, `ofDocument_eq_ok_iff` — what a document says about a reply, field by field.
* `get?_toDocument`, `describes_toDocument` — what is written for a reply, and what that says.
* `Reply.rounded`, `rounded_of_ofDocument` — a reply whose time is a whole millisecond, as that of every
  reply is that was read.
* `roundTrip_reply` — writing and reading back.
-/

variable {d : Document} {r : Reply}

/-! ### The fields of a reply -/

/-- The names of the nine fields. -/
def fieldNames : List String :=
  [isMasterField.name, secondaryField.name, setNameField.name, maxDocumentSizeField.name,
    maxMessageSizeField.name, maxBatchSizeField.name, localTimeField.name, minWireVersionField.name,
    maxWireVersionField.name]

/-- A reply is read from nine fields and nothing else. -/
theorem looksAt_ofDocument : LooksAt fieldNames Reply.ofDocument := by
  intro d e hagree
  have hget : ∀ key ∈ fieldNames, d.get? key = e.get? key := hagree
  simp only [fieldNames, List.forall_mem_cons] at hget
  obtain ⟨hmaster, hsecondary, hset, hdocument, hmessage, hbatch, htime, hmin, hmax, -⟩ := hget
  rw [Reply.ofDocument, Reply.ofDocument, Document.read_congr _ hmaster,
    Document.readOr_congr _ _ hsecondary, Document.readOptional_congr _ hset,
    Document.readOr_congr _ _ hdocument, Document.readOr_congr _ _ hmessage,
    Document.readOr_congr _ _ hbatch, Document.read_congr _ htime, Document.readOr_congr _ _ hmin,
    Document.readOr_congr _ _ hmax]

/-- A document says about a reply what its readers find, with a default for each field that may be
    missing. -/
structure Describes (d : Document) (r : Reply) : Prop where
  isMaster : d.read isMasterField = .ok r.isMaster
  secondary : d.readOr secondaryField false = .ok r.secondary
  setName : d.readOptional setNameField = .ok r.setName
  maxDocumentSize : d.readOr maxDocumentSizeField IsMaster.maxDocumentSize = .ok r.maxDocumentSize
  maxMessageSize : d.readOr maxMessageSizeField IsMaster.maxMessageSize = .ok r.maxMessageSize
  maxBatchSize : d.readOr maxBatchSizeField IsMaster.maxBatchSize = .ok r.maxBatchSize
  localTime : d.read localTimeField = .ok r.localTime
  minWireVersion : d.readOr minWireVersionField IsMaster.minWireVersion = .ok r.minWireVersion
  maxWireVersion : d.readOr maxWireVersionField IsMaster.minWireVersion = .ok r.maxWireVersion

/-- A reply is read from the documents that describe it, and from no others. -/
theorem ofDocument_eq_ok_iff : Reply.ofDocument d = .ok r ↔ Describes d r := by
  constructor
  · intro h
    obtain ⟨isMaster, hmaster, h⟩ := bind_eq_ok.1 h
    obtain ⟨secondary, hsecondary, h⟩ := bind_eq_ok.1 h
    obtain ⟨setName, hset, h⟩ := bind_eq_ok.1 h
    obtain ⟨maxDocumentSize, hdocument, h⟩ := bind_eq_ok.1 h
    obtain ⟨maxMessageSize, hmessage, h⟩ := bind_eq_ok.1 h
    obtain ⟨maxBatchSize, hbatch, h⟩ := bind_eq_ok.1 h
    obtain ⟨localTime, htime, h⟩ := bind_eq_ok.1 h
    obtain ⟨minWireVersion, hmin, h⟩ := bind_eq_ok.1 h
    obtain ⟨maxWireVersion, hmax, h⟩ := bind_eq_ok.1 h
    cases h
    exact ⟨hmaster, hsecondary, hset, hdocument, hmessage, hbatch, htime, hmin, hmax⟩
  · rintro ⟨hmaster, hsecondary, hset, hdocument, hmessage, hbatch, htime, hmin, hmax⟩
    rw [Reply.ofDocument, hmaster, ok_bind, hsecondary, ok_bind, hset, ok_bind, hdocument, ok_bind,
      hmessage, ok_bind, hbatch, ok_bind, htime, ok_bind, hmin, ok_bind, hmax]
    rfl

/-! ### Replies that were written -/

/-- Each field has the content that it was given, and the name of the set is there if there is one. -/
theorem get?_toDocument (r : Reply) :
    r.toDocument.get? isMasterField.name = some (.boolean r.isMaster) ∧
    r.toDocument.get? secondaryField.name = some (.boolean r.secondary) ∧
    r.toDocument.get? setNameField.name = r.setName.map .string ∧
    r.toDocument.get? maxDocumentSizeField.name = some (.int32 r.maxDocumentSize) ∧
    r.toDocument.get? maxMessageSizeField.name = some (.int32 r.maxMessageSize) ∧
    r.toDocument.get? maxBatchSizeField.name = some (.int32 r.maxBatchSize) ∧
    r.toDocument.get? localTimeField.name = some (FieldType.toValue r.localTime) ∧
    r.toDocument.get? minWireVersionField.name = some (.int32 r.minWireVersion) ∧
    r.toDocument.get? maxWireVersionField.name = some (.int32 r.maxWireVersion) := by
  unfold Reply.toDocument
  refine ⟨?_, ?_, ?_, ?_, ?_, ?_, ?_, ?_, ?_⟩ <;>
    simp (disch := decide) only [Document.get?_put_of_ne, Document.get?_put_self,
      Document.get?_putOptional_of_ne, Document.get?_putOptional_self]
  case refine_3 =>
    show (r.setName.map Value.string).or none = _
    rw [Option.or_none]
  all_goals rfl

/-- The reply with its time cut to whole milliseconds. -/
def Reply.rounded (r : Reply) : Reply := { r with localTime := r.localTime.wholeMillis }

/-- **Writing.** What is written for a reply says all about it, but for what is less than a millisecond
    of its time. -/
theorem describes_toDocument (h : r.localTime.inLeapSecond = false) :
    Describes r.toDocument r.rounded := by
  obtain ⟨hmaster, hsecondary, hset, hdocument, hmessage, hbatch, htime, hmin, hmax⟩ :=
    get?_toDocument r
  refine ⟨Document.read_eq_ok_iff.2 ⟨_, hmaster, rfl⟩,
    Document.readOr_eq_ok_iff.2 (.inl ⟨_, hsecondary, rfl⟩), ?_,
    Document.readOr_eq_ok_iff.2 (.inl ⟨_, hdocument, rfl⟩),
    Document.readOr_eq_ok_iff.2 (.inl ⟨_, hmessage, rfl⟩),
    Document.readOr_eq_ok_iff.2 (.inl ⟨_, hbatch, rfl⟩),
    Document.read_eq_ok_iff.2 ⟨_, htime, Instant.ofValue?_toValue h⟩,
    Document.readOr_eq_ok_iff.2 (.inl ⟨_, hmin, rfl⟩),
    Document.readOr_eq_ok_iff.2 (.inl ⟨_, hmax, rfl⟩)⟩
  show r.toDocument.readOptional setNameField = .ok r.setName
  rw [Document.readOptional_eq_ok_iff]
  cases hname : r.setName with
  | none =>
    rw [hname] at hset
    exact .inr ⟨hset, rfl⟩
  | some name =>
    rw [hname] at hset
    exact .inl ⟨_, name, hset, rfl, rfl⟩

/-- **Reading.** The time of a reply that was read is a whole millisecond outside leap seconds. -/
theorem rounded_of_ofDocument (h : Reply.ofDocument d = .ok r) :
    r.localTime.inLeapSecond = false ∧ r.rounded = r := by
  obtain ⟨v, -, hv⟩ := Document.read_eq_ok_iff.1 (ofDocument_eq_ok_iff.1 h).localTime
  obtain ⟨m, hm⟩ := Instant.exists_millis_of_ofValue? hv
  refine ⟨Instant.inLeapSecond_of_ofMillis? hm, ?_⟩
  rw [Reply.rounded, Instant.wholeMillis_of_ofMillis? hm]

/-! ### Writing and reading back -/

/-- The command reads its result as a reply is read. -/
theorem readResult_eq_ok_iff : command.readResult d = .ok r ↔ Reply.ofDocument d = .ok r := by
  show (Reply.ofDocument d).toCoded = .ok r ↔ _
  cases Reply.ofDocument d <;> simp [Checked.toCoded, Except.mapError]

/-- **Round trip.** A reply whose time is not in a leap second is written, and read back with its time
    cut to whole milliseconds.  Writing and reading it once more changes nothing, nor does it change a
    reply that was read from any document, and names that are not those of the nine fields make no
    difference to what is read. -/
theorem roundTrip_reply (r : Reply) (h : r.localTime.inLeapSecond = false) :
    ∃ d, command.writeResult r = .ok d ∧ command.readResult d = .ok r.rounded ∧
      (∃ e, command.writeResult r.rounded = .ok e ∧ command.readResult e = .ok r.rounded) ∧
      (∀ e, command.readResult e = .ok r → r.rounded = r) ∧
      ∀ (e : Document) (key : String) (v : Value), key ∉ fieldNames →
        command.readResult (e.insert key v) = command.readResult e := by
  have hread : Reply.ofDocument r.toDocument = .ok r.rounded :=
    ofDocument_eq_ok_iff.2 (describes_toDocument h)
  obtain ⟨hagain, hsame⟩ := rounded_of_ofDocument hread
  refine ⟨r.toDocument, rfl, readResult_eq_ok_iff.2 hread, ⟨r.rounded.toDocument, rfl, ?_⟩, ?_, ?_⟩
  · rw [readResult_eq_ok_iff, ofDocument_eq_ok_iff]
    have hdescribes : Describes r.rounded.toDocument r.rounded.rounded := describes_toDocument hagain
    rw [hsame] at hdescribes
    exact hdescribes
  · intro e he
    exact (rounded_of_ofDocument (readResult_eq_ok_iff.1 he)).2
  · intro e key v hkey
    show (Reply.ofDocument (e.insert key v)).toCoded = (Reply.ofDocument e).toCoded
    rw [looksAt_ofDocument _ _ (Document.agreeOn_insert e v hkey)]

/-- A member whose clock shows a nanosecond before 1970 is read back with the millisecond before it. -/
theorem roundTrip_reply_before1970 :
    let clock : Instant := ⟨-1, 999999999, by decide, by decide, .inl (by decide)⟩
    let read : Instant := ⟨-1, 999000000, by decide, by decide, .inl (by decide)⟩
    clock.inLeapSecond = false ∧
      ∃ d, command.writeResult (.ofMember clock "rs0" false) = .ok d ∧
        command.readResult d = .ok (.ofMember read "rs0" false) := by
  intro clock read
  have hclock : clock.inLeapSecond = false := by decide
  have hmillis : clock.wholeMillis = read := by decide
  have hrounded : (Reply.ofMember clock "rs0" false).rounded = .ofMember read "rs0" false :=
    congrArg (Reply.ofMember · "rs0" false) hmillis
  obtain ⟨d, hwrite, hread, -⟩ := roundTrip_reply (.ofMember clock "rs0" false) hclock
  exact ⟨hclock, d, hwrite, hrounded ▸ hread⟩

end CommandWire.IsMaster
