import CommandWire.Message.Reply
import CommandWire.Proofs.Bson.Decoded
import CommandWire.Proofs.Message.Batch
import CommandWire.Proofs.Message.Header

namespace CommandWire

/-!
# Replies on the wire

A reply that can be encoded reads back as what it was: its header, its envelope and its documents.

* `DocumentSource.Distinct` — a source of documents in which no name stands twice.
* `Reply.encode_eq_ok`, `Reply.message_eq_ok` — the octets of a reply, and that their counts fit the
  words in which they are written.
* `Reply.decode_body` — the body is read back.
* `Reply.decode_encode_reply` — the whole message is.
-/

/-! ### Sources -/

/-- No name stands twice in a document that the source supplies.  Documents that are read from a
    batch are like that anyway. -/
def DocumentSource.Distinct : DocumentSource → Prop
  | .list documents => ∀ d ∈ documents, Document.Distinct d
  | .single d => Document.Distinct d
  | .batch _ => True

/-- A document among the items of a batch was read from octets. -/
theorem Batch.decode_of_mem_items {bytes : List UInt8} {d : Document}
    (h : .ok d ∈ Batch.items bytes) : ∃ chunk, Bson.decode chunk = some d := by
  unfold Batch.items at h
  rw [List.mem_append] at h
  rcases h with h | h
  · obtain ⟨chunk, -, hchunk⟩ := List.mem_map.1 h
    unfold Batch.item at hchunk
    split at hchunk
    · next hdecode =>
      cases hchunk
      exact ⟨chunk, hdecode⟩
    · cases hchunk
  · split at h
    · cases h
    · rw [List.mem_singleton] at h
      cases h

/-- The documents of a batch were read from octets, and so their options are sorted. -/
theorem Batch.map_sortOptions_of_items {content : List UInt8} {documents : List Document}
    (h : Batch.items content = documents.map .ok) :
    documents.map (fun d => (.ok (Document.sortOptions d) : Checked Document)) =
      documents.map .ok := by
  apply List.map_congr_left
  intro d hd
  have hmem : .ok d ∈ Batch.items content := by
    rw [h]
    exact List.mem_map_of_mem hd
  obtain ⟨chunk, hchunk⟩ := Batch.decode_of_mem_items hmem
  rw [Bson.sortOptions_decode hchunk]

/-- A document of a source without repeated names has none. -/
theorem DocumentSource.Distinct.of_mem {source : DocumentSource} (h : source.Distinct)
    {d : Document} (hd : .ok d ∈ source.items) : Document.Distinct d := by
  cases source with
  | list documents =>
    obtain ⟨d', hmem, hd'⟩ := List.mem_map.1 hd
    cases hd'
    exact h d hmem
  | single d' =>
    rw [DocumentSource.items, List.mem_singleton] at hd
    cases hd
    exact h
  | batch bytes =>
    obtain ⟨chunk, hchunk⟩ := Batch.decode_of_mem_items hd
    exact Bson.decode_distinct hchunk

namespace Reply

/-! ### The octets of a reply -/

/-- An item that can be written is a document. -/
theorem documentOctets_eq_ok {item : Checked Document} {bytes : List UInt8}
    (h : documentOctets item = .ok bytes) :
    ∃ d, item = .ok d ∧ Bson.encode d = some bytes := by
  cases item with
  | error e => cases h
  | ok d =>
    refine ⟨d, rfl, ?_⟩
    simp only [documentOctets, bind, Except.bind] at h
    split at h
    · next hencode =>
      cases h
      exact hencode
    · cases h

/-- Items that can all be written are documents. -/
theorem mapM_documentOctets_eq_ok {items : List (Checked Document)} {encoded : List (List UInt8)}
    (h : items.mapM documentOctets = .ok encoded) :
    ∃ documents, items = documents.map .ok ∧ Batch.Written documents encoded := by
  induction items generalizing encoded with
  | nil =>
    cases h
    exact ⟨[], rfl, .nil⟩
  | cons item items ih =>
    rw [List.mapM_cons] at h
    cases hitem : documentOctets item with
    | error e => rw [hitem] at h; cases h
    | ok bytes =>
      cases hitems : items.mapM documentOctets with
      | error e => rw [hitem, hitems] at h; cases h
      | ok others =>
        rw [hitem, hitems] at h
        cases h
        obtain ⟨d, rfl, hencode⟩ := documentOctets_eq_ok hitem
        obtain ⟨documents, rfl, hwritten⟩ := ih hitems
        exact ⟨d :: documents, rfl, .cons hencode hwritten⟩

/-- What stands before the documents is always of one length. -/
theorem length_fixedPart (r : Reply) (count : Nat) :
    (r.fixedPart count).length = fixedPartSize := by
  simp [fixedPart, fixedPartSize]

/-- The header that announces `length` octets. -/
def headerOf (r : Reply) (requestId : Int32) (length : Nat) : Header :=
  ⟨Int32.ofNat length, requestId, r.responseTo, .reply⟩

/-- **Messages.** All items of a message are documents, and the counts of its documents and of its
    octets fit the words in which they are written. -/
theorem message_eq_ok {r : Reply} {requestId : Int32} {items : List (Checked Document)}
    {bytes : List UInt8} (h : r.message requestId items = .ok bytes) :
    ∃ documents encoded, items = documents.map .ok ∧ Batch.Written documents encoded ∧
      Bson.FitsWord encoded.length ∧ Bson.FitsWord bytes.length ∧
      bytes = (r.headerOf requestId bytes.length).encode ++
        (r.fixedPart encoded.length ++ encoded.flatten) := by
  unfold message at h
  cases hitems : items.mapM documentOctets with
  | error e => rw [hitems] at h; cases h
  | ok encoded =>
    obtain ⟨documents, hdocuments, hwritten⟩ := mapM_documentOctets_eq_ok hitems
    rw [hitems] at h
    simp only [bind, Except.bind] at h
    split at h
    · cases h
    next hcount =>
    split at h
    · cases h
    next hsize =>
    -- past both checks there is nothing left but to lay the parts side by side.
    have hbytes := (Except.ok.inj h).symm
    have hlength : bytes.length = Header.size + fixedPartSize + encoded.flatten.length := by
      rw [hbytes, List.length_append, List.length_append, Header.length_encode, length_fixedPart]
    rw [← hlength] at hsize
    refine ⟨documents, encoded, hdocuments, hwritten, Nat.le_of_not_lt hcount,
      Nat.le_of_not_lt hsize, ?_⟩
    rw [← List.append_assoc, headerOf, hlength]
    exact hbytes

/-- A reply that is encoded is live. -/
theorem encode_eq_ok {r : Reply} {requestId : Int32} {bytes : List UInt8}
    (h : r.encode requestId = .ok bytes) :
    r.documents = .ok r.source.items ∧ r.message requestId r.source.items = .ok bytes := by
  unfold encode at h
  cases hdocuments : r.documents with
  | error e => rw [hdocuments] at h; cases h
  | ok items =>
    have hitems : items = r.source.items := by
      unfold documents at hdocuments
      split at hdocuments
      · cases hdocuments
      · exact (Except.ok.inj hdocuments).symm
    subst hitems
    rw [hdocuments] at h
    refine ⟨rfl, ?_⟩
    cases hmessage : r.message requestId r.source.items with
    | error e =>
      simp only [bind, Except.bind, hmessage] at h
      cases h
    | ok message =>
      simp only [bind, Except.bind, hmessage] at h
      cases h
      rfl

/-! ### The body -/

/-- How many documents a body says that it carries. -/
def announcedCount (body : List UInt8) : Int :=
  (LittleEndian.toInt32 ((body.drop 16).take 4)).toInt

/-- The number of documents that a body announces is the one that was written. -/
theorem announcedCount_body (r : Reply) {count : Nat} (content : List UInt8)
    (h : Bson.FitsWord count) : announcedCount (r.fixedPart count ++ content) = count := by
  -- flags, cursor and first position take 16 octets.
  have hfront : (LittleEndian.ofInt32 r.flags.bits ++ LittleEndian.ofInt64 r.cursorId ++
      LittleEndian.ofInt32 r.startingFrom).length = 16 := by simp
  rw [announcedCount, fixedPart, List.append_assoc, List.drop_left' hfront,
    List.take_left' (LittleEndian.length_ofInt32 _), LittleEndian.toInt32_ofInt32, h.toInt]

/-- A body is read as the flags, the cursor, the first position and the octets that follow. -/
theorem body?_fixedPart (r : Reply) (count : Nat) (content : List UInt8) :
    body? (r.fixedPart count ++ content) =
      some (r.flags, r.cursorId, r.startingFrom, content) := by
  simp only [body?, fixedPart, List.append_assoc, Octets.takeInt32?_append,
    Octets.takeInt64?_append, ReplyFlags.ofBits_bits, Option.bind_eq_bind, Option.bind_some]

/-- The reply that is read from a header and the body of `r`. -/
def received (r : Reply) (header : Header) (content : List UInt8) : Reply :=
  (plain .fresh header.responseTo r.cursorId r.startingFrom (.batch content)).withFlags r.flags

/-- **Bodies.** The envelope is read back from the body. -/
theorem decode_body (r : Reply) {header : Header} (count : Nat) (content : List UInt8)
    (h : header.opCode = .reply) :
    decode header (r.fixedPart count ++ content) = .ok (r.received header content) := by
  have hreply : ¬ header.opCode ≠ .reply := not_not_intro h
  simp only [decode, if_neg hreply, body?_fixedPart]
  rfl

/-! ### The whole message -/

/-- **Round trip.** A reply that is encoded is read back from its octets.  The header says what it
    answers and how long the message is, the body how many documents there are, the envelope is the
    same, and so are the documents: all of them in order, none added and none in error, with the
    options of their regular expressions sorted.  Those of a batch are sorted already. -/
theorem decode_encode_reply (r : Reply) (requestId : Int32) {bytes : List UInt8}
    (hdistinct : r.source.Distinct) (h : r.encode requestId = .ok bytes) :
    ∃ (documents : List Document) (header : Header) (decoded : Reply),
      r.documents = .ok (documents.map .ok) ∧
      (Header.decode bytes = .ok header ∧ header.opCode = .reply ∧ header.requestId = requestId ∧
        header.responseTo = r.responseTo ∧ header.messageLength.toInt = bytes.length) ∧
      announcedCount (bytes.drop Header.size) = documents.length ∧
      (decode header (bytes.drop Header.size) = .ok decoded ∧
        decoded.responseTo = r.responseTo ∧ decoded.cursorId = r.cursorId ∧
        decoded.startingFrom = r.startingFrom ∧ decoded.flags = r.flags) ∧
      decoded.documents = .ok (documents.map fun d => .ok (Document.sortOptions d)) ∧
      ∀ content, r.source = .batch content → decoded.documents = r.documents := by
  obtain ⟨hlive, hmessage⟩ := encode_eq_ok h
  obtain ⟨documents, encoded, hitems, hwritten, hcount, hsize, hbytes⟩ := message_eq_ok hmessage
  have hbody : bytes.drop Header.size = r.fixedPart encoded.length ++ encoded.flatten := by
    rw [hbytes, List.drop_left' (Header.length_encode _)]
  -- the documents take less than the whole message, whose length fits.
  have hcontent : Bson.FitsWord encoded.flatten.length := by
    refine hsize.mono ?_
    rw [hbytes, List.length_append, List.length_append]
    omega
  have hnames : ∀ d ∈ documents, Document.Distinct d := by
    intro d hd
    apply hdistinct.of_mem
    rw [hitems]
    exact List.mem_map_of_mem hd
  refine ⟨documents, r.headerOf requestId bytes.length,
    r.received (r.headerOf requestId bytes.length) encoded.flatten, ?_, ⟨?_, rfl, rfl, rfl, ?_⟩,
    ?_, ⟨?_, rfl, rfl, rfl, rfl⟩, ?_, ?_⟩
  · rw [hlive, hitems]
  · have hheader := Header.decode_encode_append (r.headerOf requestId bytes.length)
      (r.fixedPart encoded.length ++ encoded.flatten)
    rw [← hbytes] at hheader
    exact hheader
  · exact hsize.toInt
  · rw [hbody, announcedCount_body r _ hcount, List.Forall₂.length_eq hwritten]
  · rw [hbody, decode_body r _ _ rfl]
  · show Except.ok (Batch.items encoded.flatten) = _
    rw [Batch.items_flatten hwritten hnames hcontent]
  · intro content hsource
    show Except.ok (Batch.items encoded.flatten) = _
    rw [Batch.items_flatten hwritten hnames hcontent, hlive, hitems]
    rw [hsource] at hitems
    rw [Batch.map_sortOptions_of_items hitems]

/-- A reply with two flags and two documents. -/
def sample : Reply :=
  (plain .fresh 11 77 5 (.list [[("a", .int32 1)],
    [("b", .string "two"), ("c", .regex "x" "i")]])).withFlags ⟨true, false, true, false⟩

/-- The octets of `Reply.sample` as message 100. -/
def sampleOctets : List UInt8 :=
  [71, 0, 0, 0, 100, 0, 0, 0, 11, 0, 0, 0, 1, 0, 0, 0,
    5, 0, 0, 0, 77, 0, 0, 0, 0, 0, 0, 0, 5, 0, 0, 0, 2, 0, 0, 0,
    12, 0, 0, 0, 16, 97, 0, 1, 0, 0, 0, 0,
    23, 0, 0, 0, 2, 98, 0, 4, 0, 0, 0, 116, 119, 111, 0, 11, 99, 0, 120, 0, 105, 0, 0]

/-- The sample's documents have no name twice. -/
theorem distinct_sample : sample.source.Distinct := by
  simp [sample, plain, withFlags, DocumentSource.Distinct, Document.Distinct, Value.Distinct]

/-- The octets of the sample. -/
theorem encode_sample : sample.encode 100 = .ok sampleOctets := by
  cbv

/-- The reply `Reply.sample` is read back from its octets. -/
theorem decode_encode_sample :
    sample.source.Distinct ∧ sample.encode 100 = .ok sampleOctets ∧
      ∃ (documents : List Document) (header : Header) (decoded : Reply),
        sample.documents = .ok (documents.map .ok) ∧
        (Header.decode sampleOctets = .ok header ∧ header.opCode = .reply ∧
          header.requestId = 100 ∧ header.responseTo = sample.responseTo ∧
          header.messageLength.toInt = sampleOctets.length) ∧
        announcedCount (sampleOctets.drop Header.size) = documents.length ∧
        (decode header (sampleOctets.drop Header.size) = .ok decoded ∧
          decoded.responseTo = sample.responseTo ∧ decoded.cursorId = sample.cursorId ∧
          decoded.startingFrom = sample.startingFrom ∧ decoded.flags = sample.flags) ∧
        decoded.documents = .ok (documents.map fun d => .ok (Document.sortOptions d)) ∧
        ∀ content, sample.source = .batch content → decoded.documents = sample.documents :=
  ⟨distinct_sample, encode_sample, decode_encode_reply sample 100 distinct_sample encode_sample⟩

end Reply

end CommandWire
