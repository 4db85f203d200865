import CommandWire.Message.Query
import CommandWire.Proofs.Bson.Decoded
import CommandWire.Proofs.Message.Batch
import CommandWire.Proofs.Namespace

namespace CommandWire.Query

/-!
# Queries on the wire

The body of a query is read part by part, and each part says itself where it ends: a word by its
width, the name by the zero octet after it, a document by the length in front of it.  Hence every
reader leaves exactly what was written after its part.

* `takeNumber_append`, `takeFullName_append`, `takeDocument_append`, `readSelector_octets` — a part is
  read back, whatever follows.
* `Sendable` — a query whose name can be told apart and whose documents are restored.
* `encode?_eq_some` — the octets of such a query.
* `decode_bodyOctets` — the parts are read back one after another.
* `decode_encode_query` — it is read back from them.
-/

/-! ### Parts of a body -/

/-- A word in front is read as its part. -/
theorem takeNumber_append (part : Part) (n : Int32) (rest : List UInt8) :
    takeNumber part (LittleEndian.ofInt32 n ++ rest) = .ok (n, rest) := by
  rw [takeNumber, Octets.takeInt32?_append]

/-- **Names.** A name without a NUL is read up to the zero octet after it, whatever follows. -/
theorem takeFullName_append {name : String} (h : '\x00' ∉ name.toList) (rest : List UInt8) :
    takeFullName (Utf8.encode name ++ 0 :: rest) = .ok (name, rest) := by
  have hzero : (0 : UInt8) ∉ Utf8.encode name := fun hmem => h ((Utf8.zero_mem_encode_iff name).1 hmem)
  simp only [takeFullName, Octets.takeUntilNul?_append rest hzero, Utf8.decode_encode]

/-- **Documents.** A document is read from octets that begin with their own length, whatever
    follows. -/
theorem takeDocument_append (part : Part) {octets : List UInt8} {d : Document}
    (hwhole : Batch.Whole octets) (hdecode : Bson.decode octets = some d) (rest : List UInt8) :
    takeDocument part (octets ++ rest) = .ok (d, rest) := by
  obtain ⟨content, rfl, hfits⟩ := hwhole
  rw [Bson.length_frame] at hfits
  simp only [takeDocument, Bson.takeInt32?_frame content rest hfits, if_neg hfits.not_lt_zero,
    if_neg hfits.not_lt_five, Bson.take?_frame content rest hfits, hdecode]

/-- A selector is read back, or nothing where there is none. -/
theorem readSelector_octets {selector : Option Document} {octets : List UInt8}
    (hencode : selectorOctets? selector = some octets)
    (hdecode : ∀ d, selector = some d → Bson.decode octets = some d) :
    readSelector octets = .ok selector := by
  cases selector with
  | none =>
    cases hencode
    rfl
  | some d =>
    have hd := hdecode d rfl
    have hwhole : Batch.Whole octets := Batch.whole_of_encode hencode (Bson.fitsWord_of_decode hd)
    have htake := takeDocument_append .selector hwhole hd []
    rw [List.append_nil] at htake
    -- a document takes five octets or more, and so something is left.
    have hleft : octets.isEmpty = false := by
      rw [List.isEmpty_eq_false_iff, ← List.length_pos_iff]
      exact hwhole.length_pos
    rw [readSelector, hleft, htake]
    rfl

/-! ### Queries -/

/-- A query whose name can be told apart and holds no NUL, and whose documents are restored. -/
structure Sendable (q : Query) : Prop where
  splittable : q.ns.Splittable
  database_noNul : '\x00' ∉ q.ns.database.toList
  collection_noNul : ∀ collection, q.ns.collection = some collection → '\x00' ∉ collection.toList
  query : Bson.Restorable q.query
  selector : ∀ d, q.selector = some d → Bson.Restorable d

/-- A name that can be sent holds no NUL. -/
theorem Sendable.fullName_noNul {q : Query} (h : q.Sendable) : '\x00' ∉ q.fullName.toList := by
  unfold fullName Namespace.text
  split
  · next collection hcollection =>
    rw [Namespace.toList_join, List.mem_append, List.mem_cons, not_or, not_or]
    exact ⟨h.database_noNul, by decide, h.collection_noNul collection hcollection⟩
  · exact h.database_noNul

/-- The octets of the selector of a query, from which it is read back. -/
theorem Sendable.exists_selectorOctets {q : Query} (h : q.Sendable) :
    ∃ octets, selectorOctets? q.selector = some octets ∧
      ∀ d, q.selector = some d → Bson.decode octets = some d := by
  cases hselector : q.selector with
  | none => exact ⟨[], rfl, nofun⟩
  | some d =>
    obtain ⟨octets, hencode, hdecode⟩ := h.selector d hselector
    refine ⟨octets, hencode, ?_⟩
    rintro _ ⟨⟩
    exact hdecode

/-- The octets of a body from those of its parts: words, a name before a zero octet, and one or two
    documents. -/
def bodyOctets (flags : Int32) (name : String) (skip count : Int32)
    (query selector : List UInt8) : List UInt8 :=
  LittleEndian.ofInt32 flags ++ Utf8.encode name ++ [0] ++ LittleEndian.ofInt32 skip ++
    LittleEndian.ofInt32 count ++ query ++ selector

/-- A query is written as its parts side by side. -/
theorem encode?_eq_some {q : Query} {query selector : List UInt8}
    (hname : '\x00' ∉ q.fullName.toList) (hquery : Bson.encode q.query = some query)
    (hselector : selectorOctets? q.selector = some selector) :
    q.encode? = some (bodyOctets q.flags q.fullName q.skip q.count query selector) := by
  have hzero : (0 : UInt8) ∉ Utf8.encode q.fullName :=
    fun hmem => hname ((Utf8.zero_mem_encode_iff q.fullName).1 hmem)
  have hoctets : Bson.nameOctets? q.fullName = some (Utf8.encode q.fullName ++ [0]) := if_neg hzero
  simp only [encode?, hoctets, hquery, hselector, Option.bind_eq_bind, Option.bind_some,
    bodyOctets, List.append_assoc]

/-- **Bodies.** A query is read from its parts side by side, each of which can be read. -/
theorem decode_bodyOctets {q : Query} {query selector : List UInt8} (hns : q.ns.Splittable)
    (hname : '\x00' ∉ q.fullName.toList) (hquery : Batch.Whole query)
    (hdecode : Bson.decode query = some q.query)
    (hselector : readSelector selector = .ok q.selector) :
    decode (bodyOctets q.flags q.fullName q.skip q.count query selector) = .ok q := by
  have hparse : Namespace.parse q.fullName = .ok q.ns := Namespace.parse_text hns
  -- every part is followed by those after it, which its reader leaves.
  have hbody : bodyOctets q.flags q.fullName q.skip q.count query selector =
      LittleEndian.ofInt32 q.flags ++ (Utf8.encode q.fullName ++ 0 ::
        (LittleEndian.ofInt32 q.skip ++ (LittleEndian.ofInt32 q.count ++ (query ++ selector)))) := by
    simp only [bodyOctets, List.append_assoc, List.cons_append, List.nil_append]
  rw [hbody]
  simp only [decode, takeNumber_append, takeFullName_append hname, hparse,
    takeDocument_append .query hquery hdecode, hselector, bind, Except.bind]
  rfl

/-- **Round trip.** A sendable query is read back from its body: flags, name up to a zero octet, how
    many documents to skip and to return, query and selector, side by side.  The name that is sent is
    that of the query, and the query is a command if and only if its collection is `$cmd`. -/
theorem decode_encode_query (q : Query) (h : q.Sendable) :
    ∃ (name : String) (body query selector : List UInt8),
      (name = match q.ns.collection with
        | none => q.ns.database
        | some collection => q.ns.database ++ "." ++ collection) ∧
      Bson.encode q.query = some query ∧ selectorOctets? q.selector = some selector ∧
      q.encode? = some body ∧ body = bodyOctets q.flags name q.skip q.count query selector ∧
      decode body = .ok q ∧ q.fullName = name ∧
      (q.isCommand = true ↔ q.ns.collection = some "$cmd") := by
  obtain ⟨query, hquery, hdecode⟩ := h.query
  obtain ⟨selector, hselector, hrestored⟩ := h.exists_selectorOctets
  have hwhole : Batch.Whole query :=
    Batch.whole_of_encode hquery (Bson.fitsWord_of_decode hdecode)
  have hread : readSelector selector = .ok q.selector := readSelector_octets hselector hrestored
  refine ⟨q.fullName, _, query, selector, ?_, hquery, hselector,
    encode?_eq_some h.fullName_noNul hquery hselector, rfl,
    decode_bodyOctets h.splittable h.fullName_noNul hwhole hdecode hread, rfl, ?_⟩
  · unfold fullName Namespace.text
    cases q.ns.collection <;> rfl
  · rw [isCommand, beq_iff_eq]
    rfl

/-- A command with a selector, sent to a database whose letters take two octets each. -/
def sample : Query :=
  ⟨4, ⟨"бд", some "$cmd"⟩, 0, -1, [("find", .string "x"), ("filter", .regex "x" "i")],
    some [("name", .boolean true)]⟩

/-- The sample query can be sent. -/
theorem sendable_sample : sample.Sendable where
  splittable := ⟨by decide, by simp [sample]⟩
  database_noNul := by decide
  collection_noNul := by simp [sample]
  query := by
    rw [Bson.restorable_iff]
    refine ⟨?_, ?_, _, by cbv, by cbv⟩
    · simp [sample, Document.Distinct, Value.Distinct]
    · cbv
  selector := by
    rintro _ ⟨⟩
    rw [Bson.restorable_iff]
    refine ⟨?_, ?_, _, by cbv, by cbv⟩
    · simp [Document.Distinct, Value.Distinct]
    · cbv

/-- The query `Query.sample` is read back from its body. -/
theorem decode_encode_sampleQuery :
    sample.Sendable ∧
      ∃ (name : String) (body query selector : List UInt8),
        (name = match sample.ns.collection with
          | none => sample.ns.database
          | some collection => sample.ns.database ++ "." ++ collection) ∧
        Bson.encode sample.query = some query ∧ selectorOctets? sample.selector = some selector ∧
        sample.encode? = some body ∧
        body = bodyOctets sample.flags name sample.skip sample.count query selector ∧
        decode body = .ok sample ∧ sample.fullName = name ∧
        (sample.isCommand = true ↔ sample.ns.collection = some "$cmd") :=
  ⟨sendable_sample, decode_encode_query sample sendable_sample⟩

end CommandWire.Query
