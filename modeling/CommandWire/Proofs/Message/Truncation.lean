import CommandWire.Proofs.Message.RoundTrip
import CommandWire.Proofs.Octets

namespace CommandWire

/-!
# Replies that are cut off

The reader of a batch notices a document that is cut in two, because the octets of a document begin
with their length.  It does not notice that documents are missing, because nothing compares what is
there with the number of documents in front.

* `Batch.items_append_part` — the documents before a part of one, and the error in its place.
* `Batch.exists_cut` — where a batch is cut: after some documents, inside the next one.
* `Reply.Noticed` — a reply that is refused or has an item in error.
* `Reply.noticed_of_not_boundary`, `Reply.documents_of_boundary` — what is read when the cut is inside
  a document, and when it is between documents.
* `Reply.noticed_truncated_iff` — a reply that is cut off is noticed unless the cut is between
  documents.
-/

namespace Batch

/-! ### Parts of documents -/

/-- **Truncation.** Documents followed by octets that begin with none: the documents are read, and
    there is one error for what is left. -/
theorem items_append_part {front : List (List UInt8)} (h : ∀ bytes ∈ front, Whole bytes)
    {part : List UInt8} (hopens : ¬ Opens part) (hpart : part ≠ []) :
    items (front.flatten ++ part) =
      front.map item ++ [.error (Fault.truncated part.length).toError] := by
  have hsplits : Splits (front.flatten ++ part) front part :=
    ⟨rfl, fun bytes hbytes => (h bytes hbytes).delimited, hopens⟩
  rw [hsplits.items_eq, remainder, if_neg hpart]

/-! ### Cuts -/

/-- Every place in the octets of some documents lies in one of the documents, after those before
    it. -/
theorem exists_cut {encoded : List (List UInt8)} {n : Nat} (h : n < encoded.flatten.length) :
    ∃ front bytes rest m, encoded = front ++ bytes :: rest ∧ n = front.flatten.length + m ∧
      m < bytes.length := by
  induction encoded generalizing n with
  | nil => cases h
  | cons bytes others ih =>
    by_cases hn : n < bytes.length
    · exact ⟨[], bytes, others, n, rfl, (Nat.zero_add n).symm, hn⟩
    · -- the place lies beyond the first document, in one of the others.
      rw [List.flatten_cons, List.length_append] at h
      obtain ⟨front, bytes', rest, m, rfl, hplace, hm⟩ := ih (n := n - bytes.length) (by omega)
      refine ⟨bytes :: front, bytes', rest, m, rfl, ?_, hm⟩
      rw [List.flatten_cons, List.length_append]
      omega

/-- A cut inside one of several pieces leaves the pieces before it whole. -/
theorem take_flatten_append {front rest : List (List UInt8)} {bytes : List UInt8} {m : Nat}
    (hm : m ≤ bytes.length) :
    (front ++ bytes :: rest).flatten.take (front.flatten.length + m) =
      front.flatten ++ bytes.take m := by
  rw [List.flatten_append, List.take_length_add_append, List.flatten_cons,
    List.take_append_of_le_length hm]

/-- Pieces are those up to one and those from it on. -/
theorem flatten_eq_append (encoded : List (List UInt8)) (k : Nat) :
    encoded.flatten = (encoded.take k).flatten ++ (encoded.drop k).flatten := by
  rw [← List.flatten_append, List.take_append_drop]

/-- The first documents of a batch are written as its first octets. -/
theorem Written.take {documents : List Document} {encoded : List (List UInt8)}
    (h : Written documents encoded) (k : Nat) : Written (documents.take k) (encoded.take k) :=
  List.forall₂_take k h

end Batch

namespace Reply

/-! ### Replies that are noticed -/

/-- A reply that is read from a body shows that something is wrong: the body is refused, or there is
    an item in error. -/
def Noticed (header : Header) (body : List UInt8) : Prop :=
  (∃ e, decode header body = .error e) ∨
    ∃ decoded items e, decode header body = .ok decoded ∧ decoded.documents = .ok items ∧
      .error e ∈ items

/-- A body that ends before its documents is not read. -/
theorem body?_of_short {body : List UInt8} (h : body.length < fixedPartSize) :
    body? body = none := by
  cases hbody : body? body with
  | none => rfl
  | some parts =>
    -- four words of 4, 8, 4 and 4 octets were taken.
    unfold body? at hbody
    simp only [Option.bind_eq_bind, Option.bind_eq_some_iff] at hbody
    obtain ⟨⟨flags, b₁⟩, hflags, ⟨cursorId, b₂⟩, hcursor, ⟨startingFrom, b₃⟩, hstart,
      ⟨count, b₄⟩, hcount, -⟩ := hbody
    have h₁ : body.length = b₁.length + 4 := Octets.length_of_takeInt32? hflags
    have h₂ : b₁.length = b₂.length + 8 := Octets.length_of_takeInt64? hcursor
    have h₃ : b₂.length = b₃.length + 4 := Octets.length_of_takeInt32? hstart
    have h₄ : b₃.length = b₄.length + 4 := Octets.length_of_takeInt32? hcount
    rw [fixedPartSize] at h
    omega

/-- That a body ends before its documents is noticed. -/
theorem noticed_of_short {header : Header} {body : List UInt8}
    (h : body.length < fixedPartSize) : Noticed header body := by
  refine .inl ?_
  unfold decode
  split
  · exact ⟨_, rfl⟩
  · rw [body?_of_short h]
    exact ⟨_, rfl⟩

/-- The documents after the fixed part decide whether a reply is noticed. -/
theorem noticed_fixedPart_iff (r : Reply) {header : Header} (count : Nat) (content : List UInt8)
    (h : header.opCode = .reply) :
    Noticed header (r.fixedPart count ++ content) ↔ ∃ e, .error e ∈ Batch.items content := by
  have hdecode := decode_body r count content h
  constructor
  · rintro (⟨e, he⟩ | ⟨decoded, items, e, hdecoded, hitems, he⟩)
    · rw [hdecode] at he
      cases he
    · rw [hdecode] at hdecoded
      cases hdecoded
      have hsource : Batch.items content = items := Except.ok.inj hitems
      exact ⟨e, hsource ▸ he⟩
  · rintro ⟨e, he⟩
    exact .inr ⟨_, _, e, hdecode, rfl, he⟩

/-! ### Replies that are cut off -/

/-- The places between the documents of a body, the one before the first document among them. -/
def Boundary (encoded : List (List UInt8)) (n : Nat) : Prop :=
  ∃ k < encoded.length, n = fixedPartSize + (encoded.take k).flatten.length

/-- A cut behind the fixed part leaves it whole. -/
theorem take_body (r : Reply) (count : Nat) (content : List UInt8) (n : Nat) :
    (r.fixedPart count ++ content).take (fixedPartSize + n) =
      r.fixedPart count ++ content.take n := by
  rw [← length_fixedPart r count, List.take_length_add_append]

/-- A cut between documents leaves whole ones. -/
theorem take_body_boundary (r : Reply) (count : Nat) (encoded : List (List UInt8)) (k : Nat) :
    (r.fixedPart count ++ encoded.flatten).take
        (fixedPartSize + (encoded.take k).flatten.length) =
      r.fixedPart count ++ (encoded.take k).flatten := by
  rw [take_body, Batch.flatten_eq_append encoded k, List.take_left' rfl]

/-- **Inside a document.** A reply that is cut off there is noticed. -/
theorem noticed_of_not_boundary (r : Reply) {header : Header} {count : Nat}
    {encoded : List (List UInt8)} (hheader : header.opCode = .reply)
    (hwhole : ∀ bytes ∈ encoded, Batch.Whole bytes) {n : Nat}
    (hn : n < (r.fixedPart count ++ encoded.flatten).length) (h : ¬ Boundary encoded n) :
    Noticed header ((r.fixedPart count ++ encoded.flatten).take n) := by
  by_cases hshort : n < fixedPartSize
  · apply noticed_of_short
    rw [List.length_take]
    omega
  · obtain ⟨place, rfl⟩ := Nat.exists_eq_add_of_le (Nat.le_of_not_lt hshort)
    rw [List.length_append, length_fixedPart] at hn
    obtain ⟨front, bytes, rest, m, rfl, rfl, hm⟩ :=
      Batch.exists_cut (Nat.lt_of_add_lt_add_left hn)
    have hpart : bytes.take m ≠ [] := by
      intro hnil
      -- nothing of the next document is there, and so the place is between documents.
      have hzero : m = 0 := by
        have hlength := congrArg List.length hnil
        rw [List.length_take, List.length_nil] at hlength
        omega
      refine h ⟨front.length, ?_, ?_⟩
      · rw [List.length_append, List.length_cons]
        omega
      · rw [List.take_left' rfl, hzero, Nat.add_zero]
    have hfront : ∀ b ∈ front, Batch.Whole b := fun b hb => hwhole b (List.mem_append_left _ hb)
    have hbytes : Batch.Whole bytes := hwhole bytes (List.mem_append_right _ List.mem_cons_self)
    rw [take_body, Batch.take_flatten_append (Nat.le_of_lt hm), noticed_fixedPart_iff r _ _ hheader,
      Batch.items_append_part hfront (hbytes.delimited.not_opens_take hm) hpart]
    exact ⟨_, List.mem_append_right _ (List.mem_singleton_self _)⟩

/-- **Between documents.** A reply that is cut off there is read as one with fewer documents, none of
    them in error. -/
theorem documents_of_boundary (r : Reply) {header : Header} {count : Nat}
    {documents : List Document} {encoded : List (List UInt8)} (hheader : header.opCode = .reply)
    (hwritten : Batch.Written documents encoded)
    (hdistinct : ∀ d ∈ documents, Document.Distinct d)
    (hfits : Bson.FitsWord encoded.flatten.length) (k : Nat) :
    ∃ decoded, decode header (r.fixedPart count ++ (encoded.take k).flatten) = .ok decoded ∧
      decoded.documents = .ok ((documents.take k).map fun d => .ok (Document.sortOptions d)) := by
  have hfront : Bson.FitsWord (encoded.take k).flatten.length :=
    hfits.mono (by rw [Batch.flatten_eq_append encoded k, List.length_append]; omega)
  refine ⟨_, decode_body r _ _ hheader, ?_⟩
  show Except.ok (Batch.items (encoded.take k).flatten) = _
  rw [Batch.items_flatten (hwritten.take k)
    (fun d hd => hdistinct d (List.mem_of_mem_take hd)) hfront]

/-- A boundary lies before the end of the body. -/
theorem lt_length_of_boundary (r : Reply) {count : Nat} {encoded : List (List UInt8)}
    (hwhole : ∀ bytes ∈ encoded, Batch.Whole bytes) {n : Nat} (h : Boundary encoded n) :
    n < (r.fixedPart count ++ encoded.flatten).length := by
  obtain ⟨k, hk, rfl⟩ := h
  -- the document after the place has octets of its own.
  have hpos : 0 < encoded[k].length := (hwhole _ (List.getElem_mem hk)).length_pos
  have hrest : (encoded.drop k).flatten.length =
      encoded[k].length + (encoded.drop (k + 1)).flatten.length := by
    rw [List.drop_eq_getElem_cons hk, List.flatten_cons, List.length_append]
  rw [List.length_append, length_fixedPart, Batch.flatten_eq_append encoded k, List.length_append,
    hrest]
  omega

/-- The documents of a reply and their octets, as they stand in its message. -/
structure Carries (r : Reply) (message : List UInt8) (documents : List Document)
    (encoded : List (List UInt8)) : Prop where
  documents_eq : r.documents = .ok (documents.map .ok)
  distinct : ∀ d ∈ documents, Document.Distinct d
  written : Batch.Written documents encoded
  body_eq : message.drop Header.size = r.fixedPart encoded.length ++ encoded.flatten
  fitsWord_count : Bson.FitsWord encoded.length
  fitsWord_length : Bson.FitsWord encoded.flatten.length

/-- A message that is encoded carries documents. -/
theorem exists_carries {r : Reply} {requestId : Int32} {bytes : List UInt8}
    (hdistinct : r.source.Distinct) (h : r.encode requestId = .ok bytes) :
    ∃ documents encoded, r.Carries bytes documents encoded := by
  obtain ⟨hlive, hmessage⟩ := encode_eq_ok h
  obtain ⟨documents, encoded, hitems, hwritten, hcount, hsize, hbytes⟩ := message_eq_ok hmessage
  refine ⟨documents, encoded, ?_, fun d hd => ?_, hwritten, ?_, hcount, hsize.mono ?_⟩
  · rw [hlive, hitems]
  · apply hdistinct.of_mem
    rw [hitems]
    exact List.mem_map_of_mem hd
  · rw [hbytes, List.drop_left' (Header.length_encode _)]
  · rw [hbytes, List.length_append, List.length_append]
    omega

/-- **Truncation.** The body of a reply that is cut off anywhere is noticed if and only if the cut is
    not between documents.  There it is read as a reply without errors, and with fewer documents
    than the body says that it carries. -/
theorem noticed_truncated_iff (r : Reply) (requestId : Int32) {bytes : List UInt8}
    (hdistinct : r.source.Distinct) (h : r.encode requestId = .ok bytes) :
    ∃ (documents : List Document) (encoded : List (List UInt8)),
      r.Carries bytes documents encoded ∧
      ∀ header : Header, header.opCode = .reply →
        (∀ n < (bytes.drop Header.size).length,
          Noticed header ((bytes.drop Header.size).take n) ↔ ¬ Boundary encoded n) ∧
        ∀ k < documents.length, ∃ cut decoded,
          cut = (bytes.drop Header.size).take (fixedPartSize + (encoded.take k).flatten.length) ∧
          cut ≠ bytes.drop Header.size ∧ decode header cut = .ok decoded ∧
          decoded.documents = .ok ((documents.take k).map fun d => .ok (Document.sortOptions d)) ∧
          announcedCount cut = documents.length := by
  obtain ⟨documents, encoded, hcarries⟩ := exists_carries hdistinct h
  have hwhole := hcarries.written.whole hcarries.fitsWord_length
  have hlength : documents.length = encoded.length := hcarries.written.length_eq
  have hbetween : ∀ header : Header, header.opCode = .reply → ∀ k, ∃ decoded,
      decode header (r.fixedPart encoded.length ++ (encoded.take k).flatten) = .ok decoded ∧
        decoded.documents = .ok ((documents.take k).map fun d => .ok (Document.sortOptions d)) :=
    fun header hheader k => documents_of_boundary r hheader hcarries.written hcarries.distinct
      hcarries.fitsWord_length k
  refine ⟨documents, encoded, hcarries, fun header hheader => ⟨fun n hn => ?_, fun k hk => ?_⟩⟩
  · rw [hcarries.body_eq] at hn ⊢
    constructor
    · rintro hnoticed ⟨k, -, rfl⟩
      rw [take_body_boundary] at hnoticed
      obtain ⟨decoded, hdecoded, hitems⟩ := hbetween header hheader k
      rcases hnoticed with ⟨e, he⟩ | ⟨decoded', items, e, hdecoded', hitems', he⟩
      · rw [hdecoded] at he
        cases he
      · rw [hdecoded] at hdecoded'
        cases hdecoded'
        rw [hitems] at hitems'
        cases hitems'
        obtain ⟨d, -, hd⟩ := List.mem_map.1 he
        cases hd
    · exact noticed_of_not_boundary r hheader hwhole hn
  · rw [hlength] at hk
    obtain ⟨decoded, hdecoded, hitems⟩ := hbetween header hheader k
    have hcut := take_body_boundary r encoded.length encoded k
    refine ⟨_, decoded, rfl, ?_, ?_, hitems, ?_⟩
    · intro hwholeBody
      have hlt : _ < (r.fixedPart encoded.length ++ encoded.flatten).length :=
        lt_length_of_boundary r hwhole ⟨k, hk, rfl⟩
      have hsame := congrArg List.length hwholeBody
      rw [hcarries.body_eq, List.length_take] at hsame
      omega
    · rw [hcarries.body_eq, hcut, hdecoded]
    · rw [hcarries.body_eq, hcut, announcedCount_body r _ hcarries.fitsWord_count, hlength]

/-- `Reply.sample` is noticed when its fixed part is cut, and not when all its documents are. -/
theorem noticed_truncated_sample :
    sample.source.Distinct ∧ sample.encode 100 = .ok sampleOctets ∧
      ∀ header : Header, header.opCode = .reply →
        Noticed header ((sampleOctets.drop Header.size).take 19) ∧
          ¬ Noticed header ((sampleOctets.drop Header.size).take 20) := by
  refine ⟨distinct_sample, encode_sample, fun header hheader => ?_⟩
  obtain ⟨documents, encoded, hcarries, hnoticed⟩ :=
    noticed_truncated_iff sample 100 distinct_sample encode_sample
  obtain ⟨hiff, -⟩ := hnoticed header hheader
  have hsize : (sampleOctets.drop Header.size).length = 55 := rfl
  have hpos : 0 < encoded.length := by
    have hcount := congrArg List.length (Except.ok.inj hcarries.documents_eq)
    rw [List.length_map, hcarries.written.length_eq] at hcount
    exact hcount ▸ Nat.zero_lt_two
  constructor
  · refine (hiff 19 (by rw [hsize]; decide)).2 ?_
    rintro ⟨k, -, hk⟩
    rw [fixedPartSize] at hk
    omega
  · intro h
    exact (hiff 20 (by rw [hsize]; decide)).1 h ⟨0, hpos, rfl⟩

/-- A reply that has lost all its documents is not noticed, whatever it says in front. -/
theorem not_forall_noticed :
    ¬ ∀ (r : Reply) (requestId : Int32) (bytes : List UInt8) (header : Header) (n : Nat),
      r.source.Distinct → r.encode requestId = .ok bytes → header.opCode = .reply →
      n < (bytes.drop Header.size).length → Noticed header ((bytes.drop Header.size).take n) := by
  intro h
  have hnoticed := h sample 100 sampleOctets (sample.headerOf 100 71) 20 distinct_sample
    encode_sample rfl (by decide)
  have hcut : (sampleOctets.drop Header.size).take 20 = sample.fixedPart 2 ++ [] := by cbv
  rw [hcut, noticed_fixedPart_iff sample 2 [] rfl] at hnoticed
  obtain ⟨e, he⟩ := hnoticed
  cases he

end Reply

end CommandWire
