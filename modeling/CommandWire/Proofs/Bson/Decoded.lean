import CommandWire.Proofs.Bson.RoundTrip

namespace CommandWire.Bson

/-!
# What reading gives

Whatever octets are read, the names of the document are distinct at every depth and the options of
its regular expressions are in ascending order.  Hence writing and reading it once more changes
nothing.

* `Settled` — a value that writing and reading leave as it is.
* `readValue_settled`, `readFields_settled` — every value that is read is settled.
* `decode_distinct`, `sortOptions_decode` — and so is every document.
* `exists_frame_of_decode` — every document is read from one frame.
* `Restorable`, `restorable_iff` — the documents that are read back as they are.
-/

/-- A value that writing and reading leave as it is. -/
structure Settled (v : Value) : Prop where
  distinct : v.Distinct
  sorted : v.sortOptions = v

/-- Settled values under distinct names make a settled document. -/
theorem settled_document {d : Document} (hnodup : d.keys.Nodup) (h : ∀ p ∈ d, Settled p.2) :
    Settled (.document d) where
  distinct := (Document.distinct_iff d).2 ⟨hnodup, fun p hp => (h p hp).distinct⟩
  sorted := by
    rw [Value.sortOptions, Document.sortOptions_eq_self fun p hp => (h p hp).sorted]

/-- The document that some pairs make up is settled if their values are. -/
theorem settled_ofPairs {pairs : List (String × Value)} (h : ∀ p ∈ pairs, Settled p.2) :
    Settled (.document (Document.ofPairs pairs)) :=
  settled_document (Document.nodup_keys_ofPairs pairs) (Document.forall_ofPairs h)

/-- Octets that are read are settled: there is nothing in them to sort or to repeat. -/
theorem takeBinary?_settled {bytes rest : List UInt8} {v : Value}
    (h : takeBinary? bytes = some (v, rest)) : Settled v := by
  simp only [takeBinary?, Option.bind_eq_bind, Option.bind_eq_some_iff] at h
  obtain ⟨⟨length, afterLength⟩, -, h⟩ := h
  split at h
  · cases h
  next subtype afterSubtype =>
  split at h
  · cases h
  obtain ⟨⟨content, left⟩, -, h⟩ := Option.bind_eq_some_iff.1 h
  split at h
  · obtain ⟨⟨inner, data⟩, -, h⟩ := Option.bind_eq_some_iff.1 h
    split at h
    · cases h
      exact ⟨trivial, rfl⟩
    · cases h
  · cases h
    exact ⟨trivial, rfl⟩

/-- **Values.** Every value that is read is settled, if the contents of documents inside it are. -/
theorem readValue_settled {nested : List UInt8 → Option (List (String × Value))}
    (hnested : ∀ content pairs, nested content = some pairs → ∀ p ∈ pairs, Settled p.2)
    {code : UInt8} {bytes rest : List UInt8} {v : Value}
    (h : readValue nested code bytes = some (v, rest)) : Settled v := by
  unfold readValue at h
  split at h
  case h_3 => -- a document
    simp only [Option.bind_eq_bind, Option.bind_eq_some_iff, Option.some.injEq, Prod.mk.injEq] at h
    obtain ⟨⟨content, left⟩, -, pairs, hpairs, rfl, -⟩ := h
    exact settled_ofPairs (hnested content pairs hpairs)
  case h_4 => -- a sequence
    simp only [Option.bind_eq_bind, Option.bind_eq_some_iff, Option.some.injEq, Prod.mk.injEq] at h
    obtain ⟨⟨content, left⟩, -, pairs, hpairs, rfl, -⟩ := h
    have hitems : ∀ v ∈ pairs.map Prod.snd, Settled v := by
      intro v hv
      obtain ⟨p, hp, rfl⟩ := List.mem_map.1 hv
      exact hnested content pairs hpairs p hp
    refine ⟨(Value.allDistinct_iff _).2 fun v hv => (hitems v hv).distinct, ?_⟩
    rw [Value.sortOptions, Value.sortAllOptions_eq_self fun v hv => (hitems v hv).sorted]
  case h_5 => exact takeBinary?_settled h
  case h_8 => -- a boolean, by the octet that stands for it
    split at h
    · cases h
      exact ⟨trivial, rfl⟩
    · cases h
      exact ⟨trivial, rfl⟩
    · cases h
  case h_11 => -- a regular expression
    simp only [Option.bind_eq_bind, Option.bind_eq_some_iff, Option.some.injEq, Prod.mk.injEq] at h
    obtain ⟨⟨pattern, afterPattern⟩, -, ⟨options, left⟩, -, rfl, -⟩ := h
    refine ⟨trivial, ?_⟩
    rw [Value.sortOptions, sortedOptions_sortedOptions]
  case h_15 => -- code with its scope
    simp only [Option.bind_eq_bind, Option.bind_eq_some_iff] at h
    obtain ⟨⟨length, afterLength⟩, -, ⟨text, afterText⟩, -, ⟨content, left⟩, -, pairs, hpairs, h⟩ :=
      h
    split at h
    · cases h
      have hscope := settled_ofPairs (hnested content pairs hpairs)
      refine ⟨hscope.distinct, ?_⟩
      rw [Value.sortOptions, (Value.document.inj hscope.sorted)]
    · cases h
  -- every other value holds neither documents nor options
  case h_6 | h_10 | h_20 | h_21 => -- nothing is read
    cases h
    exact ⟨trivial, rfl⟩
  case h_12 | h_17 => -- two parts are read
    simp only [Option.bind_eq_bind, Option.bind_eq_some_iff, Option.some.injEq, Prod.mk.injEq] at h
    obtain ⟨-, -, -, -, rfl, -⟩ := h
    exact ⟨trivial, rfl⟩
  case h_22 => cases h
  all_goals -- one part is read
    simp only [Option.bind_eq_bind, Option.bind_eq_some_iff, Option.some.injEq, Prod.mk.injEq] at h
    obtain ⟨-, -, rfl, -⟩ := h
    exact ⟨trivial, rfl⟩

/-- **Named values.** Every value of a document's content is settled. -/
theorem readFields_settled (fuel : Nat) : ∀ content pairs, readFields fuel content = some pairs →
    ∀ p ∈ pairs, Settled p.2 := by
  induction fuel with
  | zero =>
    intro content pairs h
    cases content with
    | nil =>
      simp only [readFields, Option.some.injEq] at h
      subst h
      exact List.forall_mem_nil _
    | cons code bytes => simp only [readFields, reduceCtorEq] at h
  | succ fuel ih =>
    intro content pairs h
    -- the values that follow are read with less fuel, and so are those inside this one
    cases content with
    | nil =>
      simp only [readFields, Option.some.injEq] at h
      subst h
      exact List.forall_mem_nil _
    | cons code bytes =>
      simp only [readFields, Option.bind_eq_bind, Option.bind_eq_some_iff, Option.some.injEq] at h
      obtain ⟨⟨key, afterKey⟩, -, ⟨v, afterValue⟩, hv, others, hothers, rfl⟩ := h
      exact List.forall_mem_cons.2 ⟨readValue_settled ih hv, ih afterValue others hothers⟩

/-- **Documents.** A document that is read is settled. -/
theorem decode_settled {bytes : List UInt8} {d : Document} (h : decode bytes = some d) :
    Settled (.document d) := by
  simp only [decode, Option.bind_eq_bind, Option.bind_eq_some_iff] at h
  obtain ⟨⟨content, rest⟩, -, h⟩ := h
  split at h
  · obtain ⟨pairs, hpairs, h⟩ := Option.bind_eq_some_iff.1 h
    cases h
    exact settled_ofPairs (readFields_settled _ content pairs hpairs)
  · cases h

/-- The names of a document that is read are distinct at every depth. -/
theorem decode_distinct {bytes : List UInt8} {d : Document} (h : decode bytes = some d) :
    Document.Distinct d := (decode_settled h).distinct

/-- The options in a document that is read are sorted already. -/
theorem sortOptions_decode {bytes : List UInt8} {d : Document} (h : decode bytes = some d) :
    Document.sortOptions d = d := Value.document.inj (decode_settled h).sorted

/-! ### Documents that are restored -/

/-- A document that is read back from its octets as it is. -/
def Restorable (d : Document) : Prop := ∃ octets, encode d = some octets ∧ decode octets = some d

/-- Octets that are read as a document are one frame, and their length can be written. -/
theorem exists_frame_of_decode {bytes : List UInt8} {d : Document} (h : decode bytes = some d) :
    ∃ content, bytes = frame content ∧ FitsWord bytes.length := by
  simp only [decode, Option.bind_eq_bind, Option.bind_eq_some_iff] at h
  obtain ⟨⟨content, rest⟩, hframe, h⟩ := h
  obtain ⟨hbytes, hfits⟩ := takeFrame?_eq_some_iff.1 hframe
  split at h
  · next hrest =>
    -- nothing follows the frame.
    have hnil : rest = [] := List.isEmpty_iff.1 hrest
    rw [hnil, List.append_nil] at hbytes
    refine ⟨content, hbytes, ?_⟩
    rw [hbytes, length_frame]
    exact hfits
  · cases h

/-- What is read as a document is no longer than its length can say. -/
theorem fitsWord_of_decode {bytes : List UInt8} {d : Document} (h : decode bytes = some d) :
    FitsWord bytes.length := by
  obtain ⟨content, -, hfits⟩ := exists_frame_of_decode h
  exact hfits

/-- **Restored documents.** A document is restored if and only if it can be written, with a length
    that can be written, no name stands in it twice and its options are sorted. -/
theorem restorable_iff (d : Document) :
    Restorable d ↔ Document.Distinct d ∧ Document.sortOptions d = d ∧
      ∃ octets, encode d = some octets ∧ FitsWord octets.length := by
  constructor
  · rintro ⟨octets, hencode, hdecode⟩
    exact ⟨decode_distinct hdecode, sortOptions_decode hdecode, octets, hencode,
      fitsWord_of_decode hdecode⟩
  · rintro ⟨hdistinct, hsorted, octets, hencode, hfits⟩
    refine ⟨octets, hencode, ?_⟩
    rw [decode_encode hdistinct hencode hfits, hsorted]

end CommandWire.Bson
