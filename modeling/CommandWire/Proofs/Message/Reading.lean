import CommandWire.Proofs.Message.Batch

namespace CommandWire.Batch

/-!
# Reading a batch

A batch is read from any octets whatever, one item at a time.  A segment that is no document costs one
item and nothing else, because the next one begins where its length says; octets that begin with no
segment end the reading.

* `Reading.Yields` — the items that a reading gives before it gives nothing more.
* `Reading.next_segment`, `Reading.next_remainder` — one step.
* `Splits.yields` — a whole reading, by induction on the segments.
* `yields_segments` — every reading ends, and what it gives.
* `not_forall_yields_documents` — documents that were written need not come back as they were.
-/

namespace Reading

/-- Asked again and again, a reading gives these items and then nothing.  It is left as it is when it
    gives nothing, and so it gives nothing ever after. -/
inductive Yields : Reading → List (Checked Document) → Prop where
  | nothing {r : Reading} (h : r.next = (none, r)) : Yields r []
  | item {r after : Reading} {x : Checked Document} {others : List (Checked Document)}
      (h : r.next = (some x, after)) (hothers : Yields after others) : Yields r (x :: others)

/-- A reading gives one sequence of items. -/
theorem Yields.unique {r : Reading} {given given' : List (Checked Document)} (h : Yields r given)
    (h' : Yields r given') : given = given' := by
  induction h generalizing given' with
  | nothing hnext =>
    cases h' with
    | nothing => rfl
    | item hnext' _ =>
      rw [hnext] at hnext'
      cases hnext'
  | item hnext _ ih =>
    cases h' with
    | nothing hnext' =>
      rw [hnext] at hnext'
      cases hnext'
    | item hnext' hothers' =>
      rw [hnext] at hnext'
      cases hnext'
      rw [ih hothers']

/-! ### Steps -/

/-- **Segments.** A segment in front is given, and the reading goes on behind it, whether it is a
    document or not. -/
theorem next_segment {front : List UInt8} (h : Delimited front) (rest : List UInt8) :
    (start (front ++ rest)).next = (some (Batch.item front), start rest) := by
  have hempty : (front ++ rest).isEmpty = false := by
    have hfive := h.five_le
    rw [List.isEmpty_eq_false_iff, ← List.length_pos_iff, List.length_append]
    omega
  simp only [next, start, hempty, Bool.or_self, Bool.false_eq_true, if_false,
    chunk?_eq_some_iff.2 ⟨h, rfl⟩]

/-- **What is left.** Octets that begin with no segment are given as one error, which ends the
    reading. -/
theorem next_remainder {bytes : List UInt8} (h : ¬ Opens bytes) (hne : bytes ≠ []) :
    (start bytes).next = (some (.error (Fault.truncated bytes.length).toError), ⟨bytes, true⟩) := by
  have hempty : bytes.isEmpty = false := List.isEmpty_eq_false_iff.2 hne
  simp only [next, start, hempty, Bool.or_self, Bool.false_eq_true, if_false,
    chunk?_eq_none_iff.2 h]

/-- Octets that begin with no segment give one error, or nothing if there are none. -/
theorem yields_remainder {rest : List UInt8} (h : ¬ Opens rest) :
    Yields (start rest) (remainder rest) := by
  unfold remainder
  split
  next hnil =>
    rw [hnil]
    exact .nothing rfl
  next hne => exact .item (next_remainder h hne) (.nothing rfl)

end Reading

/-! ### Runs -/

/-- **Runs.** One item is given for each segment, and then what is left is. -/
theorem Splits.yields {bytes rest : List UInt8} {segments : List (List UInt8)}
    (h : Splits bytes segments rest) :
    (Reading.start bytes).Yields (segments.map item ++ remainder rest) := by
  induction segments generalizing bytes with
  | nil =>
    rw [h.eq_append]
    exact Reading.yields_remainder h.not_opens
  | cons front others ih =>
    have hdelimited := List.forall_mem_cons.1 h.delimited
    -- the reading behind the first segment is that of the batch of the others.
    have hothers : Splits (others.flatten ++ rest) others rest := ⟨rfl, hdelimited.2, h.not_opens⟩
    rw [h.eq_append, List.flatten_cons, List.append_assoc]
    exact .item (Reading.next_segment hdelimited.1 _) (ih hothers)

/-- A batch that is split gives the items of its segments and what is left, and nothing else. -/
theorem yields_start_iff {bytes rest : List UInt8} {segments : List (List UInt8)}
    (h : Splits bytes segments rest) {given : List (Checked Document)} :
    (Reading.start bytes).Yields given ↔ given = segments.map item ++ remainder rest := by
  constructor
  · intro hgiven
    exact hgiven.unique h.yields
  · rintro rfl
    exact h.yields

/-- **Reading.** Any octets are segments, each as long as it says in front, and then octets that begin
    with no length from five up to their count.  Reading them ends.  It gives one item for each
    segment, the document or an error if there is none, and then one error with the number of the
    octets that are left, if there are any, and nothing more.  If documents were written in front of
    the octets, then these documents are given before the items of the octets. -/
theorem yields_segments (bytes : List UInt8) :
    ∃ (segments : List (List UInt8)) (rest : List UInt8),
      bytes = segments.flatten ++ rest ∧ (∀ segment ∈ segments, Delimited segment) ∧ ¬ Opens rest ∧
      (∀ given, (Reading.start bytes).Yields given ↔
        given =
          (segments.map fun segment =>
            match Bson.decode segment with
            | some d => .ok d
            | none => .error (.failedToParse Bson.malformed)) ++
          if rest = [] then []
          else [.error (.failedToParse
            ("truncated document in reply batch (" ++ toString rest.length ++ " bytes left)"))]) ∧
      (Reading.start bytes).Yields (items bytes) ∧
      ∀ (documents : List Document) (encoded : List (List UInt8)),
        Written documents encoded → (∀ d ∈ documents, Document.Distinct d) →
        (∀ octets ∈ encoded, Bson.FitsWord octets.length) →
        ∀ given, (Reading.start bytes).Yields given →
          (Reading.start (encoded.flatten ++ bytes)).Yields
            ((documents.map fun d => .ok (Document.sortOptions d)) ++ given) := by
  have hsplits := splits_chunks bytes
  refine ⟨_, _, hsplits.eq_append, hsplits.delimited, hsplits.not_opens,
    fun given => yields_start_iff hsplits, ?_, ?_⟩
  · rw [hsplits.items_eq]
    exact hsplits.yields
  · intro documents encoded hwritten hdistinct hfits given hgiven
    have hwhole := hwritten.forall_whole hfits
    have hboth := hsplits.append fun octets hoctets => (hwhole octets hoctets).delimited
    rw [yields_start_iff hboth, (yields_start_iff hsplits).1 hgiven,
      ← hwritten.map_item hdistinct hfits, List.map_append, List.append_assoc]

/-- A document need not be read as it was written: the options of a regular expression are sorted when
    it is encoded, so `/x/ba` comes back as `/x/ab`. -/
theorem not_forall_yields_documents :
    ¬ ∀ (documents : List Document) (encoded : List (List UInt8)) (bytes : List UInt8),
      Written documents encoded → (∀ d ∈ documents, Document.Distinct d) →
      (∀ octets ∈ encoded, Bson.FitsWord octets.length) →
      ∀ given, (Reading.start bytes).Yields given →
        (Reading.start (encoded.flatten ++ bytes)).Yields (documents.map .ok ++ given) := by
  intro h
  have hoptions : Bson.sortedOptions "ba" = "ab" := by
    simp [Bson.sortedOptions, List.mergeSort, List.MergeSort.Internal.splitInTwo]
  have hencode : Bson.encode [("r", .regex "x" "ba")] =
      some [13, 0, 0, 0, 11, 114, 0, 120, 0, 97, 98, 0, 0] := by
    rw [Bson.encode, Bson.fieldsOctets?, Bson.valueOctets?, hoptions]
    cbv
  have hwritten : Written [[("r", .regex "x" "ba")]] [_] := .cons hencode .nil
  have hdistinct : ∀ d ∈ [[("r", .regex "x" "ba")]], Document.Distinct d := by
    simp [Document.Distinct, Value.Distinct]
  have hfits : ∀ octets ∈ ([[13, 0, 0, 0, 11, 114, 0, 120, 0, 97, 98, 0, 0]] : List (List UInt8)),
      Bson.FitsWord octets.length := by
    simp [Bson.FitsWord]
  have hsame := h _ _ [] hwritten hdistinct hfits [] (.nothing rfl)
  rw [List.append_nil, List.append_nil] at hsame
  -- the one segment of the batch is read as the document with its options in order.
  have hyields := (splits_flatten (hwritten.forall_whole hfits)).yields
  rw [hwritten.map_item hdistinct hfits] at hyields
  simpa [Document.sortOptions, Value.sortOptions, hoptions, remainder] using hsame.unique hyields

-- a document, a segment that is none, another document, and two octets that are left
example : items [5, 0, 0, 0, 0, 5, 0, 0, 0, 1, 5, 0, 0, 0, 0, 9, 0] =
    [.ok [], .error Fault.malformed.toError, .ok [], .error (Fault.truncated 2).toError] := by
  decide

end CommandWire.Batch
