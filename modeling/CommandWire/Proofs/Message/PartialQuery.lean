import CommandWire.Proofs.Message.Remainder

namespace CommandWire.Query

/-!
# Queries that are cut off

Every part of a body says itself where it ends, and so the reader misses the end of the part that is cut
and names it.  There is one place where nothing is missed: between a query and its selector, which need
not be there.

* `takeNumber_take`, `takeFullName_take`, `takeDocument_take` — a part of a part is refused.
* `partOctets` — the parts of a body and their octets; `CutIn` says in which one a cut is.
* `exists_cutIn` — every cut is in one of them.
* `decode_of_cutIn` — the part that is cut is named.
* `decode_truncated` — what is read from the octets before a cut.
-/

/-! ### Parts that are cut off -/

/-- A word that is cut off is refused as its part. -/
theorem takeNumber_take (part : Part) (n : Int32) {m : Nat}
    (hm : m < (LittleEndian.ofInt32 n).length) :
    takeNumber part ((LittleEndian.ofInt32 n).take m) = .error (Fault.truncated part).toError := by
  have hshort : ((LittleEndian.ofInt32 n).take m).length < 4 := by
    rw [LittleEndian.length_ofInt32] at hm
    rw [List.length_take]
    omega
  rw [takeNumber, Octets.takeInt32?_of_short hshort]

/-- **Names.** The zero octet is the last one of a name, and so it is missing. -/
theorem takeFullName_take {name : String} (h : '\x00' ∉ name.toList) {m : Nat}
    (hm : m < (Utf8.encode name ++ [0]).length) :
    takeFullName ((Utf8.encode name ++ [0]).take m) =
      .error (Fault.truncated .fullName).toError := by
  rw [List.length_append, List.length_singleton, Nat.lt_succ_iff] at hm
  have hzero : (0 : UInt8) ∉ (Utf8.encode name).take m :=
    fun hmem => h ((Utf8.zero_mem_encode_iff name).1 (List.mem_of_mem_take hmem))
  rw [List.take_append_of_le_length hm, takeFullName, Octets.takeUntilNul?_of_not_mem hzero]

/-- **Documents.** The length of a document is cut, or it is more than there is. -/
theorem takeDocument_take (part : Part) {octets : List UInt8} (h : Batch.Whole octets) {m : Nat}
    (hm : m < octets.length) :
    takeDocument part (octets.take m) = .error (Fault.truncated part).toError := by
  unfold takeDocument
  split
  · rfl
  next length afterLength hword =>
    obtain ⟨n, hn, hfive, hsize⟩ := h.delimited
    have hannounced : Batch.Announces octets length :=
      (Batch.announces_iff.2 ⟨afterLength, hword⟩).trans (List.take_prefix m octets)
    obtain rfl : length = n := hannounced.unique hn
    have hzero : ¬ length < 0 := by
      rw [Int32.lt_iff_toInt_lt]
      show ¬ length.toInt < 0
      omega
    have htake : Octets.take? length.toInt.toNat (octets.take m) = none := by
      rw [Octets.take?, if_pos]
      rw [List.length_take]
      omega
    rw [if_neg hzero, if_neg ((Batch.not_lt_five_iff length).2 hfive), htake]

/-- A selector of which something is there is read, and something of it is missing. -/
theorem readSelector_take {octets : List UInt8} (h : Batch.Whole octets) {m : Nat}
    (hm : m < octets.length) (hpos : 0 < m) :
    readSelector (octets.take m) = .error (Fault.truncated .selector).toError := by
  have hleft : (octets.take m).isEmpty = false := by
    rw [List.isEmpty_eq_false_iff, ← List.length_pos_iff, List.length_take]
    omega
  rw [readSelector, hleft, takeDocument_take .selector h hm]
  rfl

/-! ### Cuts -/

/-- Octets that are all of some parts and then not all of the next one, which is `part`. -/
inductive CutIn (part : Part) : List (Part × List UInt8) → List UInt8 → Prop where
  | here {octets : List UInt8} {others : List (Part × List UInt8)} {m : Nat}
      (hm : m < octets.length) : CutIn part ((part, octets) :: others) (octets.take m)
  | later {before : Part} {octets cut : List UInt8} {others : List (Part × List UInt8)}
      (h : CutIn part others cut) : CutIn part ((before, octets) :: others) (octets ++ cut)

/-- Every cut is in one of the parts. -/
theorem exists_cutIn {parts : List (Part × List UInt8)} {n : Nat}
    (h : n < (parts.map Prod.snd).flatten.length) :
    ∃ part, CutIn part parts ((parts.map Prod.snd).flatten.take n) := by
  induction parts generalizing n with
  | nil => cases h
  | cons p others ih =>
    rw [List.map_cons, List.flatten_cons, List.length_append] at h
    rw [List.map_cons, List.flatten_cons]
    by_cases hn : n < p.2.length
    · rw [List.take_append_of_le_length (Nat.le_of_lt hn)]
      exact ⟨p.1, .here hn⟩
    · -- the cut lies beyond the first part, in one of the others.
      obtain ⟨m, rfl⟩ := Nat.exists_eq_add_of_le (Nat.le_of_not_lt hn)
      obtain ⟨part, hpart⟩ := ih (Nat.lt_of_add_lt_add_left h)
      rw [List.take_length_add_append]
      exact ⟨part, .later hpart⟩

/-- The parts of a body and their octets, in order. -/
def partOctets (q : Query) (query selector : List UInt8) : List (Part × List UInt8) :=
  [(.flags, LittleEndian.ofInt32 q.flags), (.fullName, Utf8.encode q.fullName ++ [0]),
    (.skip, LittleEndian.ofInt32 q.skip), (.count, LittleEndian.ofInt32 q.count), (.query, query),
    (.selector, selector)]

variable {q : Query} {query selector left body : List UInt8}

/-- The parts one after another are the whole body. -/
theorem flatten_partOctets :
    ((partOctets q query selector).map Prod.snd).flatten =
      bodyOctets q.flags q.fullName q.skip q.count query selector := by
  simp only [partOctets, bodyOctets, List.map_cons, List.map_nil, List.flatten_cons,
    List.flatten_nil, List.append_nil, List.append_assoc]

/-- A selector that is there begins with its own length. -/
theorem Spells.selector_whole (h : Spells q query selector left body) (hne : selector ≠ []) :
    Batch.Whole selector := by
  cases hfound : q.selector with
  | none => exact absurd (h.without_selector hfound).1 hne
  | some d => exact (h.with_selector d hfound).1

/-- **What is missing.** The part that is cut is named, unless it is a selector of which nothing is
    there. -/
theorem decode_of_cutIn (h : Spells q query selector left body) {part : Part} {cut : List UInt8}
    (hcut : CutIn part (partOctets q query selector) cut)
    (hwhole : cut ≠ bodyOctets q.flags q.fullName q.skip q.count query []) :
    decode cut = .error (Fault.truncated part).toError := by
  have hparse : Namespace.parse q.fullName = .ok q.ns := Namespace.parse_text h.splittable
  have hname : ∀ rest, takeFullName ((Utf8.encode q.fullName ++ [0]) ++ rest) =
      .ok (q.fullName, rest) := fun rest => by
    rw [List.append_assoc]
    exact takeFullName_append h.name_noNul rest
  have hquery : ∀ rest, takeDocument .query (query ++ rest) = .ok (q.query, rest) :=
    takeDocument_append .query h.query_whole h.query_eq
  -- the parts before the one that is cut are read.
  cases hcut with
  | here hm => -- the flags are cut
    simp only [decode, takeNumber_take _ _ hm, bind, Except.bind]
  | later hcut =>
  cases hcut with
  | here hm => -- the name is cut
    simp only [decode, takeNumber_append, takeFullName_take h.name_noNul hm, bind, Except.bind]
  | later hcut =>
  cases hcut with
  | here hm => -- the number of documents to skip is cut
    simp only [decode, takeNumber_append, hname, hparse, takeNumber_take _ _ hm, bind, Except.bind]
  | later hcut =>
  cases hcut with
  | here hm => -- the number of documents to return is cut
    simp only [decode, takeNumber_append, hname, hparse, takeNumber_take _ _ hm, bind, Except.bind]
  | later hcut =>
  cases hcut with
  | here hm => -- the query is cut
    simp only [decode, takeNumber_append, hname, hparse, takeDocument_take _ h.query_whole hm, bind,
      Except.bind]
  | later hcut =>
  cases hcut with
  | @here _ _ m hm => -- the selector is cut, and something of it is there
    have hpos : 0 < m := by
      refine Nat.pos_of_ne_zero ?_
      rintro rfl
      refine hwhole ?_
      simp only [bodyOctets, List.take_zero, List.append_assoc]
    have hselector := h.selector_whole (List.ne_nil_of_length_pos (Nat.zero_lt_of_lt hm))
    simp only [decode, takeNumber_append, hname, hparse, hquery, readSelector_take hselector hm hpos,
      bind, Except.bind]
  | later hcut => cases hcut

/-- A body without what is left after it. -/
theorem Spells.trim (h : Spells q query selector left body) :
    Spells q query selector [] (bodyOctets q.flags q.fullName q.skip q.count query selector) :=
  { h with
    body_eq := (List.append_nil _).symm
    without_selector := fun hnone => ⟨(h.without_selector hnone).1, rfl⟩ }

/-- Without its selector, and without what is left after it, a body is that of the same query
    without a selector. -/
theorem Spells.without (h : Spells q query selector left body) :
    Spells { q with selector := none } query [] []
      (bodyOctets q.flags q.fullName q.skip q.count query []) where
  body_eq := (List.append_nil _).symm
  splittable := h.splittable
  name_noNul := h.name_noNul
  query_whole := h.query_whole
  query_eq := h.query_eq
  without_selector := fun _ => ⟨rfl, rfl⟩
  with_selector := nofun

/-- **Truncation.** A body of which only the octets before a place are there is refused as truncated
    in the part that the place is in, wherever it is, with one exception: if the place is the end of
    the query, and a selector follows, then the query is read without the selector. -/
theorem decode_truncated (h : Spells q query selector [] body) :
    decode body = .ok q ∧ ∀ n < body.length,
      (n + selector.length = body.length →
        q.selector ≠ none ∧ decode (body.take n) = .ok { q with selector := none }) ∧
      (n + selector.length ≠ body.length →
        ∃ part, CutIn part (partOctets q query selector) (body.take n) ∧
          decode (body.take n) =
            .error (.failedToParse ("OP_QUERY truncated while reading " ++ part.label))) := by
  obtain rfl : body = bodyOctets q.flags q.fullName q.skip q.count query selector := by
    rw [h.body_eq, List.append_nil]
  -- the octets before the selector are a body of their own.
  have hbody : bodyOctets q.flags q.fullName q.skip q.count query selector =
      bodyOctets q.flags q.fullName q.skip q.count query [] ++ selector := by
    rw [bodyOctets_append, List.nil_append]
  refine ⟨h.decode_eq, fun n hn => ⟨fun hend => ⟨fun hnone => ?_, ?_⟩, fun hend => ?_⟩⟩
  · rw [(h.without_selector hnone).1, List.length_nil] at hend
    rw [(h.without_selector hnone).1] at hn
    omega
  · rw [hbody, List.length_append, Nat.add_right_cancel_iff] at hend
    rw [hbody, List.take_left' hend.symm]
    exact h.without.decode_eq
  · rw [← flatten_partOctets] at hn
    obtain ⟨part, hcut⟩ := exists_cutIn hn
    rw [flatten_partOctets] at hcut hn
    refine ⟨part, hcut, decode_of_cutIn h hcut fun hwhole => hend ?_⟩
    have hlength := congrArg List.length hwhole
    rw [List.length_take, Nat.min_eq_left (Nat.le_of_lt hn)] at hlength
    rw [hbody, List.length_append, hlength]

/-- Of `Query.selecting`, the octets before its selector are read, and no other part of it is. -/
theorem decode_truncated_selecting :
    Spells selecting emptyOctets emptyOctets []
        (bodyOctets 0 "db" 0 (-1) emptyOctets emptyOctets) ∧
      decode ((bodyOctets 0 "db" 0 (-1) emptyOctets emptyOctets).take 20) =
        .ok { selecting with selector := none } ∧
      ∃ part : Part, decode ((bodyOctets 0 "db" 0 (-1) emptyOctets emptyOctets).take 21) =
        .error (.failedToParse ("OP_QUERY truncated while reading " ++ part.label)) := by
  have hlength : (bodyOctets 0 "db" 0 (-1) emptyOctets emptyOctets).length = 25 := by cbv
  obtain ⟨-, hcuts⟩ := decode_truncated spells_selecting.trim
  obtain ⟨-, hend⟩ := (hcuts 20 (hlength ▸ by decide)).1 (by cbv)
  obtain ⟨part, -, hpart⟩ := (hcuts 21 (hlength ▸ by decide)).2 (by cbv)
  exact ⟨spells_selecting.trim, hend, part, hpart⟩

end CommandWire.Query
