import CommandWire.Message.Batch
import CommandWire.Proofs.Octets

namespace CommandWire.Batch

/-!
# Segments of a batch

A batch is cut by the lengths in it and by nothing else: a segment is as long as the word in front of
it says, and the cutting stops where no such word fits.  What stands between the length and the end of
a segment is not looked at.

* `Announces` — octets that begin with a length.
* `Delimited`, `Opens` — octets that are a segment, and octets that begin with one.
* `chunk?_eq_some_iff`, `chunk?_eq_none_iff` — what is cut off, and when nothing is.
* `Delimited.not_opens_take` — a part of a segment does not begin with one.
* `Splits` — segments side by side and then octets that begin with none.
* `splits_chunks`, `Splits.unique` — every batch is split so, and in one way only.
-/

variable {bytes front rest : List UInt8}

/-! ### Lengths in front -/

/-- The octets begin with the length `n`. -/
def Announces (bytes : List UInt8) (n : Int32) : Prop := LittleEndian.ofInt32 n <+: bytes

/-- A length in front is announced. -/
theorem announces_append (n : Int32) (rest : List UInt8) :
    Announces (LittleEndian.ofInt32 n ++ rest) n := List.prefix_append _ _

/-- Octets announce the length that is read from them. -/
theorem announces_iff {n : Int32} :
    Announces bytes n ↔ ∃ rest, Octets.takeInt32? bytes = some (n, rest) := by
  constructor
  · rintro ⟨rest, rfl⟩
    exact ⟨rest, Octets.takeInt32?_append n rest⟩
  · rintro ⟨rest, h⟩
    rw [Octets.takeInt32?_eq_some_iff.1 h]
    exact announces_append n rest

/-- Octets begin with one length at most. -/
theorem Announces.unique {m n : Int32} (hm : Announces bytes m) (hn : Announces bytes n) : m = n := by
  obtain ⟨restM, hm⟩ := announces_iff.1 hm
  obtain ⟨restN, hn⟩ := announces_iff.1 hn
  have hsame := hm.symm.trans hn
  cases hsame
  rfl

/-- What follows does not change the length that is announced. -/
theorem Announces.append {n : Int32} (h : Announces front n) (rest : List UInt8) :
    Announces (front ++ rest) n := h.trans (List.prefix_append front rest)

/-- Octets that announce a length are four or more. -/
theorem Announces.four_le {n : Int32} (h : Announces bytes n) : 4 ≤ bytes.length := by
  have hlength := List.IsPrefix.length_le h
  rwa [LittleEndian.length_ofInt32] at hlength

/-! ### One segment -/

/-- Five octets or more that begin with their own length. -/
def Delimited (bytes : List UInt8) : Prop :=
  ∃ n, Announces bytes n ∧ 5 ≤ n.toInt ∧ n.toInt = bytes.length

/-- Octets that begin with a length from five up to their own. -/
def Opens (bytes : List UInt8) : Prop :=
  ∃ n, Announces bytes n ∧ 5 ≤ n.toInt ∧ n.toInt ≤ bytes.length

/-- A segment is of five octets or more. -/
theorem Delimited.five_le (h : Delimited bytes) : 5 ≤ bytes.length := by
  obtain ⟨n, -, hfive, hlength⟩ := h
  omega

/-- A segment in front opens what it stands in front of. -/
theorem Delimited.opens_append (h : Delimited front) (rest : List UInt8) : Opens (front ++ rest) := by
  obtain ⟨n, hn, hfive, hlength⟩ := h
  refine ⟨n, hn.append rest, hfive, ?_⟩
  rw [List.length_append]
  omega

/-- The empty sequence does not open. -/
theorem not_opens_nil : ¬ Opens [] := by
  rintro ⟨n, hn, -⟩
  have hfour := hn.four_le
  simp at hfour

/-- Words are compared with five as numbers. -/
theorem not_lt_five_iff (n : Int32) : ¬ n < 5 ↔ 5 ≤ n.toInt := by
  rw [Int32.lt_iff_toInt_lt, Int.not_lt]
  rfl

/-- **One segment.** What is cut off is a segment, and the rest is what follows it. -/
theorem chunk?_eq_some_iff :
    chunk? bytes = some (front, rest) ↔ Delimited front ∧ bytes = front ++ rest := by
  constructor
  · intro h
    obtain ⟨⟨n, afterLength⟩, hword, h⟩ := Option.bind_eq_some_iff.1 h
    dsimp only at h
    split at h
    · cases h
    next hfive =>
    obtain ⟨rfl, hlength⟩ := Octets.eq_append_of_take? h
    have hlow := (not_lt_five_iff n).1 hfive
    have hn : Announces (front ++ rest) n := announces_iff.2 ⟨afterLength, hword⟩
    -- the length lies inside the segment, which has five octets or more.
    have hfront : Announces front n := by
      refine List.prefix_of_prefix_length_le hn (List.prefix_append front rest) ?_
      rw [LittleEndian.length_ofInt32]
      omega
    exact ⟨⟨n, hfront, hlow, by omega⟩, rfl⟩
  · rintro ⟨⟨n, hn, hfive, hlength⟩, rfl⟩
    obtain ⟨afterLength, hword⟩ := announces_iff.1 (hn.append rest)
    have htake : Octets.take? n.toInt.toNat (front ++ rest) = some (front, rest) :=
      Octets.take?_append rest (by omega)
    simp only [chunk?, hword, if_neg ((not_lt_five_iff n).2 hfive), htake, Option.bind_eq_bind,
      Option.bind_some]

/-- Octets that open are those with a segment in front. -/
theorem opens_iff : Opens bytes ↔ ∃ front rest, Delimited front ∧ bytes = front ++ rest := by
  constructor
  · rintro ⟨n, hn, hfive, hle⟩
    -- as many octets as the length says are a segment.
    have htaken : (bytes.take n.toInt.toNat).length = n.toInt.toNat := by
      rw [List.length_take]
      omega
    refine ⟨bytes.take n.toInt.toNat, bytes.drop n.toInt.toNat, ⟨n, ?_, hfive, by omega⟩,
      (List.take_append_drop _ bytes).symm⟩
    refine List.prefix_of_prefix_length_le hn (List.take_prefix _ bytes) ?_
    rw [LittleEndian.length_ofInt32]
    omega
  · rintro ⟨front, rest, hfront, rfl⟩
    exact hfront.opens_append rest

/-- Nothing is cut off where no segment stands in front. -/
theorem chunk?_eq_none_iff : chunk? bytes = none ↔ ¬ Opens bytes := by
  rw [opens_iff]
  constructor
  · rintro h ⟨front, rest, hcut⟩
    rw [chunk?_eq_some_iff.2 hcut] at h
    cases h
  · intro h
    cases hcut : chunk? bytes with
    | none => rfl
    | some parts => exact absurd ⟨parts.1, parts.2, chunk?_eq_some_iff.1 hcut⟩ h

/-- **Parts of segments.** A part of a segment does not begin with one. -/
theorem Delimited.not_opens_take (h : Delimited bytes) {n : Nat} (hn : n < bytes.length) :
    ¬ Opens (bytes.take n) := by
  rintro ⟨m, hm, -, hle⟩
  obtain ⟨length, hlength, -, hsize⟩ := h
  -- the length that is left says how long the whole segment is.
  have hm : Announces bytes m := hm.trans (List.take_prefix n bytes)
  rw [hm.unique hlength, hsize, List.length_take] at hle
  omega

/-! ### All segments -/

/-- A batch is segments side by side, and then octets that begin with none. -/
structure Splits (bytes : List UInt8) (segments : List (List UInt8)) (rest : List UInt8) : Prop where
  eq_append : bytes = segments.flatten ++ rest
  delimited : ∀ segment ∈ segments, Delimited segment
  not_opens : ¬ Opens rest

variable {segments others : List (List UInt8)}

/-- Octets that do not open have no segments, and all of them are left. -/
theorem Splits.of_not_opens (h : ¬ Opens bytes) : Splits bytes [] bytes :=
  ⟨rfl, List.forall_mem_nil _, h⟩

/-- Further segments in front. -/
theorem Splits.append (h : Splits bytes segments rest) (hothers : ∀ segment ∈ others, Delimited segment) :
    Splits (others.flatten ++ bytes) (others ++ segments) rest where
  eq_append := by rw [List.flatten_append, List.append_assoc, ← h.eq_append]
  delimited := List.forall_mem_append.2 ⟨hothers, h.delimited⟩
  not_opens := h.not_opens

/-- One more segment in front. -/
theorem Splits.cons (h : Splits bytes segments rest) (hfront : Delimited front) :
    Splits (front ++ bytes) (front :: segments) rest := by
  have happend := h.append (List.forall_mem_singleton.2 hfront)
  rwa [List.flatten_singleton] at happend

/-- **One way.** The lengths in a batch leave no choice. -/
theorem Splits.unique {segments' : List (List UInt8)} {rest' : List UInt8}
    (h : Splits bytes segments rest) (h' : Splits bytes segments' rest') :
    segments = segments' ∧ rest = rest' := by
  induction segments generalizing bytes segments' with
  | nil =>
    obtain rfl : bytes = rest := h.eq_append
    cases segments' with
    | nil => exact ⟨rfl, h'.eq_append⟩
    | cons front' others' =>
      -- there is no segment in front, and so there is none in the other way either.
      refine absurd ?_ h.not_opens
      rw [h'.eq_append, List.flatten_cons, List.append_assoc]
      exact (h'.delimited front' List.mem_cons_self).opens_append _
  | cons front others ih =>
    have hfront := List.forall_mem_cons.1 h.delimited
    have hbytes : bytes = front ++ (others.flatten ++ rest) := by
      rw [h.eq_append, List.flatten_cons, List.append_assoc]
    cases segments' with
    | nil =>
      obtain rfl : bytes = rest' := h'.eq_append
      exact absurd (hbytes ▸ hfront.1.opens_append _) h'.not_opens
    | cons front' others' =>
      have hfront' := List.forall_mem_cons.1 h'.delimited
      have hbytes' : bytes = front' ++ (others'.flatten ++ rest') := by
        rw [h'.eq_append, List.flatten_cons, List.append_assoc]
      have hcut := chunk?_eq_some_iff.2 ⟨hfront.1, hbytes⟩
      rw [chunk?_eq_some_iff.2 ⟨hfront'.1, hbytes'⟩, Option.some.injEq, Prod.mk.injEq] at hcut
      obtain ⟨rfl, hothers⟩ := hcut
      obtain ⟨rfl, rfl⟩ := ih ⟨rfl, hfront.2, h.not_opens⟩ ⟨hothers.symm, hfront'.2, h'.not_opens⟩
      exact ⟨rfl, rfl⟩

/-- Every octet pays for more than one segment, so that the fuel is never used up. -/
theorem splits_chunksFrom {fuel : Nat} (h : bytes.length ≤ fuel) :
    Splits bytes (chunksFrom fuel bytes).1 (chunksFrom fuel bytes).2 := by
  induction fuel generalizing bytes with
  | zero =>
    obtain rfl : bytes = [] := List.eq_nil_of_length_eq_zero (Nat.le_zero.1 h)
    exact .of_not_opens not_opens_nil
  | succ fuel ih =>
    rw [chunksFrom]
    split
    next hnone => exact .of_not_opens (chunk?_eq_none_iff.1 hnone)
    next front rest hcut =>
      obtain ⟨hfront, rfl⟩ := chunk?_eq_some_iff.1 hcut
      have hfive := hfront.five_le
      rw [List.length_append] at h
      exact (ih (by omega)).cons hfront

/-- **Every batch** is split into segments and what is left. -/
theorem splits_chunks (bytes : List UInt8) : Splits bytes (chunks bytes).1 (chunks bytes).2 :=
  splits_chunksFrom (Nat.le_refl _)

/-- The cutting finds the segments of every split, and what is left. -/
theorem Splits.chunks_eq (h : Splits bytes segments rest) : chunks bytes = (segments, rest) := by
  obtain ⟨hsegments, hrest⟩ := (splits_chunks bytes).unique h
  exact Prod.ext hsegments hrest

/-- The error for octets that are left at the end. -/
def remainder (rest : List UInt8) : List (Checked Document) :=
  if rest = [] then [] else [.error (Fault.truncated rest.length).toError]

/-- **Items.** There is one item for each segment, in order, and one error for octets that are
    left. -/
theorem Splits.items_eq (h : Splits bytes segments rest) :
    items bytes = segments.map item ++ remainder rest := by
  simp only [items, h.chunks_eq, remainder, List.isEmpty_iff]

end CommandWire.Batch
