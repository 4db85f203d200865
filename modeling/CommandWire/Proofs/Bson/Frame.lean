import CommandWire.Bson.Decode
import CommandWire.Proofs.Octets
import CommandWire.Proofs.Text.Utf8

namespace CommandWire.Bson

/-!
# Reading back the parts of a document

Documents, texts and binary values stand after their lengths, names before a zero octet.  Every
reader undoes its writer, whatever follows, as long as the length can be written as a signed word:

* `FitsWord` — a count that can.
* `takeFrame?_frame`, `takeString?_stringOctets`, `takeBinary?_binaryOctets` — parts after a length.
* `takeFrame?_eq_some_iff` — the content of a document is taken from its own frame only.
* `takeName?_nameOctets`, `takeFixed?_bytes` — names, and octets of a fixed count.
-/

/-! ### Lengths -/

/-- A count that a signed word holds. -/
def FitsWord (n : Nat) : Prop := n ≤ 2147483647

/-- What is less than a count that fits does so too. -/
theorem FitsWord.mono {m n : Nat} (h : FitsWord n) (hmn : m ≤ n) : FitsWord m := Nat.le_trans hmn h

/-- A count that fits is the number of its word. -/
theorem FitsWord.toInt {n : Nat} (h : FitsWord n) : (Int32.ofNat n).toInt = n := by
  unfold FitsWord at h
  exact Int32.toInt_ofNat_of_lt (by omega)

/-- A count in range is not less than a bound that it reaches. -/
theorem FitsWord.not_lt {n : Nat} (h : FitsWord n) {bound : Int32} (hbound : bound.toInt ≤ n) :
    ¬ Int32.ofNat n < bound := by
  rw [Int32.lt_iff_toInt_lt, h.toInt]
  omega

/-- A frame is never too short for its length and the zero octet at its end. -/
theorem FitsWord.not_lt_five {n : Nat} (h : FitsWord (n + 5)) : ¬ Int32.ofNat (n + 5) < 5 := by
  apply h.not_lt
  show (5 : Int) ≤ _
  omega

/-- A count that fits is not read as a negative length. -/
theorem FitsWord.not_lt_zero {n : Nat} (h : FitsWord n) : ¬ Int32.ofNat n < 0 := by
  apply h.not_lt
  show (0 : Int) ≤ _
  omega

/-- Octets are taken by the count that stands before them, whatever follows. -/
theorem FitsWord.take?_append {n : Nat} (h : FitsWord n) {bytes : List UInt8}
    (hlength : bytes.length = n) (rest : List UInt8) :
    Octets.take? (Int32.ofNat n).toInt.toNat (bytes ++ rest) = some (bytes, rest) := by
  rw [h.toInt, Int.toNat_natCast]
  exact Octets.take?_append rest hlength

/-- A count that fits is written as the word of it. -/
theorem lengthOctets_eq {n : Nat} (h : FitsWord n) :
    lengthOctets n = LittleEndian.ofInt32 (Int32.ofNat n) := by
  unfold FitsWord at h
  -- below 2 ^ 31 a count has the same octets with and without a sign.
  have hsize : UInt32.size = 4294967296 := rfl
  have hn : (UInt32.ofNat n).toNat = n := UInt32.toNat_ofNat_of_lt' (by omega)
  rw [lengthOctets, LittleEndian.ofInt32, LittleEndian.ofUInt32, Int32.toUInt32_ofNat', hn]

/-- A length takes four octets. -/
@[simp] theorem length_lengthOctets (n : Nat) : (lengthOctets n).length = 4 :=
  LittleEndian.length_encode 4 n

/-- A length is read back, whatever follows. -/
theorem takeInt32?_lengthOctets {n : Nat} (rest : List UInt8) (h : FitsWord n) :
    Octets.takeInt32? (lengthOctets n ++ rest) = some (Int32.ofNat n, rest) := by
  rw [lengthOctets_eq h, Octets.takeInt32?_append]

/-! ### Parts after their length -/

/-- A frame adds the length in front and the NUL at the end. -/
@[simp] theorem length_frame (content : List UInt8) :
    (frame content).length = content.length + 5 := by
  simp only [frame, List.length_append, length_lengthOctets, List.length_singleton]
  omega

/-- The length of a frame counts the frame, so that its octets are taken as one piece. -/
theorem take?_frame (content rest : List UInt8) (h : FitsWord (content.length + 5)) :
    Octets.take? (Int32.ofNat (content.length + 5)).toInt.toNat (frame content ++ rest) =
      some (frame content, rest) :=
  h.take?_append (length_frame content) rest

/-- The length in front of a frame is read first. -/
theorem takeInt32?_frame (content rest : List UInt8) (h : FitsWord (content.length + 5)) :
    Octets.takeInt32? (frame content ++ rest) =
      some (Int32.ofNat (content.length + 5), content ++ [0] ++ rest) := by
  rw [frame, List.append_assoc, List.append_assoc, takeInt32?_lengthOctets _ h,
    List.append_assoc]

/-- **Frames.** Content is read back from its frame, whatever follows. -/
theorem takeFrame?_frame (content rest : List UInt8) (h : FitsWord (content.length + 5)) :
    takeFrame? (frame content ++ rest) = some (content, rest) := by
  -- what the reader checks: the length is that of a frame, and a zero octet stands at the end.
  have hfive := h.not_lt_five
  have hlast : (frame content).getLast? = some 0 := by rw [frame, List.getLast?_concat]
  have hcontent : ((frame content).drop 4).dropLast = content := by
    rw [frame, List.append_assoc, List.drop_left' (length_lengthOctets _), List.dropLast_concat]
  simp only [takeFrame?, takeInt32?_frame content rest h, take?_frame content rest h, if_neg hfive,
    hlast, hcontent, Option.bind_eq_bind, Option.bind_some, if_true]

/-- A length that is not too short for a frame is the word of a count. -/
theorem count_of_length {length : Int32} (h : ¬ length < 5) :
    FitsWord length.toInt.toNat ∧ 5 ≤ length.toInt.toNat ∧
      Int32.ofNat length.toInt.toNat = length := by
  have hlow : 5 ≤ length.toInt := by
    rw [Int32.lt_iff_toInt_lt] at h
    exact Int.not_lt.1 h
  have hhigh := Int32.toInt_lt length
  have hfits : FitsWord length.toInt.toNat := by
    unfold FitsWord
    omega
  refine ⟨hfits, by omega, ?_⟩
  rw [← Int32.toInt_inj, hfits.toInt]
  omega

/-- **Exact frames.** Content is taken from octets that begin with its own frame, and from no
    others. -/
theorem takeFrame?_eq_some_iff {bytes content rest : List UInt8} :
    takeFrame? bytes = some (content, rest) ↔
      bytes = frame content ++ rest ∧ FitsWord (content.length + 5) := by
  constructor
  · intro h
    simp only [takeFrame?, Option.bind_eq_bind, Option.bind_eq_some_iff] at h
    obtain ⟨⟨length, after⟩, hword, h⟩ := h
    dsimp only at h
    split at h
    · cases h
    next hfive =>
    obtain ⟨⟨framed, left⟩, htake, h⟩ := Option.bind_eq_some_iff.1 h
    split at h
    next hlast =>
      cases h
      obtain ⟨hfits, hcount, hlength⟩ := count_of_length hfive
      obtain ⟨rfl, hframed⟩ := Octets.eq_append_of_take? htake
      -- the octets that were taken are their length, the content and a zero octet.
      have hfront : framed.take 4 = LittleEndian.ofInt32 length := by
        have htake4 := congrArg (List.take 4) (Octets.takeInt32?_eq_some_iff.1 hword)
        rwa [List.take_append_of_le_length (by omega),
          List.take_left' (LittleEndian.length_ofInt32 length)] at htake4
      have hback : framed.drop 4 = (framed.drop 4).dropLast ++ [0] := by
        have hzero : (framed.drop 4).getLast? = some 0 := by
          rw [List.getLast?_drop, if_neg (by omega), hlast]
        obtain ⟨content, hcontent⟩ := List.getLast?_eq_some_iff.1 hzero
        rw [hcontent, List.dropLast_concat]
      have hcontent : (framed.drop 4).dropLast.length + 5 = length.toInt.toNat := by
        rw [List.length_dropLast, List.length_drop]
        omega
      refine ⟨?_, hcontent ▸ hfits⟩
      rw [frame, hcontent, lengthOctets_eq hfits, hlength, ← hfront,
        List.append_assoc (framed.take 4), ← hback, List.take_append_drop]
    · cases h
  · rintro ⟨rfl, hfits⟩
    exact takeFrame?_frame content rest hfits

/-- A text adds its length in front and the NUL at the end. -/
theorem length_stringOctets (s : String) :
    (stringOctets s).length = (Utf8.encode s).length + 5 := by
  simp only [stringOctets, List.length_append, length_lengthOctets, List.length_singleton]
  omega

/-- **Texts.** A text is read back from its octets, whatever follows. -/
theorem takeString?_stringOctets (s : String) (rest : List UInt8)
    (h : FitsWord (stringOctets s).length) :
    takeString? (stringOctets s ++ rest) = some (s, rest) := by
  rw [length_stringOctets] at h
  have hfits : FitsWord ((Utf8.encode s).length + 1) := h.mono (by omega)
  -- the length counts the zero octet, and so it is never less than one.
  have hone : ¬ Int32.ofNat ((Utf8.encode s).length + 1) < 1 := hfits.not_lt (by
    show (1 : Int) ≤ _
    omega)
  have hlength : Octets.takeInt32? (stringOctets s ++ rest) =
      some (Int32.ofNat ((Utf8.encode s).length + 1), Utf8.encode s ++ [0] ++ rest) := by
    rw [stringOctets, List.append_assoc, List.append_assoc, takeInt32?_lengthOctets _ hfits,
      List.append_assoc]
  have htake : Octets.take? (Int32.ofNat ((Utf8.encode s).length + 1)).toInt.toNat
      (Utf8.encode s ++ [0] ++ rest) = some (Utf8.encode s ++ [0], rest) :=
    hfits.take?_append List.length_append rest
  simp only [takeString?, hlength, htake, if_neg hone, List.getLast?_concat, List.dropLast_concat,
    Utf8.decode?_encode, Option.bind_eq_bind, Option.bind_some, if_true]

/-- Octets are written with a length and a subtype in front of them. -/
theorem length_binaryOctets (subtype : UInt8) (bytes : List UInt8) :
    bytes.length ≤ (binaryOctets subtype bytes).length := by
  unfold binaryOctets
  split <;> simp only [List.length_append, List.length_cons] <;> omega

/-- **Binary values.** Subtype and content are read back, whatever follows. -/
theorem takeBinary?_binaryOctets (subtype : UInt8) (bytes rest : List UInt8)
    (h : FitsWord (binaryOctets subtype bytes).length) :
    takeBinary? (binaryOctets subtype bytes ++ rest) = some (.binary subtype bytes, rest) := by
  by_cases hsub : subtype = doubledLengthSubtype
  · -- the content begins with its own length.
    have hfits : FitsWord (bytes.length + 4) := by
      rw [binaryOctets, if_pos hsub] at h
      refine h.mono ?_
      simp only [List.length_append, List.length_cons, length_lengthOctets]
      omega
    have hinner : FitsWord bytes.length := hfits.mono (by omega)
    have htake : Octets.take? (Int32.ofNat (bytes.length + 4)).toInt.toNat
        (lengthOctets bytes.length ++ bytes ++ rest) =
          some (lengthOctets bytes.length ++ bytes, rest) := by
      apply hfits.take?_append
      rw [List.length_append, length_lengthOctets, Nat.add_comm]
    have hcontent : Octets.takeInt32? (lengthOctets bytes.length ++ bytes) =
        some (Int32.ofNat bytes.length, bytes) := takeInt32?_lengthOctets bytes hinner
    rw [binaryOctets, if_pos hsub, List.append_assoc, List.append_assoc, List.cons_append,
      ← List.append_assoc (lengthOctets bytes.length)]
    simp only [takeBinary?, takeInt32?_lengthOctets _ hfits, if_neg hfits.not_lt_zero, htake,
      if_pos hsub, hcontent, hinner.toInt, Option.bind_eq_bind, Option.bind_some, if_true]
  · -- the content follows its length and the subtype.
    have hfits : FitsWord bytes.length := h.mono (length_binaryOctets subtype bytes)
    have htake : Octets.take? (Int32.ofNat bytes.length).toInt.toNat (bytes ++ rest) =
        some (bytes, rest) := hfits.take?_append rfl rest
    rw [binaryOctets, if_neg hsub, List.append_assoc, List.cons_append]
    simp only [takeBinary?, takeInt32?_lengthOctets _ hfits, if_neg hfits.not_lt_zero, htake,
      if_neg hsub, Option.bind_eq_bind, Option.bind_some]

/-! ### Names and fixed octets -/

/-- A name that is written holds no NUL, and ends with one. -/
theorem nameOctets?_eq_some {s : String} {octets : List UInt8}
    (h : nameOctets? s = some octets) :
    (0 : UInt8) ∉ Utf8.encode s ∧ octets = Utf8.encode s ++ [0] := by
  simp only [nameOctets?] at h
  split at h
  · cases h
  · next hzero => exact ⟨hzero, (Option.some.inj h).symm⟩

/-- **Names.** A name that can be written is read back, whatever follows. -/
theorem takeName?_nameOctets {s : String} {octets : List UInt8} (rest : List UInt8)
    (h : nameOctets? s = some octets) : takeName? (octets ++ rest) = some (s, rest) := by
  obtain ⟨hzero, rfl⟩ := nameOctets?_eq_some h
  rw [List.append_assoc, List.singleton_append]
  simp only [takeName?, Octets.takeUntilNul?_append rest hzero, Utf8.decode?_encode,
    Option.bind_eq_bind, Option.bind_some]

/-- **Fixed octets.** Octets of a fixed count are read back, whatever follows. -/
theorem takeFixed?_bytes {count : Nat} (o : FixedOctets count) (rest : List UInt8) :
    takeFixed? count (o.bytes ++ rest) = some (o, rest) := by
  simp only [takeFixed?, Octets.take?_append rest o.length_eq, FixedOctets.ofList?_bytes,
    Option.bind_eq_bind, Option.bind_some]

end CommandWire.Bson
