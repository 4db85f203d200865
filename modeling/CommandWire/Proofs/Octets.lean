import CommandWire.Octets.Reader

namespace CommandWire

/-!
# What readers take from the front

A reader that succeeds tells what its input looks like: what it took, written out, and then what it
left.

* `LittleEndian.ofInt32_toInt32` — four octets are those of the word that they stand for.
* `Octets.takeInt32?_eq_some_iff`, `Octets.takeUntilNul?_eq_some_iff` — a word and a text before a
  zero octet are taken exactly where they stand.
* `Octets.takeInt32?_of_short`, `Octets.takeInt32?_of_le`, `Octets.takeUntilNul?_of_not_mem` — nothing
  is taken from fewer octets than a word has, a word always is from as many, and nothing is taken from
  octets without a zero octet.
* `Octets.length_of_takeInt32?`, `Octets.length_of_takeInt64?` — how many octets a word takes.
-/

namespace LittleEndian

/-- Four octets are those of the word that they stand for. -/
theorem ofInt32_toInt32 {bytes : List UInt8} (h : bytes.length = 4) :
    ofInt32 (toInt32 bytes) = bytes := by
  have hlt : decode bytes < capacity bytes.length := decode_lt bytes
  rw [h] at hlt
  -- the number fits in a word, because it fits in four octets.
  have hword : (UInt32.ofNat (decode bytes)).toNat = decode bytes := UInt32.toNat_ofNat_of_lt' hlt
  rw [ofInt32, toInt32, UInt32.toUInt32_toInt32, ofUInt32, toUInt32, hword, ← h, encode_decode]

end LittleEndian

namespace Octets

variable {bytes front rest : List UInt8}

/-! ### Words -/

/-- **Words.** A word is taken from octets that begin with its own, and from no others. -/
theorem takeInt32?_eq_some_iff {n : Int32} :
    takeInt32? bytes = some (n, rest) ↔ bytes = LittleEndian.ofInt32 n ++ rest := by
  constructor
  · intro h
    obtain ⟨⟨front, rest'⟩, htake, hrest⟩ := Option.bind_eq_some_iff.1 h
    cases hrest
    obtain ⟨rfl, hlength⟩ := eq_append_of_take? htake
    rw [LittleEndian.ofInt32_toInt32 hlength]
  · rintro rfl
    exact takeInt32?_append n rest

/-- Fewer than four octets hold no word. -/
theorem takeInt32?_of_short (h : bytes.length < 4) : takeInt32? bytes = none := by
  rw [takeInt32?, take?, if_pos h]
  rfl

/-- Four octets or more hold a word in front. -/
theorem takeInt32?_of_le (h : 4 ≤ bytes.length) :
    takeInt32? bytes = some (LittleEndian.toInt32 (bytes.take 4), bytes.drop 4) := by
  rw [takeInt32?, take?, if_neg (Nat.not_lt.2 h)]
  rfl

/-- A word takes four octets away. -/
theorem length_of_takeInt32? {n : Int32} (h : takeInt32? bytes = some (n, rest)) :
    bytes.length = rest.length + 4 := by
  rw [takeInt32?_eq_some_iff.1 h, List.length_append, LittleEndian.length_ofInt32, Nat.add_comm]

/-- A long takes eight octets away. -/
theorem length_of_takeInt64? {n : Int64} (h : takeInt64? bytes = some (n, rest)) :
    bytes.length = rest.length + 8 := by
  obtain ⟨⟨front, rest'⟩, htake, hrest⟩ := Option.bind_eq_some_iff.1 h
  cases hrest
  obtain ⟨rfl, hlength⟩ := eq_append_of_take? htake
  rw [List.length_append, hlength, Nat.add_comm]

/-! ### Texts before a zero octet -/

/-- **Texts.** What is taken up to the first zero octet holds none, and it stands before one. -/
theorem takeUntilNul?_eq_some_iff :
    takeUntilNul? bytes = some (front, rest) ↔ 0 ∉ front ∧ bytes = front ++ 0 :: rest := by
  constructor
  · intro h
    -- each octet that is passed over is not zero, and the last one is.
    induction bytes generalizing front with
    | nil => cases h
    | cons b bytes ih =>
      rw [takeUntilNul?] at h
      split at h
      · next hb =>
        cases h
        rw [hb]
        exact ⟨List.not_mem_nil, rfl⟩
      · next hb =>
        obtain ⟨⟨others, rest'⟩, hothers, hfront⟩ := Option.map_eq_some_iff.1 h
        cases hfront
        obtain ⟨hzero, rfl⟩ := ih hothers
        refine ⟨?_, rfl⟩
        rw [List.mem_cons, not_or]
        exact ⟨fun hb' => hb hb'.symm, hzero⟩
  · rintro ⟨hzero, rfl⟩
    exact takeUntilNul?_append rest hzero

/-- Octets without a NUL hold no text. -/
theorem takeUntilNul?_of_not_mem (h : 0 ∉ bytes) : takeUntilNul? bytes = none := by
  induction bytes with
  | nil => rfl
  | cons b bytes ih =>
    rw [List.mem_cons, not_or] at h
    rw [takeUntilNul?, if_neg (Ne.symm h.1), ih h.2]
    rfl

end Octets

end CommandWire
