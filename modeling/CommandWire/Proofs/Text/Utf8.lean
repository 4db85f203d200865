import CommandWire.Text.Utf8

namespace CommandWire.Utf8

/-!
# Reading back what was written as UTF-8

`decode` walks octets one at a time and remembers what it owes; `encode` writes character by
character.  The two meet at the boundaries between characters:

* `decodeFrom_lead`, `decodeFrom_more`, `decodeFrom_last` — what one octet does to the reader: it
  opens a character, leaves it open, or completes it.
* `begin?_two`, `begin?_three`, `begin?_four` — the first octet of a character of each length opens
  it with bounds that the second octet meets.
* `decodeFrom_encodeChar` — hence the octets of a character are read as that character, whatever
  follows.
* `decode_encode` — hence every text is read back from its octets.
* `begin?_eq_some`, `exists_of_decodeFrom_more`, `exists_of_decodeFrom_last` — conversely, what the
  reader has accepted tells which octets it was given.
* `exists_encodeChar_of_decodeFrom` — hence what is read begins with the octets of a character.
* `decode_eq_ok_iff` — hence a text is read from its own octets only.
* `zero_mem_encode_iff` — a zero octet ends no text early unless the text holds a NUL.
-/

/-! ### One octet -/

/-- A number below 256 is that of its octet. -/
private theorem toNat_ofNat {n : Nat} (h : n < 256) : (UInt8.ofNat n).toNat = n := by
  rw [UInt8.toNat_ofNat', Nat.mod_eq_of_lt h]

variable {start seen bits owed low high index m b : Nat}

/-- An octet of 0x80 or more, read between characters, opens the character that it begins. -/
theorem decodeFrom_lead {p : Pending} (rest : List UInt8) (hb : 0x80 ≤ b) (hmax : b < 256)
    (hp : Pending.begin? index b = some p) :
    decodeFrom none index (UInt8.ofNat b :: rest) = decodeFrom (some p) (index + 1) rest := by
  have hlow : ¬ b < 0x80 := by omega
  simp only [decodeFrom, toNat_ofNat hmax, if_neg hlow, hp]

/-- An octet inside a character adds six bits. -/
theorem bitsWith_tail (p : Pending) (m : Nat) : p.bitsWith (0x80 + m) = p.bits * 64 + m := by
  unfold Pending.bitsWith
  omega

/-- An octet within the bounds keeps a character open that owes further octets. -/
theorem decodeFrom_more (rest : List UInt8) (hm : m < 64) (hlow : low ≤ 0x80 + m)
    (hhigh : 0x80 + m ≤ high) :
    decodeFrom (some ⟨start, seen, bits, owed + 1, low, high⟩) index
        (UInt8.ofNat (0x80 + m) :: rest) =
      decodeFrom (some ⟨start, seen + 1, bits * 64 + m, owed, 0x80, 0xBF⟩) (index + 1) rest := by
  have hmax : 0x80 + m < 256 := by omega
  rw [decodeFrom, toNat_ofNat hmax, if_pos ⟨hlow, hhigh⟩, bitsWith_tail]

/-- An octet within the bounds completes a character that owes no further octet. -/
theorem decodeFrom_last (rest : List UInt8) (hm : m < 64) (hlow : low ≤ 0x80 + m)
    (hhigh : 0x80 + m ≤ high) :
    decodeFrom (some ⟨start, seen, bits, 0, low, high⟩) index (UInt8.ofNat (0x80 + m) :: rest) =
      (decodeFrom none (index + 1) rest).map (Char.ofNat (bits * 64 + m) :: ·) := by
  have hmax : 0x80 + m < 256 := by omega
  rw [decodeFrom, toNat_ofNat hmax, if_pos ⟨hlow, hhigh⟩]
  simp only [bitsWith_tail]

/-! ### The first octet of a character -/

/-- A first octet of two announces one more. -/
theorem begin?_two {n : Nat} (index : Nat) (hlow : 0x80 ≤ n) (hhigh : n < 0x800) :
    Pending.begin? index (0xC0 + n / 64) = some ⟨index, 1, n / 64, 0, 0x80, 0xBF⟩ := by
  unfold Pending.begin?
  rw [if_neg (by omega), if_pos (by omega), Nat.add_sub_cancel_left]

/-- The bounds on the second octet rule out short numbers and surrogates, and the character is
    neither. -/
theorem begin?_three {n : Nat} (index : Nat) (hlow : 0x800 ≤ n) (hhigh : n < 0x10000)
    (hvalid : n < 0xD800 ∨ 0xDFFF < n) :
    ∃ low high, Pending.begin? index (0xE0 + n / 4096) =
        some ⟨index, 1, n / 4096, 1, low, high⟩ ∧
      low ≤ 0x80 + n / 64 % 64 ∧ 0x80 + n / 64 % 64 ≤ high := by
  unfold Pending.begin?
  rw [if_neg (by omega), if_neg (by omega)]
  by_cases hzero : 0xE0 + n / 4096 = 0xE0
  · have hbits : n / 4096 = 0 := by omega
    rw [if_pos hzero, hbits]
    exact ⟨_, _, rfl, by omega, by omega⟩
  rw [if_neg hzero]
  by_cases hsurrogate : 0xE0 + n / 4096 = 0xED
  · have hbits : n / 4096 = 0xD := by omega
    rw [if_pos hsurrogate, hbits]
    exact ⟨_, _, rfl, by omega, by omega⟩
  rw [if_neg hsurrogate, if_pos (by omega), Nat.add_sub_cancel_left]
  exact ⟨_, _, rfl, by omega, by omega⟩

/-- The bounds on the second octet rule out short numbers and those above 0x10FFFF. -/
theorem begin?_four {n : Nat} (index : Nat) (hlow : 0x10000 ≤ n) (hhigh : n < 0x110000) :
    ∃ low high, Pending.begin? index (0xF0 + n / 262144) =
        some ⟨index, 1, n / 262144, 2, low, high⟩ ∧
      low ≤ 0x80 + n / 4096 % 64 ∧ 0x80 + n / 4096 % 64 ≤ high := by
  unfold Pending.begin?
  rw [if_neg (by omega), if_neg (by omega), if_neg (by omega), if_neg (by omega),
    if_neg (by omega)]
  by_cases hzero : 0xF0 + n / 262144 = 0xF0
  · have hbits : n / 262144 = 0 := by omega
    rw [if_pos hzero, hbits]
    exact ⟨_, _, rfl, by omega, by omega⟩
  rw [if_neg hzero]
  by_cases hlast : 0xF0 + n / 262144 < 0xF4
  · rw [if_pos hlast, Nat.add_sub_cancel_left]
    exact ⟨_, _, rfl, by omega, by omega⟩
  have hbits : n / 262144 = 4 := by omega
  rw [if_neg hlast, if_pos (by omega), hbits]
  exact ⟨_, _, rfl, by omega, by omega⟩

/-! ### Characters and texts -/

/-- The number of a character is below 0x110000 and no surrogate. -/
theorem toNat_valid (c : Char) : (c.toNat < 0xD800 ∨ 0xDFFF < c.toNat) ∧ c.toNat < 0x110000 := by
  rcases c.valid with h | ⟨hlow, hhigh⟩
  · exact ⟨.inl h, Nat.lt_trans h (by decide)⟩
  · exact ⟨.inr hlow, hhigh⟩

/-- **One character.** Its octets are read as the character itself, and reading goes on after
    them. -/
theorem decodeFrom_encodeChar (c : Char) (index : Nat) (rest : List UInt8) :
    decodeFrom none index (encodeChar c ++ rest) =
      (decodeFrom none (index + (encodeChar c).length) rest).map (c :: ·) := by
  obtain ⟨hvalid, hmax⟩ := toNat_valid c
  have hc : Char.ofNat c.toNat = c := Char.ofNat_toNat c
  unfold encodeChar
  generalize c.toNat = n at hvalid hmax hc
  subst hc
  by_cases hone : n < 0x80
  · -- one octet, which is the number itself
    have hb : (UInt8.ofNat n).toNat = n := toNat_ofNat (by omega)
    simp only [if_pos hone, List.cons_append, List.nil_append, decodeFrom, hb]
    rfl
  by_cases htwo : n < 0x800
  · have hbits : n / 64 * 64 + n % 64 = n := by omega
    have hlead := begin?_two index (by omega) htwo
    simp only [if_neg hone, if_pos htwo, List.cons_append, List.nil_append, List.length_cons,
      List.length_nil]
    rw [decodeFrom_lead _ (by omega) (by omega) hlead,
      decodeFrom_last _ (by omega) (by omega) (by omega), hbits]
  by_cases hthree : n < 0x10000
  · have hbits : (n / 4096 * 64 + n / 64 % 64) * 64 + n % 64 = n := by omega
    obtain ⟨low, high, hlead, hlow, hhigh⟩ := begin?_three index (by omega) hthree hvalid
    simp only [if_neg hone, if_neg htwo, if_pos hthree, List.cons_append, List.nil_append,
      List.length_cons, List.length_nil]
    rw [decodeFrom_lead _ (by omega) (by omega) hlead, decodeFrom_more _ (by omega) hlow hhigh,
      decodeFrom_last _ (by omega) (by omega) (by omega), hbits]
  · have hbits : ((n / 262144 * 64 + n / 4096 % 64) * 64 + n / 64 % 64) * 64 + n % 64 = n := by
      omega
    obtain ⟨low, high, hlead, hlow, hhigh⟩ := begin?_four index (by omega) hmax
    simp only [if_neg hone, if_neg htwo, if_neg hthree, List.cons_append, List.nil_append,
      List.length_cons, List.length_nil]
    rw [decodeFrom_lead _ (by omega) (by omega) hlead, decodeFrom_more _ (by omega) hlow hhigh,
      decodeFrom_more _ (by omega) (by omega) (by omega),
      decodeFrom_last _ (by omega) (by omega) (by omega), hbits]

/-- Characters are read back from their octets, wherever these stand. -/
theorem decodeFrom_encodeChars (cs : List Char) (index : Nat) :
    decodeFrom none index (encodeChars cs) = .ok cs := by
  induction cs generalizing index with
  | nil => rfl
  | cons c cs ih =>
    rw [encodeChars, List.flatMap_cons, decodeFrom_encodeChar]
    show (decodeFrom none _ (encodeChars cs)).map (c :: ·) = _
    rw [ih]
    rfl

/-- **Texts.** Every text is read back from its octets. -/
theorem decode_encode (s : String) : decode (encode s) = .ok s := by
  rw [decode, encode, decodeFrom_encodeChars]
  show Except.ok (String.ofList s.toList) = _
  rw [String.ofList_toList]

/-- A text is read back from its octets. -/
@[simp] theorem decode?_encode (s : String) : decode? (encode s) = some s := by
  rw [decode?, decode_encode]
  rfl

/-! ### Reading only what was written -/

/-- A result that was turned into another was there. -/
private theorem map_eq_ok {ε α β : Type} {f : α → β} {x : Except ε α} {b : β}
    (h : x.map f = .ok b) : ∃ a, x = .ok a ∧ b = f a := by
  cases x with
  | error e => cases h
  | ok a =>
    cases h
    exact ⟨a, rfl, rfl⟩

/-- An octet inside a character is 0x80 and six bits. -/
theorem exists_tail {b : UInt8} (hlow : 0x80 ≤ b.toNat) (hhigh : b.toNat ≤ 0xBF) :
    ∃ m < 64, b = UInt8.ofNat (0x80 + m) := by
  refine ⟨b.toNat - 0x80, by omega, ?_⟩
  rw [Nat.add_sub_cancel' hlow, UInt8.ofNat_toNat]

/-- What is read inside a character that owes further octets begins with one of them. -/
theorem exists_of_decodeFrom_more {bytes : List UInt8} {cs : List Char} (hlow : 0x80 ≤ low)
    (hhigh : high ≤ 0xBF)
    (h : decodeFrom (some ⟨start, seen, bits, owed + 1, low, high⟩) index bytes = .ok cs) :
    ∃ m rest, bytes = UInt8.ofNat (0x80 + m) :: rest ∧ m < 64 ∧ low ≤ 0x80 + m ∧ 0x80 + m ≤ high ∧
      decodeFrom (some ⟨start, seen + 1, bits * 64 + m, owed, 0x80, 0xBF⟩) (index + 1) rest =
        .ok cs := by
  cases bytes with
  | nil => cases h
  | cons b rest =>
    by_cases hb : low ≤ b.toNat ∧ b.toNat ≤ high
    · obtain ⟨m, hm, rfl⟩ := exists_tail (Nat.le_trans hlow hb.1) (Nat.le_trans hb.2 hhigh)
      rw [toNat_ofNat (by omega)] at hb
      rw [decodeFrom_more rest hm hb.1 hb.2] at h
      exact ⟨m, rest, rfl, hm, hb.1, hb.2, h⟩
    · rw [decodeFrom, if_neg hb] at h
      cases h

/-- What is read inside a character that owes no further octet begins with its last one. -/
theorem exists_of_decodeFrom_last {bytes : List UInt8} {cs : List Char} (hlow : 0x80 ≤ low)
    (hhigh : high ≤ 0xBF)
    (h : decodeFrom (some ⟨start, seen, bits, 0, low, high⟩) index bytes = .ok cs) :
    ∃ m rest others, bytes = UInt8.ofNat (0x80 + m) :: rest ∧ m < 64 ∧ low ≤ 0x80 + m ∧
      0x80 + m ≤ high ∧ cs = Char.ofNat (bits * 64 + m) :: others ∧
      decodeFrom none (index + 1) rest = .ok others := by
  cases bytes with
  | nil => cases h
  | cons b rest =>
    by_cases hb : low ≤ b.toNat ∧ b.toNat ≤ high
    · obtain ⟨m, hm, rfl⟩ := exists_tail (Nat.le_trans hlow hb.1) (Nat.le_trans hb.2 hhigh)
      rw [toNat_ofNat (by omega)] at hb
      rw [decodeFrom_last rest hm hb.1 hb.2] at h
      obtain ⟨others, hothers, rfl⟩ := map_eq_ok h
      exact ⟨m, rest, others, rfl, hm, hb.1, hb.2, rfl, hothers⟩
    · rw [decodeFrom, if_neg hb] at h
      cases h

/-- An octet of 0x80 or more that opens a character tells its length, and its bounds on the second
    octet rule out short numbers, surrogates and those above 0x10FFFF. -/
theorem begin?_eq_some {p : Pending} (h : Pending.begin? index b = some p) :
    (∃ bits, 2 ≤ bits ∧ bits < 32 ∧ b = 0xC0 + bits ∧ p = ⟨index, 1, bits, 0, 0x80, 0xBF⟩) ∨
    (∃ bits low high, bits < 16 ∧ b = 0xE0 + bits ∧ p = ⟨index, 1, bits, 1, low, high⟩ ∧
      0x80 ≤ low ∧ high ≤ 0xBF ∧ (bits = 0 → 0xA0 ≤ low) ∧ (bits = 0xD → high ≤ 0x9F)) ∨
    ∃ bits low high, bits ≤ 4 ∧ b = 0xF0 + bits ∧ p = ⟨index, 1, bits, 2, low, high⟩ ∧
      0x80 ≤ low ∧ high ≤ 0xBF ∧ (bits = 0 → 0x90 ≤ low) ∧ (bits = 4 → high ≤ 0x8F) := by
  unfold Pending.begin? at h
  split at h
  · cases h
  split at h
  · cases h
    exact .inl ⟨b - 0xC0, by omega, by omega, by omega, rfl⟩
  split at h
  · cases h
    exact .inr (.inl ⟨0, _, _, by omega, by omega, rfl, by omega, by omega, by omega, by omega⟩)
  split at h
  · cases h
    exact .inr (.inl ⟨0xD, _, _, by omega, by omega, rfl, by omega, by omega, by omega, by omega⟩)
  split at h
  · cases h
    exact .inr (.inl ⟨b - 0xE0, _, _, by omega, by omega, rfl, by omega, by omega, by omega,
      by omega⟩)
  split at h
  · cases h
    exact .inr (.inr ⟨0, _, _, by omega, by omega, rfl, by omega, by omega, by omega, by omega⟩)
  split at h
  · cases h
    exact .inr (.inr ⟨b - 0xF0, _, _, by omega, by omega, rfl, by omega, by omega, by omega,
      by omega⟩)
  split at h
  · cases h
    exact .inr (.inr ⟨4, _, _, by omega, by omega, rfl, by omega, by omega, by omega, by omega⟩)
  · cases h

/-- The character of a number that is below 0x110000 and no surrogate has that number. -/
theorem toNat_ofNat_of_valid {n : Nat} (hvalid : n < 0xD800 ∨ 0xDFFF < n) (hmax : n < 0x110000) :
    (Char.ofNat n).toNat = n := by
  have hchar : n.isValidChar := by
    rcases hvalid with h | h
    · exact .inl h
    · exact .inr ⟨h, hmax⟩
  rw [Char.ofNat, dif_pos hchar]
  rfl

/-- A number of seven bits takes one octet. -/
theorem encodeChar_ofNat_one {n : Nat} (h : n < 0x80) :
    encodeChar (Char.ofNat n) = [UInt8.ofNat n] := by
  rw [encodeChar, toNat_ofNat_of_valid (.inl (by omega)) (by omega)]
  exact if_pos h

/-- A number of eleven bits takes two octets, unless it takes one. -/
theorem encodeChar_ofNat_two (hlow : 2 ≤ bits) (hhigh : bits < 32) (hm : m < 64) :
    encodeChar (Char.ofNat (bits * 64 + m)) =
      [UInt8.ofNat (0xC0 + bits), UInt8.ofNat (0x80 + m)] := by
  have hone : ¬ bits * 64 + m < 0x80 := by omega
  have htwo : bits * 64 + m < 0x800 := by omega
  have hbits : (bits * 64 + m) / 64 = bits := by omega
  have hlast : (bits * 64 + m) % 64 = m := by omega
  rw [encodeChar, toNat_ofNat_of_valid (.inl (by omega)) (by omega)]
  simp only [if_neg hone, if_pos htwo, hbits, hlast]

/-- A number of sixteen bits takes three octets, unless it takes fewer or is a surrogate. -/
theorem encodeChar_ofNat_three {k : Nat} (hhigh : bits < 16) (hm : m < 64) (hk : k < 64)
    (hshort : bits = 0 → 0x20 ≤ m) (hsurrogate : bits = 0xD → m < 0x20) :
    encodeChar (Char.ofNat ((bits * 64 + m) * 64 + k)) =
      [UInt8.ofNat (0xE0 + bits), UInt8.ofNat (0x80 + m), UInt8.ofNat (0x80 + k)] := by
  have hone : ¬ (bits * 64 + m) * 64 + k < 0x80 := by omega
  have htwo : ¬ (bits * 64 + m) * 64 + k < 0x800 := by omega
  have hthree : (bits * 64 + m) * 64 + k < 0x10000 := by omega
  have hbits : ((bits * 64 + m) * 64 + k) / 4096 = bits := by omega
  have hmiddle : ((bits * 64 + m) * 64 + k) / 64 % 64 = m := by omega
  have hlast : ((bits * 64 + m) * 64 + k) % 64 = k := by omega
  rw [encodeChar, toNat_ofNat_of_valid (by omega) (by omega)]
  simp only [if_neg hone, if_neg htwo, if_pos hthree, hbits, hmiddle, hlast]

/-- A number below 0x110000 takes four octets, unless it takes fewer. -/
theorem encodeChar_ofNat_four {k l : Nat} (hhigh : bits ≤ 4) (hm : m < 64) (hk : k < 64)
    (hl : l < 64) (hshort : bits = 0 → 0x10 ≤ m) (hlong : bits = 4 → m < 0x10) :
    encodeChar (Char.ofNat (((bits * 64 + m) * 64 + k) * 64 + l)) =
      [UInt8.ofNat (0xF0 + bits), UInt8.ofNat (0x80 + m), UInt8.ofNat (0x80 + k),
        UInt8.ofNat (0x80 + l)] := by
  have hone : ¬ ((bits * 64 + m) * 64 + k) * 64 + l < 0x80 := by omega
  have htwo : ¬ ((bits * 64 + m) * 64 + k) * 64 + l < 0x800 := by omega
  have hthree : ¬ ((bits * 64 + m) * 64 + k) * 64 + l < 0x10000 := by omega
  have hbits : (((bits * 64 + m) * 64 + k) * 64 + l) / 262144 = bits := by omega
  have hsecond : (((bits * 64 + m) * 64 + k) * 64 + l) / 4096 % 64 = m := by omega
  have hthird : (((bits * 64 + m) * 64 + k) * 64 + l) / 64 % 64 = k := by omega
  have hlast : (((bits * 64 + m) * 64 + k) * 64 + l) % 64 = l := by omega
  rw [encodeChar, toNat_ofNat_of_valid (by omega) (by omega)]
  simp only [if_neg hone, if_neg htwo, if_neg hthree, hbits, hsecond, hthird, hlast]

/-- **One character.** An octet between characters and those after it begin with the octets of the
    first character that is read. -/
theorem exists_encodeChar_of_decodeFrom {b : UInt8} {bytes : List UInt8} {cs : List Char}
    (h : decodeFrom none index (b :: bytes) = .ok cs) :
    ∃ c others rest index', cs = c :: others ∧ b :: bytes = encodeChar c ++ rest ∧
      decodeFrom none index' rest = .ok others := by
  have hb : b = UInt8.ofNat b.toNat := UInt8.ofNat_toNat.symm
  by_cases hone : b.toNat < 0x80
  · -- one octet, which is the number itself
    rw [decodeFrom, if_pos hone] at h
    obtain ⟨others, hothers, rfl⟩ := map_eq_ok h
    refine ⟨_, others, bytes, _, rfl, ?_, hothers⟩
    rw [encodeChar_ofNat_one hone, ← hb]
    rfl
  rw [decodeFrom, if_neg hone] at h
  split at h
  · cases h
  next p hp =>
  -- the first octet tells how many are owed, and each of them is there.
  rcases begin?_eq_some hp with ⟨bits, hbits, hmax, hlead, rfl⟩ |
    ⟨bits, low, high, hmax, hlead, rfl, hlow, hhigh, hshort, hsurrogate⟩ |
    ⟨bits, low, high, hmax, hlead, rfl, hlow, hhigh, hshort, hlong⟩
  · obtain ⟨m, rest, others, rfl, hm, -, -, rfl, hothers⟩ :=
      exists_of_decodeFrom_last (Nat.le_refl _) (Nat.le_refl _) h
    refine ⟨_, others, rest, _, rfl, ?_, hothers⟩
    rw [encodeChar_ofNat_two hbits hmax hm, hb, hlead]
    rfl
  · obtain ⟨m, rest, rfl, hm, hmlow, hmhigh, h⟩ := exists_of_decodeFrom_more hlow hhigh h
    obtain ⟨k, rest, others, rfl, hk, -, -, rfl, hothers⟩ :=
      exists_of_decodeFrom_last (Nat.le_refl _) (Nat.le_refl _) h
    refine ⟨_, others, rest, _, rfl, ?_, hothers⟩
    rw [encodeChar_ofNat_three hmax hm hk (by omega) (by omega), hb, hlead]
    rfl
  · obtain ⟨m, rest, rfl, hm, hmlow, hmhigh, h⟩ := exists_of_decodeFrom_more hlow hhigh h
    obtain ⟨k, rest, rfl, hk, -, -, h⟩ :=
      exists_of_decodeFrom_more (Nat.le_refl _) (Nat.le_refl _) h
    obtain ⟨l, rest, others, rfl, hl, -, -, rfl, hothers⟩ :=
      exists_of_decodeFrom_last (Nat.le_refl _) (Nat.le_refl _) h
    refine ⟨_, others, rest, _, rfl, ?_, hothers⟩
    rw [encodeChar_ofNat_four hmax hm hk hl (by omega) (by omega), hb, hlead]
    rfl

/-- Octets that are read as characters are the octets of these characters. -/
theorem eq_encodeChars_of_decodeFrom {bytes : List UInt8} {cs : List Char}
    (h : decodeFrom none index bytes = .ok cs) : bytes = encodeChars cs := by
  -- the induction is on the characters: each of them takes its octets from the front.
  induction cs generalizing bytes index with
  | nil =>
    cases bytes with
    | nil => rfl
    | cons b bytes =>
      obtain ⟨c, others, -, -, hcs, -, -⟩ := exists_encodeChar_of_decodeFrom h
      cases hcs
  | cons c cs ih =>
    cases bytes with
    | nil => cases h
    | cons b bytes =>
      obtain ⟨c, others, rest, index', hcs, hbytes, hrest⟩ := exists_encodeChar_of_decodeFrom h
      cases hcs
      rw [hbytes, ih hrest, encodeChars, encodeChars, List.flatMap_cons]

/-- **Exactness.** The only octets that are read as a text are the octets of the text. -/
theorem decode_eq_ok_iff {bytes : List UInt8} {s : String} :
    decode bytes = .ok s ↔ bytes = encode s := by
  constructor
  · intro h
    obtain ⟨cs, hcs, rfl⟩ := map_eq_ok h
    rw [encode, String.toList_ofList]
    exact eq_encodeChars_of_decodeFrom hcs
  · rintro rfl
    exact decode_encode s

/-! ### Zero octets -/

/-- Only zero has the octet zero. -/
theorem zero_eq_ofNat_iff {n : Nat} (h : n < 256) : (0 : UInt8) = UInt8.ofNat n ↔ n = 0 := by
  rw [← UInt8.toNat_inj, toNat_ofNat h]
  exact eq_comm

/-- NUL is written as a zero octet, and no other character has one. -/
theorem zero_mem_encodeChar_iff (c : Char) : (0 : UInt8) ∈ encodeChar c ↔ c = '\x00' := by
  have hnul : c = '\x00' ↔ c.toNat = 0 := Char.toNat_inj.symm
  obtain ⟨-, hmax⟩ := toNat_valid c
  rw [hnul]
  unfold encodeChar
  generalize c.toNat = n at hmax ⊢
  by_cases hone : n < 0x80
  · simp only [if_pos hone, List.mem_singleton]
    exact zero_eq_ofNat_iff (by omega)
  -- in a longer character every octet is 0x80 or more.
  have hne : ¬ n = 0 := by omega
  have hoctet : ∀ m : Nat, 0x80 ≤ m → m < 256 → ¬ (0 : UInt8) = UInt8.ofNat m := by
    intro m hlow hhigh hzero
    have hm := (zero_eq_ofNat_iff hhigh).1 hzero
    omega
  simp only [if_neg hone, hne, iff_false]
  split
  · simp only [List.mem_cons, List.not_mem_nil, or_false, not_or]
    exact ⟨hoctet _ (by omega) (by omega), hoctet _ (by omega) (by omega)⟩
  split
  · simp only [List.mem_cons, List.not_mem_nil, or_false, not_or]
    exact ⟨hoctet _ (by omega) (by omega), hoctet _ (by omega) (by omega),
      hoctet _ (by omega) (by omega)⟩
  · simp only [List.mem_cons, List.not_mem_nil, or_false, not_or]
    exact ⟨hoctet _ (by omega) (by omega), hoctet _ (by omega) (by omega),
      hoctet _ (by omega) (by omega), hoctet _ (by omega) (by omega)⟩

/-- **Zero octets.** A text has one if and only if it holds a NUL. -/
theorem zero_mem_encode_iff (s : String) : (0 : UInt8) ∈ encode s ↔ '\x00' ∈ s.toList := by
  rw [encode, encodeChars, List.mem_flatMap]
  constructor
  · rintro ⟨c, hc, hzero⟩
    rwa [← (zero_mem_encodeChar_iff c).1 hzero]
  · intro h
    exact ⟨_, h, (zero_mem_encodeChar_iff _).2 rfl⟩

end CommandWire.Utf8
