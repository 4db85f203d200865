namespace CommandWire.Utf8

/-!
# UTF-8

Text is stored on the wire as UTF-8.  Writing never fails; reading does, and says where.

* `encode` — the octets of a text.
* `decode` — the text of a sequence of octets.  It walks the octets one by one and remembers, inside
  a character, how many octets are owed and between which bounds the next one has to lie.
* `Fault` — why octets are not a text: an octet that cannot continue the character begun before it,
  or an input that ends inside a character.
-/

/-! ### Writing -/

/-- The octets of one character: one below 0x80, two below 0x800, three below 0x10000, else four. -/
def encodeChar (c : Char) : List UInt8 :=
  let n := c.toNat
  if n < 0x80 then [UInt8.ofNat n]
  else if n < 0x800 then [UInt8.ofNat (0xC0 + n / 64), UInt8.ofNat (0x80 + n % 64)]
  else if n < 0x10000 then
    [UInt8.ofNat (0xE0 + n / 4096), UInt8.ofNat (0x80 + n / 64 % 64), UInt8.ofNat (0x80 + n % 64)]
  else
    [UInt8.ofNat (0xF0 + n / 262144), UInt8.ofNat (0x80 + n / 4096 % 64),
      UInt8.ofNat (0x80 + n / 64 % 64), UInt8.ofNat (0x80 + n % 64)]

/-- The octets of characters, one after another. -/
def encodeChars (cs : List Char) : List UInt8 := cs.flatMap encodeChar

/-- The octets of a text. -/
def encode (s : String) : List UInt8 := encodeChars s.toList

/-! ### Reading -/

/-- Why a sequence of octets is not a text. -/
inductive Fault where
  /-- The `count` octets from `index` on begin a character that the octet after them, or already
      the first of them, cannot belong to. -/
  | invalid (index count : Nat)
  /-- The input ends inside the character that begins at `index`. -/
  | incomplete (index : Nat)
deriving DecidableEq, Repr

/-- The text of a fault. -/
def Fault.message : Fault → String
  | .invalid index count => s!"invalid utf-8 sequence of {count} bytes from index {index}"
  | .incomplete index => s!"incomplete utf-8 byte sequence from index {index}"

/-- A character of which some octets have been read. -/
structure Pending where
  /-- Where its first octet stands. -/
  start : Nat
  /-- How many of its octets have been read. -/
  seen : Nat
  /-- The bits read so far. -/
  bits : Nat
  /-- How many octets are owed after the next one. -/
  owed : Nat
  /-- The least value of the next octet. -/
  low : Nat
  /-- The greatest value of the next octet. -/
  high : Nat
deriving DecidableEq, Repr

/-- What an octet of 0x80 or more begins at `index`.  The bounds on the second octet rule out
    characters written longer than need be, surrogates and numbers above 0x10FFFF. -/
def Pending.begin? (index b : Nat) : Option Pending :=
  if b < 0xC2 then none
  else if b < 0xE0 then some ⟨index, 1, b - 0xC0, 0, 0x80, 0xBF⟩
  else if b = 0xE0 then some ⟨index, 1, 0, 1, 0xA0, 0xBF⟩
  else if b = 0xED then some ⟨index, 1, 0xD, 1, 0x80, 0x9F⟩
  else if b < 0xF0 then some ⟨index, 1, b - 0xE0, 1, 0x80, 0xBF⟩
  else if b = 0xF0 then some ⟨index, 1, 0, 2, 0x90, 0xBF⟩
  else if b < 0xF4 then some ⟨index, 1, b - 0xF0, 2, 0x80, 0xBF⟩
  else if b = 0xF4 then some ⟨index, 1, 4, 2, 0x80, 0x8F⟩
  else none

/-- The bits of a character once octet `b` has been added. -/
def Pending.bitsWith (p : Pending) (b : Nat) : Nat := p.bits * 64 + (b - 0x80)

/-- Reads octets, the first of which stands at `index`, inside the character `pending` if any. -/
def decodeFrom : Option Pending → Nat → List UInt8 → Except Fault (List Char)
  | none, _, [] => .ok []
  | some p, _, [] => .error (.incomplete p.start)
  | none, index, b :: bs =>
    if b.toNat < 0x80 then
      (decodeFrom none (index + 1) bs).map (Char.ofNat b.toNat :: ·)
    else
      match Pending.begin? index b.toNat with
      | none => .error (.invalid index 1)
      | some p => decodeFrom (some p) (index + 1) bs
  | some p, index, b :: bs =>
    if p.low ≤ b.toNat ∧ b.toNat ≤ p.high then
      match p.owed with
      | 0 => (decodeFrom none (index + 1) bs).map (Char.ofNat (p.bitsWith b.toNat) :: ·)
      | owed + 1 =>
        decodeFrom (some ⟨p.start, p.seen + 1, p.bitsWith b.toNat, owed, 0x80, 0xBF⟩)
          (index + 1) bs
    else .error (.invalid p.start p.seen)

/-- The text that a sequence of octets stands for. -/
def decode (bytes : List UInt8) : Except Fault String :=
  (decodeFrom none 0 bytes).map String.ofList

/-- The text that a sequence of octets stands for, if any. -/
def decode? (bytes : List UInt8) : Option String := (decode bytes).toOption

end CommandWire.Utf8
