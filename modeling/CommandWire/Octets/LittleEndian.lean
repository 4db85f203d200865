namespace CommandWire.LittleEndian

/-!
# Fixed-width little-endian numbers

Every number of the wire format is written least significant octet first, in a width that the
format fixes.  One pair of functions carries them all:

* `encode width n` — the `width` octets of `n`; what does not fit in them is dropped.
* `capacity width` — how many numbers fit in them.
* `decode octets` — the number that a sequence of octets stands for.
* `decode_encode`, `encode_decode` — the two are inverse on numbers that fit, and on octets.

The signed and unsigned words of the format are the same octets read through their two's
complement: `ofInt32`, `ofInt64`, `ofUInt32`, `ofUInt64` and their readers.
-/

/-- The `width` octets of `n`, least significant first. -/
def encode : Nat → Nat → List UInt8
  | 0, _ => []
  | width + 1, n => UInt8.ofNat (n % 256) :: encode width (n / 256)

/-- The number with the given octets, least significant first. -/
def decode : List UInt8 → Nat
  | [] => 0
  | b :: bs => b.toNat + 256 * decode bs

/-- How many numbers fit in a width: 256 times as many for each octet. -/
def capacity : Nat → Nat
  | 0 => 1
  | width + 1 => 256 * capacity width

/-- No octets hold no number. -/
@[simp] theorem encode_zero (n : Nat) : encode 0 n = [] := rfl

/-- The low octet comes first, and the rest of the number after it. -/
@[simp] theorem encode_succ (width n : Nat) :
    encode (width + 1) n = UInt8.ofNat (n % 256) :: encode width (n / 256) := rfl

/-- No octets stand for zero. -/
@[simp] theorem decode_nil : decode [] = 0 := rfl

/-- Each octet counts 256 times as much as the one before. -/
@[simp] theorem decode_cons (b : UInt8) (bs : List UInt8) :
    decode (b :: bs) = b.toNat + 256 * decode bs := rfl

/-- A number takes as many octets as are asked for. -/
@[simp] theorem length_encode (width n : Nat) : (encode width n).length = width := by
  induction width generalizing n with
  | zero => rfl
  | succ width ih => simp [ih]

/-- Reading back what was written gives the number modulo what the width can hold. -/
theorem decode_encode (width n : Nat) : decode (encode width n) = n % capacity width := by
  induction width generalizing n with
  | zero => simp [capacity, Nat.mod_one]
  | succ width ih =>
    have hb : (UInt8.ofNat (n % 256)).toNat = n % 256 := by
      simp [UInt8.toNat_ofNat']
    rw [encode_succ, decode_cons, ih, hb, capacity, Nat.mod_mul]

/-- Octets stand for a number that fits in as many octets. -/
theorem decode_lt (bs : List UInt8) : decode bs < capacity bs.length := by
  induction bs with
  | nil => simp [capacity]
  | cons b bs ih =>
    have hb : b.toNat < 256 := b.toNat_lt
    rw [decode_cons, List.length_cons, capacity]
    omega

/-- Octets are determined by the number they stand for and their count. -/
theorem encode_decode (bs : List UInt8) : encode bs.length (decode bs) = bs := by
  induction bs with
  | nil => rfl
  | cons b bs ih =>
    have hb : b.toNat < 256 := b.toNat_lt
    have hmod : (b.toNat + 256 * decode bs) % 256 = b.toNat := by omega
    have hdiv : (b.toNat + 256 * decode bs) / 256 = decode bs := by omega
    rw [List.length_cons, decode_cons, encode_succ, hmod, hdiv, ih, UInt8.ofNat_toNat]

/-! ### The words of the wire format -/

/-- The four octets of an unsigned word. -/
def ofUInt32 (n : UInt32) : List UInt8 := encode 4 n.toNat

/-- The eight octets of an unsigned long. -/
def ofUInt64 (n : UInt64) : List UInt8 := encode 8 n.toNat

/-- The four octets of a word, in two's complement. -/
def ofInt32 (n : Int32) : List UInt8 := ofUInt32 n.toUInt32

/-- The eight octets of a long, in two's complement. -/
def ofInt64 (n : Int64) : List UInt8 := ofUInt64 n.toUInt64

/-- The unsigned word of some octets; what is above 32 bits is lost. -/
def toUInt32 (bs : List UInt8) : UInt32 := UInt32.ofNat (decode bs)

/-- The unsigned long of some octets; what is above 64 bits is lost. -/
def toUInt64 (bs : List UInt8) : UInt64 := UInt64.ofNat (decode bs)

/-- The word of some octets, in two's complement. -/
def toInt32 (bs : List UInt8) : Int32 := (toUInt32 bs).toInt32

/-- The long of some octets, in two's complement. -/
def toInt64 (bs : List UInt8) : Int64 := (toUInt64 bs).toInt64

/-- An unsigned word takes four octets. -/
@[simp] theorem length_ofUInt32 (n : UInt32) : (ofUInt32 n).length = 4 := length_encode 4 _

/-- An unsigned long takes eight octets. -/
@[simp] theorem length_ofUInt64 (n : UInt64) : (ofUInt64 n).length = 8 := length_encode 8 _

/-- A word takes four octets. -/
@[simp] theorem length_ofInt32 (n : Int32) : (ofInt32 n).length = 4 := length_encode 4 _

/-- A long takes eight octets. -/
@[simp] theorem length_ofInt64 (n : Int64) : (ofInt64 n).length = 8 := length_encode 8 _

/-- An unsigned word is read back from its octets. -/
@[simp] theorem toUInt32_ofUInt32 (n : UInt32) : toUInt32 (ofUInt32 n) = n := by
  have hn : n.toNat < capacity 4 := n.toNat_lt
  rw [toUInt32, ofUInt32, decode_encode, Nat.mod_eq_of_lt hn, UInt32.ofNat_toNat]

/-- An unsigned long is read back from its octets. -/
@[simp] theorem toUInt64_ofUInt64 (n : UInt64) : toUInt64 (ofUInt64 n) = n := by
  have hn : n.toNat < capacity 8 := n.toNat_lt
  rw [toUInt64, ofUInt64, decode_encode, Nat.mod_eq_of_lt hn, UInt64.ofNat_toNat]

/-- A word is read back from its octets. -/
@[simp] theorem toInt32_ofInt32 (n : Int32) : toInt32 (ofInt32 n) = n := by
  simp [toInt32, ofInt32]

/-- A long is read back from its octets. -/
@[simp] theorem toInt64_ofInt64 (n : Int64) : toInt64 (ofInt64 n) = n := by
  simp [toInt64, ofInt64]

end CommandWire.LittleEndian
