import CommandWire.Octets.LittleEndian

namespace CommandWire.Octets

/-!
# Reading from the front of a sequence of octets

A reader takes octets from the front of its input and gives back what it read together with
what is left, or `none` when the input is too short.

* `take?` — a fixed count of octets.
* `takeInt32?`, `takeInt64?`, `takeUInt32?`, `takeUInt64?` — one word of the wire format.
* `takeUntilNul?` — the octets before the first zero octet, which is consumed too.
* `take?_append` and its companions — a reader undoes the matching writer, whatever follows.
-/

/-- The first `count` octets and the rest. -/
def take? (count : Nat) (bytes : List UInt8) : Option (List UInt8 × List UInt8) :=
  if bytes.length < count then none else some (bytes.take count, bytes.drop count)

/-- As many octets are taken as are asked for, and what follows is left. -/
theorem take?_append {count : Nat} {front : List UInt8} (rest : List UInt8)
    (h : front.length = count) : take? count (front ++ rest) = some (front, rest) := by
  subst h
  simp [take?]

/-- What was taken and what is left make up the input. -/
theorem eq_append_of_take? {count : Nat} {bytes front rest : List UInt8}
    (h : take? count bytes = some (front, rest)) :
    bytes = front ++ rest ∧ front.length = count := by
  unfold take? at h
  split at h
  · cases h
  · next hlen =>
    cases h
    constructor
    · exact (List.take_append_drop count bytes).symm
    · rw [List.length_take]; omega

/-- One 32-bit word. -/
def takeUInt32? (bytes : List UInt8) : Option (UInt32 × List UInt8) := do
  let (front, rest) ← take? 4 bytes
  some (LittleEndian.toUInt32 front, rest)

/-- One 64-bit word. -/
def takeUInt64? (bytes : List UInt8) : Option (UInt64 × List UInt8) := do
  let (front, rest) ← take? 8 bytes
  some (LittleEndian.toUInt64 front, rest)

/-- One signed 32-bit word. -/
def takeInt32? (bytes : List UInt8) : Option (Int32 × List UInt8) := do
  let (front, rest) ← take? 4 bytes
  some (LittleEndian.toInt32 front, rest)

/-- One signed 64-bit word. -/
def takeInt64? (bytes : List UInt8) : Option (Int64 × List UInt8) := do
  let (front, rest) ← take? 8 bytes
  some (LittleEndian.toInt64 front, rest)

/-- An unsigned word in front is taken. -/
@[simp] theorem takeUInt32?_append (n : UInt32) (rest : List UInt8) :
    takeUInt32? (LittleEndian.ofUInt32 n ++ rest) = some (n, rest) := by
  simp [takeUInt32?, take?_append rest (LittleEndian.length_ofUInt32 n)]

/-- An unsigned long in front is taken. -/
@[simp] theorem takeUInt64?_append (n : UInt64) (rest : List UInt8) :
    takeUInt64? (LittleEndian.ofUInt64 n ++ rest) = some (n, rest) := by
  simp [takeUInt64?, take?_append rest (LittleEndian.length_ofUInt64 n)]

/-- A word in front is taken. -/
@[simp] theorem takeInt32?_append (n : Int32) (rest : List UInt8) :
    takeInt32? (LittleEndian.ofInt32 n ++ rest) = some (n, rest) := by
  simp [takeInt32?, take?_append rest (LittleEndian.length_ofInt32 n)]

/-- A long in front is taken. -/
@[simp] theorem takeInt64?_append (n : Int64) (rest : List UInt8) :
    takeInt64? (LittleEndian.ofInt64 n ++ rest) = some (n, rest) := by
  simp [takeInt64?, take?_append rest (LittleEndian.length_ofInt64 n)]

/-- The octets before the first zero octet, and what follows that octet. -/
def takeUntilNul? : List UInt8 → Option (List UInt8 × List UInt8)
  | [] => none
  | b :: bs =>
    if b = 0 then some ([], bs)
    else (takeUntilNul? bs).map fun (front, rest) => (b :: front, rest)

/-- Octets without a NUL are taken up to the first one, which is dropped. -/
theorem takeUntilNul?_append {front : List UInt8} (rest : List UInt8) (h : 0 ∉ front) :
    takeUntilNul? (front ++ 0 :: rest) = some (front, rest) := by
  induction front with
  | nil => simp [takeUntilNul?]
  | cons b bs ih =>
    have hb : b ≠ 0 := fun hb => h (by simp [hb])
    have hbs : 0 ∉ bs := fun hbs => h (List.mem_cons_of_mem _ hbs)
    simp [takeUntilNul?, hb, ih hbs]

end CommandWire.Octets
