import CommandWire.Error
import CommandWire.Time.Instant
import CommandWire.Tree.Basic
import CommandWire.Value.Basic

namespace CommandWire

/-!
# Times of replicated operations

* `OpTime` — the seconds and the term that label a replicated operation.
* `OpTime.compare` — first by seconds, then by term, both unsigned.
* `OpTime.packed`, `OpTime.ofPacked` — both numbers in one long, the seconds in its high half.
* `OpTime.ofInstant` — the seconds of an instant with its nanoseconds as the term, if the seconds fit
  an unsigned word.
* `OpTime.ofTree?`, `OpTime.toTree` — a time as a tree with the parts `secs` and `term`.
-/

/-- When an operation took place: its second, and a term that tells it from others of that second. -/
structure OpTime where
  secs : UInt32
  term : UInt32
deriving DecidableEq, Repr

namespace OpTime

/-- The time before every other. -/
def epoch : OpTime := ⟨0, 0⟩

/-! ### Order -/

/-- The order of operations: by seconds, then by term. -/
def compare (a b : OpTime) : Ordering :=
  (Ord.compare a.secs b.secs).then (Ord.compare a.term b.term)

instance : Ord OpTime := ⟨OpTime.compare⟩

/-- Whether a time is after another. -/
def isAfter (a b : OpTime) : Bool := a.compare b == .gt

/-- Whether a time is another or after it. -/
def isEqualOrAfter (a b : OpTime) : Bool := a.compare b != .lt

/-- Whether a time is before another. -/
def isBefore (a b : OpTime) : Bool := a.compare b == .lt

/-- Whether a time is another or before it. -/
def isEqualOrBefore (a b : OpTime) : Bool := a.compare b != .gt

/-- The times in ascending order. -/
def sorted (ts : List OpTime) : List OpTime := ts.mergeSort isEqualOrBefore

/-! ### Other forms -/

/-- Both numbers as one: the seconds in the high half. -/
def toNat (t : OpTime) : Nat := t.secs.toNat * UInt32.size + t.term.toNat

/-- Both words in one long, the seconds in its upper half. -/
def packed (t : OpTime) : Int64 := (UInt64.ofNat t.toNat).toInt64

/-- The time whose words are the halves of a long. -/
def ofPacked (packed : Int64) : OpTime :=
  let n := packed.toUInt64.toNat
  ⟨UInt32.ofNat (n / UInt32.size), UInt32.ofNat n⟩

/-- The milliseconds from 1970 to the seconds of the time. -/
def millis (t : OpTime) : Nat := t.secs.toNat * 1000

/-- The timestamp of the same two words. -/
def toTimestamp (t : OpTime) : Timestamp := ⟨t.secs, t.term⟩

/-- The time of the same two words as a timestamp. -/
def ofTimestamp (t : Timestamp) : OpTime := ⟨t.time, t.increment⟩

/-- The seconds of an instant with a given term. -/
def ofInstantWithTerm (t : Instant) (term : UInt32) : Checked OpTime :=
  if 0 ≤ t.seconds ∧ t.seconds < UInt32.size then .ok ⟨UInt32.ofNat t.seconds.toNat, term⟩
  else
    .error (.badValue ("optime " ++ t.text ++ " is outside the unsigned 32-bit seconds range"))

/-- The seconds of an instant with its nanoseconds as the term. -/
def ofInstant (t : Instant) : Checked OpTime := ofInstantWithTerm t (UInt32.ofNat t.nanos)

/-- The time that a tree gives: both numbers have to be there. -/
def ofTree? (t : Tree) : Option OpTime := do
  match ← t.fields .refused ["secs", "term"] with
  | [some secs, some term] =>
    let secs ← secs.toCount? UInt32.size
    let term ← term.toCount? UInt32.size
    some ⟨UInt32.ofNat secs, UInt32.ofNat term⟩
  | _ => none

/-- The tree of a time. -/
def toTree (t : OpTime) : Tree :=
  .record [(some "secs", .integer t.secs.toNat), (some "term", .integer t.term.toNat)]

/-- The text of a time. -/
def text (t : OpTime) : String :=
  "\x7bt: " ++ toString t.secs.toNat ++ ", i: " ++ toString t.term.toNat ++ "\x7d"

end OpTime

end CommandWire
