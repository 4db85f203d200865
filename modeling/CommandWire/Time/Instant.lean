import CommandWire.Time.Calendar

namespace CommandWire

/-!
# Instants

A point in time, as seconds since 1 January 1970 and nanoseconds after that second.

* `Instant` — every instant lies in the years -262143 to 262142, and carries a second's worth of
  nanoseconds, or up to two in the last second of a minute: a leap second.
* `Instant.ofParts?`, `Instant.ofMillis?` — the instant of given numbers, if they are in range.
* `Instant.millis` — whole milliseconds since 1970, rounded down.
* `Instant.text` — the text of an instant in messages.
-/

namespace Instant

/-- The first second of the year -262143. -/
def firstSecond : Int := -8334601228800

/-- The last second of the year 262142. -/
def lastSecond : Int := 8210266876799

/-- Nanoseconds fit in one second, or in two when the second is the last of its minute. -/
def ValidNanos (seconds : Int) (nanos : Nat) : Prop :=
  nanos < 1000000000 ∨ (nanos < 2000000000 ∧ seconds % 60 = 59)

instance (seconds : Int) (nanos : Nat) : Decidable (ValidNanos seconds nanos) :=
  inferInstanceAs (Decidable (_ ∨ _))

end Instant

/-- A point in time: seconds since the beginning of 1970 and nanoseconds after them, which go beyond
    a second in a leap second only.  Instants outside the calendar's years do not exist. -/
structure Instant where
  seconds : Int
  nanos : Nat
  first_le : Instant.firstSecond ≤ seconds
  le_last : seconds ≤ Instant.lastSecond
  validNanos : Instant.ValidNanos seconds nanos
deriving DecidableEq

namespace Instant

/-- The instant `nanos` nanoseconds after the second `seconds`, if it is one. -/
def ofParts? (seconds : Int) (nanos : Nat) : Option Instant :=
  if h : firstSecond ≤ seconds ∧ seconds ≤ lastSecond ∧ ValidNanos seconds nanos then
    some ⟨seconds, nanos, h.1, h.2.1, h.2.2⟩
  else none

/-- The instant a number of milliseconds after 1970, if it is in range. -/
def ofMillis? (millis : Int) : Option Instant :=
  ofParts? (millis / 1000) ((millis % 1000).toNat * 1000000)

/-- Whole milliseconds since 1970. -/
def millis (t : Instant) : Int := t.seconds * 1000 + (t.nanos / 1000000 : Nat)

/-- Whether the instant lies inside a leap second. -/
def inLeapSecond (t : Instant) : Bool := 1000000000 ≤ t.nanos

/-- The first instant of 1970. -/
def epoch : Instant :=
  ⟨0, 0, by decide, by decide, Or.inl (by decide)⟩

/-! ### Text -/

/-- The digits after the point: none for a whole second, else the fewest of 3, 6 and 9 that are
    exact. -/
def fractionText (nanos : Nat) : String :=
  if nanos = 0 then ""
  else if nanos % 1000000 = 0 then "." ++ Padded.text 3 (nanos / 1000000)
  else if nanos % 1000 = 0 then "." ++ Padded.text 6 (nanos / 1000)
  else "." ++ Padded.text 9 nanos

/-- Date, time of day and `UTC`; a leap second is counted as one more second of its minute. -/
def text (t : Instant) : String :=
  let date := CalendarDate.ofDay (t.seconds / 86400)
  let time := TimeOfDay.ofSecond (t.seconds % 86400).toNat
  let second := if t.inLeapSecond then time.second + 1 else time.second
  date.text ++ " " ++ Padded.text 2 time.hour ++ ":" ++ Padded.text 2 time.minute ++ ":" ++
    Padded.text 2 second ++ fractionText (t.nanos % 1000000000) ++ " UTC"

end Instant

end CommandWire
