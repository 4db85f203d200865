import CommandWire.Time.Calendar

namespace CommandWire.Toml

/-!
# Dates and times in TOML

A moment is a date, a time of day, or a date with a time of day, which may say how far its clock is
from the universal one.  Only its form is read, because no setting is a moment.

* `date?`, `clock?`, `offset?` — what follows a date, a time of day and the offset of a clock.
* `moment?` — what follows a moment.
-/

/-- A number of two digits between two bounds, and what follows. -/
def twoDigits? (low high : Nat) : List Char → Option (Nat × List Char)
  | tens :: ones :: cs =>
    if tens.isDigit && ones.isDigit then
      let n := 10 * (tens.toNat - 48) + (ones.toNat - 48)
      if low ≤ n ∧ n ≤ high then some (n, cs) else none
    else none
  | _ => none

/-- What follows a mark between two numbers. -/
def afterMark? (mark : Char) : List Char → Option (List Char)
  | [] => none
  | c :: cs => if c = mark then some cs else none

/-- What follows a date: a year of four digits, a month, and a day that the month has. -/
def date? (cs : List Char) : Option (List Char) := do
  let (century, cs) ← twoDigits? 0 99 cs
  let (yearOfCentury, cs) ← twoDigits? 0 99 cs
  let cs ← afterMark? '-' cs
  let (month, cs) ← twoDigits? 1 12 cs
  let cs ← afterMark? '-' cs
  let year := 100 * century + yearOfCentury
  let (_, cs) ← twoDigits? 1 (monthLength year month) cs
  some cs

/-- What follows the fraction of a second; a point before no digit is none. -/
def skipFraction : List Char → List Char
  | '.' :: c :: cs => if c.isDigit then cs.dropWhile Char.isDigit else '.' :: c :: cs
  | cs => cs

/-- What follows a time of day.  A minute may end with a leap second. -/
def clock? (cs : List Char) : Option (List Char) := do
  let (_, cs) ← twoDigits? 0 23 cs
  let cs ← afterMark? ':' cs
  let (_, cs) ← twoDigits? 0 59 cs
  let cs ← afterMark? ':' cs
  let (_, cs) ← twoDigits? 0 60 cs
  some (skipFraction cs)

/-- What follows the offset of a clock, which may be missing. -/
def offset? : List Char → Option (List Char)
  | [] => some []
  | c :: cs =>
    if c = 'Z' ∨ c = 'z' then some cs
    else if c = '+' ∨ c = '-' then do
      let (_, cs) ← twoDigits? 0 23 cs
      let cs ← afterMark? ':' cs
      let (_, cs) ← twoDigits? 0 59 cs
      some cs
    else some (c :: cs)

/-- What follows the time of day that a date may have; a blank before no time ends the date. -/
def clockOfDate? : List Char → Option (List Char)
  | [] => some []
  | c :: cs =>
    if c = 'T' ∨ c = 't' ∨ c = ' ' then
      match clock? cs with
      | some rest => offset? rest
      | none => some (c :: cs)
    else some (c :: cs)

/-- What follows a moment. -/
def moment? (cs : List Char) : Option (List Char) :=
  match date? cs with
  | some rest => clockOfDate? rest
  | none => clock? cs

end CommandWire.Toml
