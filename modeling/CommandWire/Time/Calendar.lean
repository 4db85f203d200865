import CommandWire.Text.Basic

namespace CommandWire

/-!
# The Gregorian calendar

Days are counted from 1 January 1970 and the rule of leap years is used for all years, before the
calendar's introduction too.

* `CalendarDate.ofDay` — year, month and day of a day's number.
* `monthLength` — how many days a month has.
* `TimeOfDay.ofSecond` — hour, minute and second of a second's number in its day.
-/

/-- Whether a year has a day more than others. -/
def isLeapYear (year : Int) : Bool :=
  year.fmod 4 = 0 && (year.fmod 100 ≠ 0 || year.fmod 400 = 0)

/-- The number of days of a month from 1 to 12. -/
def monthLength (year : Int) (month : Nat) : Nat :=
  if month = 2 then if isLeapYear year then 29 else 28
  else if month = 4 ∨ month = 6 ∨ month = 9 ∨ month = 11 then 30
  else 31

/-- A day of the calendar.  Month and day count from 1. -/
structure CalendarDate where
  year : Int
  month : Nat
  day : Nat
deriving DecidableEq, Repr

/-- The date of the day with the given number.  Years are counted from March, so that the day a leap
    year adds is the last of its year, inside spans of 400 years, which all have 146097 days. -/
def CalendarDate.ofDay (number : Int) : CalendarDate :=
  let shifted := number + 719468
  let span := shifted.fdiv 146097
  let dayOfSpan := (shifted - span * 146097).toNat
  let yearOfSpan :=
    (dayOfSpan - dayOfSpan / 1460 + dayOfSpan / 36524 - dayOfSpan / 146096) / 365
  let dayOfYear := dayOfSpan - (365 * yearOfSpan + yearOfSpan / 4 - yearOfSpan / 100)
  let fromMarch := (5 * dayOfYear + 2) / 153
  let day := dayOfYear - (153 * fromMarch + 2) / 5 + 1
  let month := if fromMarch < 10 then fromMarch + 3 else fromMarch - 9
  let year := span * 400 + yearOfSpan
  ⟨if month ≤ 2 then year + 1 else year, month, day⟩

/-- A time of day to the second. -/
structure TimeOfDay where
  hour : Nat
  minute : Nat
  second : Nat
deriving DecidableEq, Repr

/-- The time that is `number` seconds after midnight. -/
def TimeOfDay.ofSecond (number : Nat) : TimeOfDay :=
  ⟨number / 3600, number / 60 % 60, number % 60⟩

/-- The text of a year: four digits from 0 to 9999, and signed with at least four digits else. -/
def yearText (year : Int) : String :=
  if 0 ≤ year ∧ year ≤ 9999 then Padded.text 4 year.toNat
  else (if year < 0 then "-" else "+") ++ Padded.text 4 year.natAbs

/-- The text of a date: year, month and day between hyphens. -/
def CalendarDate.text (d : CalendarDate) : String :=
  yearText d.year ++ "-" ++ Padded.text 2 d.month ++ "-" ++ Padded.text 2 d.day

end CommandWire
