import CommandWire.Number.Binary64

namespace CommandWire

/-!
# The shortest decimal text of a double

The text of a double shows the fewest decimal digits that still read back as it.

* `Decimal` — a natural number of digits scaled by a power of ten, and its positional text.
* `Binary64.shortest` — of the grids of 1, 2, … 17 digits, the first that has a point among the
  numbers which round to the double, and on it the point nearest to the double; of two equally near
  ones the upper.
* `Binary64.text` — the positional text, never with an exponent and without a fraction of zero.
-/

/-- The number `digits · 10^exponent`. -/
structure Decimal where
  digits : Nat
  exponent : Int
deriving DecidableEq, Repr

/-- Positional text: zeros fill the places up to the point, and a point stands only before digits. -/
def Decimal.positional (d : Decimal) : String :=
  let ds := Nat.toDigits 10 d.digits
  if 0 ≤ d.exponent then String.ofList (ds ++ List.replicate d.exponent.toNat '0')
  else
    let places := (-d.exponent).toNat
    if places < ds.length then
      let whole := ds.length - places
      String.ofList (ds.take whole ++ '.' :: ds.drop whole)
    else String.ofList ('0' :: '.' :: (List.replicate (places - ds.length) '0' ++ ds))

/-- Drops zeros at the end of the digits; `fuel` bounds their count. -/
def Decimal.trim : Nat → Decimal → Decimal
  | 0, d => d
  | fuel + 1, d =>
    if d.digits ≠ 0 ∧ d.digits % 10 = 0 then Decimal.trim fuel ⟨d.digits / 10, d.exponent + 1⟩
    else d

namespace Binary64

/-- The numbers that round to a double: those between `low / unit` and `high / unit`, the ends
    included when `closed`, around `value / unit`. -/
structure Span where
  low : Nat
  value : Nat
  high : Nat
  unit : Nat
  closed : Bool
deriving Repr

/-- The span of the double `mantissa · 2^exponent`.  Below a power of two the doubles lie twice as
    close, so the span reaches only half as far down. -/
def Span.of (mantissa : Nat) (exponent : Int) : Span :=
  let down := if mantissa = leadingBit ∧ exponent ≠ -1074 then 1 else 2
  let up := 1 <<< (exponent - 2).toNat
  let unit := 1 <<< (2 - exponent).toNat
  ⟨(4 * mantissa - down) * up, 4 * mantissa * up, (4 * mantissa + 2) * up, unit,
    mantissa % 2 = 0⟩

/-- Whether a span holds `n / unit`. -/
def Span.holds (s : Span) (n : Nat) : Bool :=
  if s.closed then s.low ≤ n && n ≤ s.high else s.low < n && n < s.high

/-- The span measured in units of `10^exponent`. -/
def Span.scaled (s : Span) (exponent : Int) : Span :=
  let times := Nat.pow 10 (-exponent).toNat
  ⟨s.low * times, s.value * times, s.high * times, s.unit * Nat.pow 10 exponent.toNat, s.closed⟩

/-- The multiple of `10^exponent` in the span that is nearest to the double. -/
def Span.nearest? (s : Span) (exponent : Int) : Option Decimal :=
  let t := s.scaled exponent
  let below := t.value / t.unit
  let lower := t.holds (below * t.unit)
  let upper := t.holds ((below + 1) * t.unit)
  if upper && (!lower || t.unit ≤ 2 * (t.value % t.unit)) then some ⟨below + 1, exponent⟩
  else if lower then some ⟨below, exponent⟩
  else none

/-- The exponent of the first digit of a number below one; `fuel` bounds the zeros tried. -/
def Span.leadBelowOne (s : Span) : Nat → Nat → Int
  | 0, zeros => -zeros
  | fuel + 1, zeros =>
    if s.unit ≤ s.value * Nat.pow 10 zeros then -zeros else s.leadBelowOne fuel (zeros + 1)

/-- The exponent of the first decimal digit. -/
def Span.lead (s : Span) : Int :=
  if s.unit ≤ s.value then ((Nat.toDigits 10 (s.value / s.unit)).length : Int) - 1
  else s.leadBelowOne 400 1

/-- The first of the grids with `count`, `count + 1`, … digits that has a point in the span. -/
def Span.search (s : Span) (lead : Int) : Nat → Nat → Decimal
  | 0, count => ⟨(s.scaled (lead - count)).value / (s.scaled (lead - count)).unit, lead - count⟩
  | fuel + 1, count =>
    match s.nearest? (lead - count) with
    | some d => d
    | none => s.search lead fuel (count + 1)

/-- The shortest decimal that reads back as `mantissa · 2^exponent`, for a mantissa above zero. -/
def shortest (mantissa : Nat) (exponent : Int) : Decimal :=
  let s := Span.of mantissa exponent
  (s.search s.lead 17 0).trim 20

/-- The text of a double. -/
def text (x : Binary64) : String :=
  match x.view with
  | .nan => "NaN"
  | .infinite negative => if negative then "-inf" else "inf"
  | .finite negative mantissa exponent =>
    let size := if mantissa = 0 then "0" else (shortest mantissa exponent).positional
    if negative then "-" ++ size else size

end Binary64

end CommandWire
