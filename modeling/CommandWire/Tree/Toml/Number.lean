import CommandWire.Number.Binary64
import CommandWire.Text.Basic
import CommandWire.Tree.Basic

namespace CommandWire.Toml

/-!
# Numbers in TOML

* `number?` — integers in four bases, numbers with a fraction or an exponent, and the words for
  infinity and for what is not a number.

An integer has to fit 64 bits.  Of the numbers that are no integers, a positive one may not be too
large for a double; a negative one may.
-/

/-! ### Digits -/

/-- Further digits with single underscores in front of them, without the underscores, and what
    follows. -/
def moreDigits? (isDigit : Char → Bool) : List Char → Option (List Char × List Char)
  | [] => some ([], [])
  | '_' :: c :: cs =>
    if isDigit c then (moreDigits? isDigit cs).map fun found => (c :: found.1, found.2) else none
  | c :: cs =>
    if c = '_' then none
    else if isDigit c then (moreDigits? isDigit cs).map fun found => (c :: found.1, found.2)
    else some ([], c :: cs)

/-- Digits with single underscores between them, without the underscores, and what follows. -/
def digitRun? (isDigit : Char → Bool) : List Char → Option (List Char × List Char)
  | [] => none
  | c :: cs =>
    if isDigit c then (moreDigits? isDigit cs).map fun found => (c :: found.1, found.2) else none

/-- The number that digits of a base stand for. -/
def natOfDigits (base : Nat) (digits : List Char) : Nat :=
  digits.foldl (fun n c => base * n + (Hex.value? c).getD 0) 0

/-! ### Integers -/

/-- An integer, if it fits 64 bits. -/
def integer? (n : Int) : Option Tree :=
  if -9223372036854775808 ≤ n ∧ n < 9223372036854775808 then some (.integer n) else none

/-- A digit of a base up to sixteen. -/
def isDigitOf (base : Nat) (c : Char) : Bool :=
  match Hex.value? c with
  | some d => d < base
  | none => false

/-- An integer after the mark of its base. -/
def based? (base : Nat) (cs : List Char) : Option (Tree × List Char) := do
  let (digits, rest) ← digitRun? (isDigitOf base) cs
  let tree ← integer? (natOfDigits base digits)
  some (tree, rest)

/-! ### Decimal numbers -/

/-- The digits of a fraction, if there is one, and what follows. -/
def fraction? : List Char → Option (Option (List Char) × List Char)
  | '.' :: cs => (digitRun? Char.isDigit cs).map fun found => (some found.1, found.2)
  | cs => some (none, cs)

/-- Characters without a sign in front. -/
def dropSign : List Char → List Char
  | '+' :: cs => cs
  | '-' :: cs => cs
  | cs => cs

/-- An exponent, if there is one, and what follows. -/
def exponent? : List Char → Option (Option Int × List Char)
  | [] => some (none, [])
  | c :: cs =>
    if c = 'e' ∨ c = 'E' then
      (digitRun? Char.isDigit (dropSign cs)).map fun (digits, rest) =>
        let n : Int := natOfDigits 10 digits
        (some (if cs.head? == some '-' then -n else n), rest)
    else some (none, c :: cs)

/-- A number that is no integer, unless it is positive and too large for a double. -/
def real? (negative : Bool) (mantissa : Nat) (scale : Int) : Option Tree :=
  if !negative && Binary64.overflows mantissa scale then none else some .real

/-- A decimal number without its sign. -/
def decimal? (negative : Bool) (cs : List Char) : Option (Tree × List Char) := do
  let (whole, cs) ← digitRun? Char.isDigit cs
  if whole.head? == some '0' && whole.length != 1 then none
  else
    let (fraction, cs) ← fraction? cs
    let (exponent, cs) ← exponent? cs
    let digits := whole ++ fraction.getD []
    let n := natOfDigits 10 digits
    if fraction.isSome || exponent.isSome then
      let scale : Int := exponent.getD 0 - (fraction.getD []).length
      let tree ← real? negative n scale
      some (tree, cs)
    else
      let tree ← integer? (if negative then -(n : Int) else n)
      some (tree, cs)

/-- A number without its sign. -/
def unsigned? (negative : Bool) : List Char → Option (Tree × List Char)
  | 'i' :: 'n' :: 'f' :: cs => some (.real, cs)
  | 'n' :: 'a' :: 'n' :: cs => some (.real, cs)
  | cs => decimal? negative cs

/-- A number in front, and what follows. -/
def number? : List Char → Option (Tree × List Char)
  | '0' :: 'x' :: cs => based? 16 cs
  | '0' :: 'o' :: cs => based? 8 cs
  | '0' :: 'b' :: cs => based? 2 cs
  | '+' :: cs => unsigned? false cs
  | '-' :: cs => unsigned? true cs
  | cs => unsigned? false cs

end CommandWire.Toml
