namespace CommandWire

/-!
# Numbers and octets as text

* `CharRange.covers` — whether a character lies in one of some ranges.
* `Padded.text`, `Padded.dropTrailingZeros` — the decimal digits of a number, at least as many as asked
  for, and digits up to the last one that is not zero.
* `Hex.encode`, `Hex.decode?` — octets as two lower-case digits each, and the octets of an even number
  of digits of either case; `Hex.ofNat`, `Hex.toNat?` — a number as digits.
* `Base64.encode` — four characters for every three octets; a last group of one or two octets is
  filled up with `=`.
-/

namespace CharRange

/-- Whether a character lies in one of the ranges, both ends included. -/
def covers (ranges : List (Nat × Nat)) (c : Char) : Bool :=
  ranges.any fun (first, last) => first ≤ c.toNat && c.toNat ≤ last

end CharRange

namespace Padded

/-- The digits of `n` with zeros in front up to `width` characters. -/
def text (width n : Nat) : String :=
  let digits := Nat.toDigits 10 n
  String.ofList (List.replicate (width - digits.length) '0' ++ digits)

/-- Digits without the zeros at their end. -/
def dropTrailingZeros (digits : List Char) : List Char :=
  (digits.reverse.dropWhile (· = '0')).reverse

end Padded

namespace Hex

/-- The lower-case digit of a number below sixteen. -/
def digit (n : Nat) : Char := Nat.digitChar n

/-- The number that a digit of either case stands for. -/
def value? (c : Char) : Option Nat :=
  if '0' ≤ c ∧ c ≤ '9' then some (c.toNat - '0'.toNat)
  else if 'a' ≤ c ∧ c ≤ 'f' then some (c.toNat - 'a'.toNat + 10)
  else if 'A' ≤ c ∧ c ≤ 'F' then some (c.toNat - 'A'.toNat + 10)
  else none

/-- The digits of octets, the upper half of each first. -/
def encodeChars (bytes : List UInt8) : List Char :=
  bytes.flatMap fun b => [digit (b.toNat / 16), digit (b.toNat % 16)]

/-- The octets of digits, two for each. -/
def decodeChars? : List Char → Option (List UInt8)
  | [] => some []
  | [_] => none
  | high :: low :: rest => do
    let h ← value? high
    let l ← value? low
    let bytes ← decodeChars? rest
    some (UInt8.ofNat (16 * h + l) :: bytes)

/-- Octets as hexadecimal text. -/
def encode (bytes : List UInt8) : String := String.ofList (encodeChars bytes)

/-- The octets of a hexadecimal text, unless it holds something else or half an octet. -/
def decode? (s : String) : Option (List UInt8) := decodeChars? s.toList

/-- The number that digits of either case stand for. -/
def toNat? (digits : List Char) : Option Nat :=
  (digits.mapM value?).map fun values => values.foldl (fun n d => 16 * n + d) 0

/-- The digits of a number without leading zeros, `0` for zero. -/
def ofNat (n : Nat) : String := String.ofList (Nat.toDigits 16 n)

end Hex

namespace Base64

/-- The character of a number below sixty-four. -/
def symbol (n : Nat) : Char :=
  if n < 26 then Char.ofNat ('A'.toNat + n)
  else if n < 52 then Char.ofNat ('a'.toNat + (n - 26))
  else if n < 62 then Char.ofNat ('0'.toNat + (n - 52))
  else if n = 62 then '+'
  else '/'

/-- The characters of octets, four for each three. -/
def encodeChars : List UInt8 → List Char
  | [] => []
  | [a] =>
    let n := a.toNat * 65536
    [symbol (n / 262144), symbol (n / 4096 % 64), '=', '=']
  | [a, b] =>
    let n := a.toNat * 65536 + b.toNat * 256
    [symbol (n / 262144), symbol (n / 4096 % 64), symbol (n / 64 % 64), '=']
  | a :: b :: c :: rest =>
    let n := a.toNat * 65536 + b.toNat * 256 + c.toNat
    symbol (n / 262144) :: symbol (n / 4096 % 64) :: symbol (n / 64 % 64) :: symbol (n % 64) ::
      encodeChars rest

/-- Octets as base-64 text. -/
def encode (bytes : List UInt8) : String := String.ofList (encodeChars bytes)

end Base64

end CommandWire
