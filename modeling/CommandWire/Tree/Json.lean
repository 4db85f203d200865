import CommandWire.Text.Basic
import CommandWire.Tree.Basic

namespace CommandWire.Json

/-!
# Trees written as JSON

* `read?` — the tree of a text, if it is JSON and nothing follows.
* `number?`, `textBody?` — numbers and texts inside it.

Numbers with a fraction or an exponent are not integers, and neither is `-0`.
-/

/-- The characters that separate tokens. -/
def isBlank (c : Char) : Bool := c = ' ' || c = '\t' || c = '\n' || c = '\r'

/-- What follows the blanks in front. -/
def skipBlanks (cs : List Char) : List Char := cs.dropWhile isBlank

/-! ### Numbers -/

/-- The number that decimal digits stand for. -/
def natOfDigits (digits : List Char) : Nat := digits.foldl (fun n c => 10 * n + (c.toNat - 48)) 0

/-- One digit or more, and what follows. -/
def digits? (cs : List Char) : Option (List Char × List Char) :=
  match cs.takeWhile Char.isDigit with
  | [] => none
  | digits => some (digits, cs.dropWhile Char.isDigit)

/-- What follows a fraction, and whether there is one. -/
def fraction? : List Char → Option (Bool × List Char)
  | '.' :: cs => (digits? cs).map fun found => (true, found.2)
  | cs => some (false, cs)

/-- Characters without a sign in front. -/
def dropSign : List Char → List Char
  | '+' :: cs => cs
  | '-' :: cs => cs
  | cs => cs

/-- What follows an exponent, and whether there is one. -/
def exponent? : List Char → Option (Bool × List Char)
  | c :: cs =>
    if c = 'e' ∨ c = 'E' then (digits? (dropSign cs)).map fun found => (true, found.2)
    else some (false, c :: cs)
  | [] => some (false, [])

/-- A number and what follows; no zero may stand in front of other digits. -/
def number? (cs : List Char) : Option (Tree × List Char) := do
  let negative := cs.head? == some '-'
  let (whole, cs) ← digits? (if negative then cs.drop 1 else cs)
  if whole.head? == some '0' && whole.length != 1 then none
  else
    let (hasFraction, cs) ← fraction? cs
    let (hasExponent, cs) ← exponent? cs
    let n := natOfDigits whole
    if hasFraction || hasExponent || (negative && n == 0) then some (.real, cs)
    else some (.integer (if negative then -(n : Int) else n), cs)

/-! ### Texts -/

/-- A piece of a text: a character, or a unit of sixteen bits by number. -/
inductive Piece where
  | char (c : Char)
  | unit (n : Nat)
deriving Repr

/-- The character of a short escape. -/
def shortEscape? : Char → Option Char
  | '"' => some '"'
  | '\\' => some '\\'
  | '/' => some '/'
  | 'b' => some '\x08'
  | 'f' => some '\x0c'
  | 'n' => some '\n'
  | 'r' => some '\r'
  | 't' => some '\t'
  | _ => none

/-- The number of four hexadecimal digits. -/
def unit? (a b c d : Char) : Option Nat := do
  let a ← Hex.value? a
  let b ← Hex.value? b
  let c ← Hex.value? c
  let d ← Hex.value? d
  some (((a * 16 + b) * 16 + c) * 16 + d)

/-- The pieces of a text up to the closing quote, and what follows it. -/
def textBody? : List Char → Option (List Piece × List Char)
  | [] => none
  | '"' :: cs => some ([], cs)
  | '\\' :: 'u' :: a :: b :: c :: d :: cs => do
    let n ← unit? a b c d
    let (pieces, rest) ← textBody? cs
    some (.unit n :: pieces, rest)
  | '\\' :: e :: cs => do
    let c ← shortEscape? e
    let (pieces, rest) ← textBody? cs
    some (.char c :: pieces, rest)
  | c :: cs =>
    if c.toNat < 0x20 ∨ c = '\\' then none
    else do
      let (pieces, rest) ← textBody? cs
      some (.char c :: pieces, rest)

/-- The characters of pieces.  Two units that form a surrogate pair give one character; half of a pair
    gives none. -/
def charsOf? : List Piece → Option (List Char)
  | [] => some []
  | .char c :: rest => (charsOf? rest).map (c :: ·)
  | .unit high :: .unit low :: rest =>
    if 0xD800 ≤ high ∧ high < 0xDC00 then
      if 0xDC00 ≤ low ∧ low < 0xE000 then
        (charsOf? rest).map
          (Char.ofNat (0x10000 + (high - 0xD800) * 0x400 + (low - 0xDC00)) :: ·)
      else none
    else if 0xDC00 ≤ high ∧ high < 0xE000 then none
    else (charsOf? (.unit low :: rest)).map (Char.ofNat high :: ·)
  | .unit n :: rest =>
    if 0xD800 ≤ n ∧ n < 0xE000 then none else (charsOf? rest).map (Char.ofNat n :: ·)

/-- The text after an opening quote, and what follows it. -/
def text? (cs : List Char) : Option (Option String × List Char) :=
  (textBody? cs).map fun found => ((charsOf? found.1).map String.ofList, found.2)

/-! ### Values -/

/-- A word and what follows. -/
def word? (word : String) (cs : List Char) : Option (List Char) :=
  if word.toList.isPrefixOf cs then some (cs.drop word.length) else none

mutual

/-- A value and what follows; `fuel` bounds the number of values. -/
def value? : Nat → List Char → Option (Tree × List Char)
  | 0, _ => none
  | fuel + 1, cs =>
    match cs with
    | '"' :: rest => (text? rest).map fun found => (.text found.1, found.2)
    | '[' :: rest =>
      match skipBlanks rest with
      | ']' :: after => some (.list [], after)
      | inner => (items? fuel inner).map fun found => (.list found.1, found.2)
    | '\x7b' :: rest =>
      match skipBlanks rest with
      | '\x7d' :: after => some (.record [], after)
      | inner => (entries? fuel inner).map fun found => (.record found.1, found.2)
    | 't' :: _ => (word? "true" cs).map fun rest => (.bool true, rest)
    | 'f' :: _ => (word? "false" cs).map fun rest => (.bool false, rest)
    | 'n' :: _ => (word? "null" cs).map fun rest => (.null, rest)
    | _ => number? cs

/-- The values of a list up to its closing bracket, and what follows. -/
def items? : Nat → List Char → Option (List Tree × List Char)
  | 0, _ => none
  | fuel + 1, cs => do
    let (item, rest) ← value? fuel cs
    match skipBlanks rest with
    | ',' :: more =>
      let (items, after) ← items? fuel (skipBlanks more)
      some (item :: items, after)
    | ']' :: after => some ([item], after)
    | _ => none

/-- The named values of a record up to its closing brace, and what follows. -/
def entries? : Nat → List Char → Option (List (Option String × Tree) × List Char)
  | 0, _ => none
  | fuel + 1, cs =>
    match cs with
    | '"' :: afterQuote => do
      let (name, rest) ← text? afterQuote
      match skipBlanks rest with
      | ':' :: afterColon =>
        let (item, rest) ← value? fuel (skipBlanks afterColon)
        match skipBlanks rest with
        | ',' :: more =>
          let (entries, after) ← entries? fuel (skipBlanks more)
          some ((name, item) :: entries, after)
        | '\x7d' :: after => some ([(name, item)], after)
        | _ => none
      | _ => none
    | _ => none

end

/-- The tree of a text. -/
def read? (s : String) : Option Tree := do
  let cs := s.toList
  let (tree, rest) ← value? (2 * cs.length + 1) (skipBlanks cs)
  if (skipBlanks rest).isEmpty then some tree else none

end CommandWire.Json
