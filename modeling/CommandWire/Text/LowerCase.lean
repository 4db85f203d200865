import CommandWire.Text.Basic
import CommandWire.Text.LowerCase.Table

namespace CommandWire.LowerCase

/-!
# Lower case

Two texts are the same token when their lower-case forms are equal.

* `fold` — the lower-case form of a text under the full rules of Unicode, which map a dotted capital
  I to two characters and a capital sigma by its place in the word.
* `foldAscii` — the lower-case form in which only the letters A to Z change.
-/

/-- The single character that is the lower-case counterpart of `c`, or `c` itself. -/
def simple (c : Char) : Char :=
  match runs.find? fun r =>
      r.first ≤ c.toNat && c.toNat ≤ r.last && (c.toNat - r.first) % r.stride == 0 with
  | some r => Char.ofNat (c.toNat + r.shift).toNat
  | none => c

/-- Whether the first character that is not passed over has a case. -/
def meetsCased (cs : List Char) : Bool :=
  match cs.dropWhile (CharRange.covers ignorableRanges) with
  | [] => false
  | c :: _ => CharRange.covers casedRanges c

/-- A capital sigma ends a word when a cased character comes before it and none after it. -/
def sigma (before after : List Char) : Char :=
  if meetsCased before && !meetsCased after then 'ς' else 'σ'

/-- Lower case of the characters `cs`, which follow the characters `before`, nearest first. -/
def foldFrom (before : List Char) : List Char → List Char
  | [] => []
  | c :: cs =>
    let folded :=
      if c = 'Σ' then [sigma before cs]
      else if c = 'İ' then ['i', '\u0307']
      else [simple c]
    folded ++ foldFrom (c :: before) cs

/-- The lower-case form of a text. -/
def fold (s : String) : String := String.ofList (foldFrom [] s.toList)

/-! ### ASCII letters only -/

/-- The lower-case counterpart of a letter from A to Z. -/
def asciiChar (c : Char) : Char :=
  if 'A' ≤ c ∧ c ≤ 'Z' then Char.ofNat (c.toNat + 32) else c

/-- The lower-case form of a text in which only the letters A to Z change. -/
def foldAscii (s : String) : String := String.ofList (s.toList.map asciiChar)

end CommandWire.LowerCase
