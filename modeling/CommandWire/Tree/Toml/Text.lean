import CommandWire.Text.Basic

namespace CommandWire.Toml

/-!
# Texts in TOML

A text stands between double quotes, with escapes, or between single quotes, without.  Three quotes
in place of one allow line ends inside.

* `basicBody?`, `literalBody?` — the text up to the closing quote, and what follows.
* `longBasic?`, `longLiteral?` — the text up to three closing quotes.
* `key?` — one key: bare, or a text on one line.
* `dottedKey?` — keys joined by dots.
-/

/-- Whether a character is a space or a tab, which never end a line. -/
def isBlank (c : Char) : Bool := c = ' ' || c = '\t'

/-- What follows the blanks in front. -/
def skipBlanks (cs : List Char) : List Char := cs.dropWhile isBlank

/-- The characters that may stand in a text or comment as they are: no controls but the tab. -/
def isPlain (c : Char) : Bool := c = '\t' || (0x20 ≤ c.toNat && c.toNat ≠ 0x7F)

/-- The rest after a line end in front. -/
def lineEnd? : List Char → Option (List Char)
  | '\n' :: cs => some cs
  | '\r' :: '\n' :: cs => some cs
  | _ => none

/-! ### Escapes -/

/-- What a single character after a backslash stands for. -/
def shortEscape? : Char → Option Char
  | 'b' => some '\x08'
  | 't' => some '\t'
  | 'n' => some '\n'
  | 'f' => some '\x0c'
  | 'r' => some '\r'
  | '"' => some '"'
  | '\\' => some '\\'
  | _ => none

/-- The character of a number in hexadecimal digits. -/
def numbered? (digits : List Char) : Option Char := do
  let n ← Hex.toNat? digits
  if n < 0xD800 ∨ (0xE000 ≤ n ∧ n < 0x110000) then some (Char.ofNat n) else none

/-- The character of an escape, given what follows the backslash, and the rest. -/
def escape? : List Char → Option (Char × List Char)
  | 'u' :: cs =>
    if cs.length < 4 then none else (numbered? (cs.take 4)).map fun c => (c, cs.drop 4)
  | 'U' :: cs =>
    if cs.length < 8 then none else (numbered? (cs.take 8)).map fun c => (c, cs.drop 8)
  | e :: cs => (shortEscape? e).map fun c => (c, cs)
  | [] => none

/-! ### Texts on one line -/

/-- The text up to the closing double quote; `fuel` bounds its length. -/
def basicBody? : Nat → List Char → Option (List Char × List Char)
  | 0, _ => none
  | fuel + 1, cs =>
    match cs with
    | [] => none
    | '"' :: rest => some ([], rest)
    | '\\' :: rest => do
      let (c, rest) ← escape? rest
      let (body, rest) ← basicBody? fuel rest
      some (c :: body, rest)
    | c :: rest =>
      if isPlain c then (basicBody? fuel rest).map fun found => (c :: found.1, found.2)
      else none

/-- The text up to the closing single quote. -/
def literalBody? : List Char → Option (List Char × List Char)
  | [] => none
  | c :: cs =>
    if c = '\'' then some ([], cs)
    else if isPlain c then (literalBody? cs).map fun found => (c :: found.1, found.2)
    else none

/-! ### Texts on several lines -/

/-- What follows three closing quotes, of which up to two more belong to the text. -/
def closing? (quote : Char) (cs : List Char) : Option (List Char × List Char) :=
  let count := (cs.takeWhile (· = quote)).length
  if count < 3 then none
  else
    let inside := min (count - 3) 2
    some (List.replicate inside quote, cs.drop (inside + 3))

/-- What follows blanks and line ends; `fuel` bounds the number of lines. -/
def skipBlankLines : Nat → List Char → List Char
  | 0, cs => cs
  | fuel + 1, cs =>
    let rest := skipBlanks cs
    match lineEnd? rest with
    | some more => skipBlankLines fuel more
    | none => rest

/-- The rest after a backslash that ends its line: blanks and line ends are passed over. -/
def continuedLine? (cs : List Char) : Option (List Char) :=
  (lineEnd? (skipBlanks cs)).map fun rest => skipBlankLines (rest.length + 1) rest

/-- The text up to three closing double quotes. -/
def longBasicBody? : Nat → List Char → Option (List Char × List Char)
  | 0, _ => none
  | fuel + 1, cs =>
    match closing? '"' cs with
    | some found => some found
    | none =>
      match lineEnd? cs with
      | some rest => (longBasicBody? fuel rest).map fun found => ('\n' :: found.1, found.2)
      | none =>
        match cs with
        | [] => none
        | '\\' :: rest =>
          match continuedLine? rest with
          | some rest => longBasicBody? fuel rest
          | none => do
            let (c, rest) ← escape? rest
            let (body, rest) ← longBasicBody? fuel rest
            some (c :: body, rest)
        | c :: rest =>
          if isPlain c then (longBasicBody? fuel rest).map fun found => (c :: found.1, found.2)
          else none

/-- The text up to three closing single quotes. -/
def longLiteralBody? : Nat → List Char → Option (List Char × List Char)
  | 0, _ => none
  | fuel + 1, cs =>
    match closing? '\'' cs with
    | some found => some found
    | none =>
      match lineEnd? cs with
      | some rest => (longLiteralBody? fuel rest).map fun found => ('\n' :: found.1, found.2)
      | none =>
        match cs with
        | [] => none
        | c :: rest =>
          if isPlain c then (longLiteralBody? fuel rest).map fun found => (c :: found.1, found.2)
          else none

/-- What follows a line end directly after the opening quotes. -/
def dropFirstLineEnd (cs : List Char) : List Char := (lineEnd? cs).getD cs

/-- A text in front, and what follows. -/
def text? : List Char → Option (String × List Char)
  | '"' :: '"' :: '"' :: cs =>
    (longBasicBody? (cs.length + 1) (dropFirstLineEnd cs)).map fun found =>
      (String.ofList found.1, found.2)
  | '\'' :: '\'' :: '\'' :: cs =>
    (longLiteralBody? (cs.length + 1) (dropFirstLineEnd cs)).map fun found =>
      (String.ofList found.1, found.2)
  | '"' :: cs =>
    (basicBody? (cs.length + 1) cs).map fun found => (String.ofList found.1, found.2)
  | '\'' :: cs => (literalBody? cs).map fun found => (String.ofList found.1, found.2)
  | _ => none

/-! ### Keys -/

/-- The characters of a bare key. -/
def isBare (c : Char) : Bool := c.isAlphanum || c = '_' || c = '-'

/-- One key in front, and what follows. -/
def key? (cs : List Char) : Option (String × List Char) :=
  match cs with
  | '"' :: rest =>
    (basicBody? (rest.length + 1) rest).map fun found => (String.ofList found.1, found.2)
  | '\'' :: rest => (literalBody? rest).map fun found => (String.ofList found.1, found.2)
  | _ =>
    match cs.takeWhile isBare with
    | [] => none
    | bare => some (String.ofList bare, cs.dropWhile isBare)

/-- The greatest number of keys that dots join, and of lists and tables that stand inside each
    other. -/
def maxDepth : Nat := 79

/-- Keys joined by dots: those before the last one, the last one, and what follows.  There may be no
    more of them than the first number says. -/
def dottedKey? : Nat → List Char → Option (List String × String × List Char)
  | 0, _ => none
  | more + 1, cs => do
    let (first, rest) ← key? cs
    match skipBlanks rest with
    | '.' :: next =>
      let (path, last, rest) ← dottedKey? more (skipBlanks next)
      some (first :: path, last, rest)
    | rest => some ([], first, rest)

end CommandWire.Toml
