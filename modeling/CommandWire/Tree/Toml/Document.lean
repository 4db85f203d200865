import CommandWire.Tree.Toml.Value

namespace CommandWire.Toml

/-!
# Trees written as TOML

* `read?` — the tree of a text, if it is TOML.
* `line?` — what one line does: a header moves to another table, a key gives the current table a value.
-/

/-- The tables so far, and the path to the one that keys belong to. -/
structure Progress where
  root : Table
  path : List String

/-- What follows the end of a line: blanks and a comment may precede it, and the text may end there. -/
def endOfLine? (cs : List Char) : Option (List Char) :=
  match skipComment (skipBlanks cs) with
  | [] => some []
  | rest => lineEnd? rest

/-- The header of a table, given what follows its opening bracket. -/
def header? (p : Progress) (cs : List Char) : Option (Progress × List Char) := do
  let (path, key, rest) ← dottedKey? maxDepth (skipBlanks cs)
  match rest with
  | ']' :: after =>
    let root ← p.root.open? path key
    let rest ← endOfLine? after
    some (⟨root, path ++ [key]⟩, rest)
  | _ => none

/-- The header of the next table of a list, given what follows its opening brackets. -/
def nextHeader? (p : Progress) (cs : List Char) : Option (Progress × List Char) := do
  let (path, key, rest) ← dottedKey? maxDepth (skipBlanks cs)
  match rest with
  | ']' :: ']' :: after =>
    let root ← p.root.openNext? path key
    let rest ← endOfLine? after
    some (⟨root, path ++ [key]⟩, rest)
  | _ => none

/-- A key and its value. -/
def assignment? (p : Progress) (cs : List Char) : Option (Progress × List Char) := do
  let (path, key, rest) ← dottedKey? maxDepth cs
  match rest with
  | '=' :: afterSign =>
    let (tree, rest) ← value? (2 * cs.length + 1) maxDepth (skipBlanks afterSign)
    let root ← p.root.at? false p.path (Table.assign? path key tree)
    let rest ← endOfLine? rest
    some (⟨root, p.path⟩, rest)
  | _ => none

/-- One line that is neither blank nor a comment. -/
def line? (p : Progress) : List Char → Option (Progress × List Char)
  | '[' :: '[' :: cs => nextHeader? p cs
  | '[' :: cs => header? p cs
  | cs => assignment? p cs

/-- All lines; `fuel` bounds their number. -/
def lines? : Nat → Progress → List Char → Option Progress
  | 0, _, _ => none
  | fuel + 1, p, cs =>
    match skipAll cs with
    | [] => some p
    | rest => do
      let (p, rest) ← line? p rest
      lines? fuel p rest

/-- A text without the mark that some editors put in front of it. -/
def dropMark : List Char → List Char
  | '\uFEFF' :: cs => cs
  | cs => cs

/-- The tree of a text. -/
def read? (s : String) : Option Tree := do
  let cs := dropMark s.toList
  let p ← lines? (cs.length + 1) ⟨Table.opened [], []⟩ cs
  some p.root.toTree

end CommandWire.Toml
