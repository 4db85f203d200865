import CommandWire.Tree.Toml.Moment
import CommandWire.Tree.Toml.Number
import CommandWire.Tree.Toml.Table
import CommandWire.Tree.Toml.Text

namespace CommandWire.Toml

/-!
# Values in TOML

* `value?` — any value: texts, numbers, booleans, moments, lists over several lines, and tables on
  one line.
* `items?`, `entries?` — what stands in a list, and in a table on one line.

Lists and tables stand inside each other no deeper than `maxDepth`.
-/

/-! ### Blanks and comments -/

/-- What follows a comment, which ends before its line end. -/
def skipComment (cs : List Char) : List Char :=
  match cs with
  | '#' :: rest => rest.dropWhile isPlain
  | _ => cs

/-- What follows blanks, comments and line ends; `fuel` bounds their number. -/
def skipLines : Nat → List Char → List Char
  | 0, cs => cs
  | fuel + 1, cs =>
    let rest := skipComment (skipBlanks cs)
    match lineEnd? rest with
    | some more => skipLines fuel more
    | none => rest

/-- What follows all blanks, comments and ends of lines in front. -/
def skipAll (cs : List Char) : List Char := skipLines cs.length cs

/-! ### Values -/

mutual

/-- A value in front, and what follows; `fuel` bounds the number of values, and lists and tables
    stand no deeper in it than `depth`. -/
def value? (fuel depth : Nat) (cs : List Char) : Option (Tree × List Char) :=
  match fuel with
  | 0 => none
  | fuel + 1 =>
    match cs with
    | '"' :: _ => (text? cs).map fun found => (.text (some found.1), found.2)
    | '\'' :: _ => (text? cs).map fun found => (.text (some found.1), found.2)
    | '[' :: rest =>
      if depth = 0 then none
      else (items? fuel (depth - 1) (skipAll rest)).map fun found => (.list found.1, found.2)
    | '\x7b' :: rest =>
      if depth = 0 then none
      else
        match skipBlanks rest with
        | '\x7d' :: after => some (.record [], after)
        | inner => do
          let (table, after) ← entries? fuel (depth - 1) (Table.opened []) inner
          some (table.toTree, after)
    | 't' :: 'r' :: 'u' :: 'e' :: rest => some (.bool true, rest)
    | 'f' :: 'a' :: 'l' :: 's' :: 'e' :: rest => some (.bool false, rest)
    | _ =>
      match moment? cs with
      | some rest => some (.moment, rest)
      | none => number? cs

/-- The values of a list up to its closing bracket, and what follows. -/
def items? (fuel depth : Nat) (cs : List Char) : Option (List Tree × List Char) :=
  match fuel with
  | 0 => none
  | fuel + 1 =>
    match cs with
    | ']' :: after => some ([], after)
    | _ => do
      let (item, rest) ← value? fuel depth cs
      match skipAll rest with
      | ',' :: more =>
        let (items, after) ← items? fuel depth (skipAll more)
        some (item :: items, after)
      | ']' :: after => some ([item], after)
      | _ => none

/-- The named values of a table on one line up to its closing brace, and what follows. -/
def entries? (fuel depth : Nat) (table : Table) (cs : List Char) : Option (Table × List Char) :=
  match fuel with
  | 0 => none
  | fuel + 1 => do
    let (path, key, rest) ← dottedKey? maxDepth cs
    match rest with
    | '=' :: afterSign =>
      let (tree, rest) ← value? fuel depth (skipBlanks afterSign)
      let table ← table.assign? path key tree
      match skipBlanks rest with
      | ',' :: more => entries? fuel depth table (skipBlanks more)
      | '\x7d' :: after => some (table, after)
      | _ => none
    | _ => none

end

end CommandWire.Toml
