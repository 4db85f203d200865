import CommandWire.Tree.Basic

namespace CommandWire.Toml

/-!
# Tables that are built up line by line

A table is opened once, by a header or by keys with dots, and may be passed through by headers of
tables inside it.  What is opened twice, or named twice, is refused.

* `Table` — a table, with what has made it.
* `Table.at?` — changes a table inside a table, and makes those on the way that are missing.
* `Table.assign?` — gives a key with dots a value.
* `Table.open?`, `Table.openNext?` — the header of a table, and of the next table of a list.
* `Table.toTree` — what a table says.
-/

/-- What stands under a key while a file is read. -/
inductive Node where
  | leaf (tree : Tree)
  | table (implicit dotted : Bool) (entries : List (String × Node))
  /-- A list of tables. -/
  | tables (items : List (List (String × Node)))

/-- A table while a file is read. -/
structure Table where
  /-- No header has opened the table yet. -/
  implicit : Bool
  /-- A key with dots has made the table. -/
  dotted : Bool
  entries : List (String × Node)

namespace Table

/-- A table that a header has opened. -/
def opened (entries : List (String × Node)) : Table := ⟨false, false, entries⟩

/-- What stands under a key. -/
def find? (t : Table) (key : String) : Option Node := t.entries.lookup key

/-- Puts a node in the place of the one with the same key, or at the end. -/
def setEntry (entries : List (String × Node)) (key : String) (node : Node) : List (String × Node) :=
  match entries with
  | [] => [(key, node)]
  | (k, n) :: rest => if k = key then (key, node) :: rest else (k, n) :: setEntry rest key node

/-- The table with something else under a key. -/
def set (t : Table) (key : String) (node : Node) : Table :=
  { t with entries := setEntry t.entries key node }

/-- A table as what stands under a key. -/
def toNode (t : Table) : Node := .table t.implicit t.dotted t.entries

/-- Changes the table at the end of a path.  A path of a key with dots may not pass through a table
    that a header has opened; a path through a list of tables goes on in the last of them. -/
def at? (dotted : Bool) : List String → (Table → Option Table) → Table → Option Table
  | [], change, t => change t
  | key :: path, change, t =>
    match t.find? key with
    | none => do
      let child ← at? dotted path change ⟨true, dotted, []⟩
      some (t.set key child.toNode)
    | some (.leaf _) => none
    | some (.table implicit isDotted entries) =>
      if dotted && !implicit then none
      else do
        let child ← at? dotted path change ⟨implicit, isDotted, entries⟩
        some (t.set key child.toNode)
    | some (.tables items) =>
      match items.getLast? with
      | none => none
      | some last => do
        let child ← at? dotted path change (opened last)
        some (t.set key (.tables (items.dropLast ++ [child.entries])))

/-- Gives a key with dots a value: `path` is what precedes the last dot. -/
def assign? (path : List String) (key : String) (tree : Tree) (t : Table) : Option Table :=
  t.at? true path fun target =>
    if target.dotted == path.isEmpty then none
    else if (target.find? key).isSome then none
    else some (target.set key (.leaf tree))

/-- Opens a table. -/
def open? (path : List String) (key : String) (t : Table) : Option Table :=
  t.at? false path fun target =>
    match target.find? key with
    | none => some (target.set key (.table false false []))
    | some (.table true false entries) => some (target.set key (.table false false entries))
    | some _ => none

/-- Opens the next table of a list. -/
def openNext? (path : List String) (key : String) (t : Table) : Option Table :=
  t.at? false path fun target =>
    match target.find? key with
    | none => some (target.set key (.tables [[]]))
    | some (.tables items) => some (target.set key (.tables (items ++ [[]])))
    | some _ => none

end Table

/-! ### What a table says -/

mutual

/-- What a node has become when the file ends. -/
def Node.toTree : Node → Tree
  | .leaf tree => tree
  | .table _ _ entries => .record (Node.entryTrees entries)
  | .tables items => .list (Node.itemTrees items)

/-- The trees of the entries of a table. -/
def Node.entryTrees : List (String × Node) → List (Option String × Tree)
  | [] => []
  | (key, node) :: rest => (some key, Node.toTree node) :: Node.entryTrees rest

/-- The trees of a list of tables. -/
def Node.itemTrees : List (List (String × Node)) → List Tree
  | [] => []
  | entries :: rest => .record (Node.entryTrees entries) :: Node.itemTrees rest

end

/-- What a table has become when the file ends. -/
def Table.toTree (t : Table) : Tree := t.toNode.toTree

end CommandWire.Toml
