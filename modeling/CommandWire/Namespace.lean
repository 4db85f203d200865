import CommandWire.Error

namespace CommandWire

/-!
# Namespaces

A namespace is a database, or a database and a collection joined by a dot.  The first dot is the one
that joins, so a collection may hold dots and a database may not.

* `Namespace.split` — the two parts of a text.
* `Namespace.parse` — the namespace of a text.
* `Namespace.text` — the text of a namespace.
-/

/-- A database, or a collection in one. -/
structure Namespace where
  database : String
  collection : Option String
deriving DecidableEq, Repr

namespace Namespace

/-- The characters before the first dot and, if there is a dot, those after it. -/
def splitChars (cs : List Char) : List Char × Option (List Char) :=
  (cs.takeWhile (· ≠ '.'),
    match cs.dropWhile (· ≠ '.') with
    | [] => none
    | _ :: after => some after)

/-- Why a text is not a namespace. -/
inductive Fault where
  | startsWithDot
  | endsAfterFirstDot
deriving DecidableEq, Repr

/-- The reason that a refusal gives. -/
def Fault.reason : Fault → String
  | .startsWithDot => "must not start with a dot"
  | .endsAfterFirstDot => "must not end immediately after the first dot"

/-- Database and collection of a text: what a dot joins must not be empty. -/
def splitText (text : String) : Except Fault (String × Option String) :=
  match splitChars text.toList with
  | (_, none) => .ok (text, none)
  | ([], some _) => .error .startsWithDot
  | (_, some []) => .error .endsAfterFirstDot
  | (database, some collection) =>
    .ok (String.ofList database, some (String.ofList collection))

/-- Database and collection of a text. -/
def split (text : String) : Checked (String × Option String) :=
  (splitText text).mapError fun fault => .invalidNamespace text fault.reason

/-- The namespace of a text. -/
def parse (text : String) : Checked Namespace :=
  (split text).map fun (database, collection) => ⟨database, collection⟩

/-- The namespace of a collection. -/
def ofCollection (database collection : String) : Namespace := ⟨database, some collection⟩

/-- The text of a namespace. -/
def text (ns : Namespace) : String :=
  match ns.collection with
  | some collection => ns.database ++ "." ++ collection
  | none => ns.database

end Namespace

end CommandWire
