namespace CommandWire

/-!
# Trees of settings

Text formats for settings differ in their spelling and agree on what they say: a tree.

* `Tree` — what a text of settings says.
* `Surplus` — what becomes of items that a structure has no part for.
* `Tree.fields` — the named parts of a structure, which may be given by name or in order.
* `Tree.toBool?`, `Tree.toText?`, `Tree.toCount?`, `Tree.toList?` — a part as a value of one type.  None
  of them converts: a number is not a boolean, and a number with a point is not an integer.
-/

/-- What a settings file holds, whichever of the two languages it is written in. -/
inductive Tree where
  | null
  | bool (b : Bool)
  | integer (n : Int)
  /-- A number that is not written as an integer. -/
  | real
  /-- A text; none when it holds half of a surrogate pair, which stands for no character. -/
  | text (s : Option String)
  /-- A date, a time of day, or both.  No setting is one. -/
  | moment
  | list (items : List Tree)
  /-- Named parts; a name may be as unreadable as a text. -/
  | record (entries : List (Option String × Tree))
deriving Inhabited

/-- What becomes of the items of a list that gives more than the parts of a structure. -/
inductive Surplus where
  | refused
  | ignored
deriving DecidableEq, Repr

namespace Tree

/-- The part of a name, if it stands there, unless it stands there twice. -/
def entry (entries : List (Option String × Tree)) (name : String) : Option (Option Tree) :=
  match entries.filter fun e => e.1 == some name with
  | [] => some none
  | [e] => some (some e.2)
  | _ => none

/-- The parts of a structure whose parts have the given names.  Other names are ignored.  A list gives
    the parts in order and may leave out the last ones.  A moment gives no part. -/
def fields (surplus : Surplus) (names : List String) : Tree → Option (List (Option Tree))
  | .record entries =>
    if entries.all fun e => e.1.isSome then names.mapM (entry entries) else none
  | .list items =>
    if surplus = .refused ∧ names.length < items.length then none
    else
      let given := items.take names.length
      some (given.map some ++ List.replicate (names.length - given.length) none)
  | .moment => some (names.map fun _ => none)
  | _ => none

/-- The boolean that a tree is. -/
def toBool? : Tree → Option Bool
  | .bool b => some b
  | _ => none

/-- The text that a tree is. -/
def toText? : Tree → Option String
  | .text s => s
  | _ => none

/-- An integer from 0 up to a bound, which is left out. -/
def toCount? (bound : Nat) : Tree → Option Nat
  | .integer n => if 0 ≤ n ∧ n < bound then some n.toNat else none
  | _ => none

/-- The list that a tree is. -/
def toList? : Tree → Option (List Tree)
  | .list items => some items
  | _ => none

/-- A part as a value, or the default if the part is missing. -/
def orDefault {α : Type} (read : Tree → Option α) (default : α) : Option Tree → Option α
  | some t => read t
  | none => some default

end Tree

end CommandWire
