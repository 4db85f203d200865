import CommandWire.Field.Basic

namespace CommandWire

/-!
# Fields of a document

A document is read field by field.  Every failure names the field and, when the kind is wrong, the kind
asked for and the kind found.  It is built by giving it one field after another, as with
`Document.insert`: a name that is there already keeps its place and takes the new content.

* `Document.value` — the wire value of a name that has to be there.
* `Document.read`, `Document.readOptional`, `Document.readOr` — the content of a field that has to be
  there, may be absent, or has a default.
* `Document.readFlag` — a boolean for which a number other than zero also stands.
* `Document.onlyHas` — refuses a name that is not in a list.
* `Document.put`, `Document.putOptional` — gives a field its content, if there is any.
-/

namespace Document

/-! ### Reading -/

/-- The wire value of a name. -/
def value (d : Document) (name : String) : Checked Value :=
  match d.get? name with
  | some v => .ok v
  | none => .error (.noSuchKey name)

/-- A wire value as the content of a field. -/
def convert {α : Type} [FieldType α] (name : String) (v : Value) : Checked α :=
  match FieldType.ofValue? v with
  | some x => .ok x
  | none => .error (.wrongKind name (FieldType.kind α) v.kind)

/-- The content of a field. -/
def read {α : Type} [FieldType α] (d : Document) (field : Field α) : Checked α := do
  let v ← d.value field.name
  convert field.name v

/-- The content of a field, if the field is there. -/
def readOptional {α : Type} [FieldType α] (d : Document) (field : Field α) : Checked (Option α) :=
  match d.get? field.name with
  | some v => (convert field.name v).map some
  | none => .ok none

/-- The content of a field, or `default` if the field is not there. -/
def readOr {α : Type} [FieldType α] (d : Document) (field : Field α) (default : α) : Checked α :=
  (d.readOptional field).map fun x => x.getD default

/-- A boolean, or a number that is true unless it is zero. -/
def readFlag (d : Document) (field : Field Bool) (default : Bool) : Checked Bool :=
  match d.get? field.name with
  | none => .ok default
  | some (.boolean b) => .ok b
  | some v =>
    match Number.ofValue? v with
    | some n => .ok (!n.isZero)
    | none => .error (.wrongKind field.name .boolean v.kind)

/-- Refuses the first name that is not allowed; `context` says in whose place it stands. -/
def onlyHas (context : String) (d : Document) (allowed : List String) : Checked Unit :=
  match d.keys.find? fun key => !allowed.contains key with
  | none => .ok ()
  | some key =>
    .error (.failedToParse (context ++ ": unexpected field '" ++ key ++ "', only \x7b" ++
      ", ".intercalate allowed ++ "\x7d are allowed"))

/-! ### Writing -/

/-- Gives a field its content. -/
def put {α : Type} [FieldType α] (d : Document) (field : Field α) (x : α) : Document :=
  d.insert field.name (FieldType.toValue x)

/-- Gives a field its content, if there is any. -/
def putOptional {α : Type} [FieldType α] (d : Document) (field : Field α) : Option α → Document
  | some x => d.put field x
  | none => d

/-- Without content the document stays as it is. -/
@[simp] theorem putOptional_none {α : Type} [FieldType α] (d : Document) (field : Field α) :
    d.putOptional field none = d := rfl

/-- With content the field is given it. -/
@[simp] theorem putOptional_some {α : Type} [FieldType α] (d : Document) (field : Field α) (x : α) :
    d.putOptional field (some x) = d.put field x := rfl

end Document

end CommandWire
