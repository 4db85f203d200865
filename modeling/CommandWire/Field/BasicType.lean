import CommandWire.Field.Basic

namespace CommandWire

/-!
# The types of fields, by name

* `BasicType` — one constructor for each of the eleven types that fit into one wire value.
* `BasicType.Carrier` — the type itself, which is a `FieldType`.
* `BasicType.kind` — the kind that a field of the type asks for.
-/

/-- The types whose values fit into one wire value, by name. -/
inductive BasicType where
  | string
  | int
  | long
  | double
  | bool
  | number
  | document
  | objectId
  | timestamp
  | date
  | array
deriving DecidableEq, Repr

namespace BasicType

/-- The values that a field of the type holds. -/
abbrev Carrier : BasicType → Type
  | string => String
  | int => Int32
  | long => Int64
  | double => Binary64
  | bool => Bool
  | number => Number
  | document => Document
  | objectId => ObjectId
  | timestamp => Timestamp
  | date => Instant
  | array => List Value

instance (t : BasicType) : FieldType t.Carrier :=
  match t with
  | string => inferInstanceAs (FieldType String)
  | int => inferInstanceAs (FieldType Int32)
  | long => inferInstanceAs (FieldType Int64)
  | double => inferInstanceAs (FieldType Binary64)
  | bool => inferInstanceAs (FieldType Bool)
  | number => inferInstanceAs (FieldType Number)
  | document => inferInstanceAs (FieldType Document)
  | objectId => inferInstanceAs (FieldType ObjectId)
  | timestamp => inferInstanceAs (FieldType Timestamp)
  | date => inferInstanceAs (FieldType Instant)
  | array => inferInstanceAs (FieldType (List Value))

/-- The types in order. -/
def all : List BasicType :=
  [string, int, long, double, bool, number, document, objectId, timestamp, date, array]

/-- The kind that a field of the type asks for. -/
def kind (t : BasicType) : Kind := FieldType.kind t.Carrier

/-- The type whose fields ask for the kind with a given label. -/
def ofLabel? (label : String) : Option BasicType := all.find? fun t => t.kind.label == label

end BasicType

end CommandWire
