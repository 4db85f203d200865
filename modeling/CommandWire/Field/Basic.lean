import CommandWire.Number.Basic
import CommandWire.Text.Quoted
import CommandWire.Time.Instant

namespace CommandWire

/-!
# Fields

A field is a name together with the type of what stands under it.  The type says which wire values
it reads and how it is written.

* `FieldType` — a type that fits into one wire value.
* `Field` — the name of a field whose content has a given type.

Eleven types fit into one wire value.  Ten of them write what they read; a `long` also reads an `int`,
and an instant is read from a date or from the seconds of a timestamp and written as a date.
-/

/-- A type whose values fit into one wire value each. -/
class FieldType (α : Type) where
  /-- The kind that is asked for when a value cannot be read. -/
  kind : Kind
  ofValue? : Value → Option α
  toValue : α → Value

instance : FieldType String where
  kind := .string
  ofValue?
    | .string s => some s
    | _ => none
  toValue := .string

instance : FieldType Int32 where
  kind := .int32
  ofValue?
    | .int32 n => some n
    | _ => none
  toValue := .int32

instance : FieldType Int64 where
  kind := .int64
  ofValue?
    | .int64 n => some n
    | .int32 n => some n.toInt64
    | _ => none
  toValue := .int64

instance : FieldType Binary64 where
  kind := .double
  ofValue?
    | .double x => some x
    | _ => none
  toValue := .double

instance : FieldType Bool where
  kind := .boolean
  ofValue?
    | .boolean b => some b
    | _ => none
  toValue := .boolean

instance : FieldType Number where
  kind := .number
  ofValue? := Number.ofValue?
  toValue := Number.toValue

instance : FieldType Document where
  kind := .document
  ofValue?
    | .document d => some d
    | _ => none
  toValue := .document

instance : FieldType ObjectId where
  kind := .objectId
  ofValue?
    | .objectId id => some id
    | _ => none
  toValue := .objectId

instance : FieldType Timestamp where
  kind := .timestamp
  ofValue?
    | .timestamp t => some t
    | _ => none
  toValue := .timestamp

instance : FieldType Instant where
  kind := .dateTime
  ofValue?
    | .dateTime millis => Instant.ofMillis? millis.toInt
    | .timestamp t => Instant.ofParts? t.time.toNat 0
    | _ => none
  toValue t := .dateTime (Int64.ofInt t.millis)

instance : FieldType (List Value) where
  kind := .array
  ofValue?
    | .array items => some items
    | _ => none
  toValue := .array

/-- The name of a field whose content has type `α`. -/
structure Field (α : Type) where
  name : String
deriving DecidableEq, Repr

namespace Field

variable {α : Type}

/-- The kind that the field asks for. -/
def kind [FieldType α] (_field : Field α) : Kind := FieldType.kind α

/-- How a field shows itself to a programmer. -/
def debugText (field : Field α) : String := "BsonField(" ++ Quoted.quote field.name ++ ")"

end Field

end CommandWire
