namespace CommandWire

/-!
# Kinds of wire values

* `Kind` — one constructor for each type that a value can have on the wire, and `number`, which
  stands for the numeric ones together.
* `Kind.label` — the short name of a kind in messages.
* `Kind.name` — its long name; `Kind.ofName?` reads it back.
* `Kind.isNumeric` — whether a kind is a number.
-/

/-- The type of a value on the wire, or the numeric types together. -/
inductive Kind where
  | double
  | string
  | document
  | array
  | binary
  | undefined
  | objectId
  | boolean
  | dateTime
  | null
  | regex
  | dbPointer
  | code
  | symbol
  | codeWithScope
  | int32
  | timestamp
  | int64
  | decimal128
  | minKey
  | maxKey
  /-- Any numeric kind. -/
  | number
deriving DecidableEq, Repr, Inhabited

namespace Kind

/-- The kinds in order. -/
def all : List Kind :=
  [double, string, document, array, binary, undefined, objectId, boolean, dateTime, null, regex,
    dbPointer, code, symbol, codeWithScope, int32, timestamp, int64, decimal128, minKey, maxKey,
    number]

/-- The short name, as it stands in error messages. -/
def label : Kind → String
  | double => "double"
  | string => "string"
  | document => "object"
  | array => "array"
  | binary => "binData"
  | undefined => "undefined"
  | objectId => "objectId"
  | boolean => "bool"
  | dateTime => "date"
  | null => "null"
  | regex => "regex"
  | dbPointer => "dbPointer"
  | code => "javascript"
  | symbol => "symbol"
  | codeWithScope => "javascriptWithScope"
  | int32 => "int"
  | timestamp => "timestamp"
  | int64 => "long"
  | decimal128 => "decimal"
  | minKey => "minKey"
  | maxKey => "maxKey"
  | number => "number"

/-- The long name. -/
def name : Kind → String
  | double => "Double"
  | string => "String"
  | document => "Document"
  | array => "Array"
  | binary => "Binary"
  | undefined => "Undefined"
  | objectId => "ObjectId"
  | boolean => "Boolean"
  | dateTime => "DateTime"
  | null => "Null"
  | regex => "RegularExpression"
  | dbPointer => "DbPointer"
  | code => "JavaScriptCode"
  | symbol => "Symbol"
  | codeWithScope => "JavaScriptCodeWithScope"
  | int32 => "Int32"
  | timestamp => "Timestamp"
  | int64 => "Int64"
  | decimal128 => "Decimal128"
  | minKey => "MinKey"
  | maxKey => "MaxKey"
  | number => "Number"

/-- The kind with a given short name. -/
def ofLabel? (label : String) : Option Kind := all.find? fun k => k.label == label

/-- The kind with a given long name. -/
def ofName? (name : String) : Option Kind := all.find? fun k => k.name == name

/-- Whether values of the kind are numbers. -/
def isNumeric : Kind → Bool
  | double | int32 | int64 | decimal128 | number => true
  | _ => false

end Kind

end CommandWire
