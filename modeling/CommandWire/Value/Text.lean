import CommandWire.Number.Shortest
import CommandWire.Text.Basic
import CommandWire.Time.Calendar
import CommandWire.Value.Basic

namespace CommandWire

/-!
# The text of wire values

The text of a document is for people who read logs: nothing in it is escaped, and it need not read
back.

* `Value.text`, `Document.text` — the text of a value and of a document.
* `DateText.ofMillis` — the text of a wire date.
-/

namespace DateText

/-- Hour, minute and second; the hour is not padded. -/
def clock (t : TimeOfDay) : String :=
  toString t.hour ++ ":" ++ Padded.text 2 t.minute ++ ":" ++ Padded.text 2 t.second

/-- The digits after the point of a number of milliseconds: as many as are needed, at least one. -/
def fraction (millis : Nat) : String :=
  match Padded.dropTrailingZeros (Padded.text 3 millis).toList with
  | [] => "0"
  | digits => String.ofList digits

/-- Date, time of day and offset; a year of more than six digits leaves the bare milliseconds. -/
def ofMillis (millis : Int) : String :=
  let seconds := millis / 1000
  let date := CalendarDate.ofDay (seconds / 86400)
  if date.year < -999999 ∨ 999999 < date.year then toString millis
  else
    let time := TimeOfDay.ofSecond (seconds % 86400).toNat
    date.text ++ " " ++ clock time ++ "." ++ fraction (millis % 1000).toNat ++ " +00:00:00"

end DateText

/-- A text between double quotes, as it is. -/
def plainQuoted (s : String) : String := "\"" ++ s ++ "\""

/-- A list of texts between braces, separated by commas. -/
def bracedText (fields : List String) : String :=
  if fields.isEmpty then "\x7b\x7d" else "\x7b " ++ ", ".intercalate fields ++ " \x7d"

mutual

/-- The text of a value. -/
def Value.text : Value → String
  | .double x => x.text
  | .string s => plainQuoted s
  | .document fields => bracedText (Document.fieldTexts fields)
  | .array items => "[" ++ ", ".intercalate (Value.texts items) ++ "]"
  | .binary subtype bytes =>
    "Binary(0x" ++ Hex.ofNat subtype.toNat ++ ", " ++ Base64.encode bytes ++ ")"
  | .undefined => "undefined"
  | .objectId id => "ObjectId(" ++ plainQuoted (Hex.encode id.bytes) ++ ")"
  | .boolean b => if b then "true" else "false"
  | .dateTime millis => "DateTime(" ++ plainQuoted (DateText.ofMillis millis.toInt) ++ ")"
  | .null => "null"
  | .regex pattern options => "/" ++ pattern ++ "/" ++ options
  | .dbPointer ns id => "DbPointer(" ++ ns ++ ", " ++ Hex.encode id.bytes ++ ")"
  | .code text => text
  | .symbol name => "Symbol(" ++ plainQuoted name ++ ")"
  | .codeWithScope text _ => text
  | .int32 n => toString n.toInt
  | .timestamp t =>
    "Timestamp(" ++ toString t.time.toNat ++ ", " ++ toString t.increment.toNat ++ ")"
  | .int64 n => toString n.toInt
  | .decimal128 digits => "Decimal128(" ++ Hex.encode digits.bytes ++ ")"
  | .minKey => "MinKey"
  | .maxKey => "MaxKey"

/-- The texts of a sequence of values. -/
def Value.texts : List Value → List String
  | [] => []
  | x :: xs => Value.text x :: Value.texts xs

/-- The texts of named values, each name between quotes. -/
def Document.fieldTexts : List (String × Value) → List String
  | [] => []
  | (key, x) :: rest => (plainQuoted key ++ ": " ++ Value.text x) :: Document.fieldTexts rest

end

/-- The text of a document. -/
def Document.text (d : Document) : String := bracedText (Document.fieldTexts d)

end CommandWire
