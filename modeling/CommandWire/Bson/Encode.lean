import CommandWire.Octets.LittleEndian
import CommandWire.Text.Utf8
import CommandWire.Value.Basic

namespace CommandWire.Bson

/-!
# Documents as octets

A document is written as its length, its named values one after another and a zero octet.  Every
named value is the code of its type, its name up to a zero octet and its content.

* `encode` — the octets of a document.  There are none when a name or a part of a regular expression
  holds a NUL, which would end it early.
* `typeCode` — the code of a value's type.
* `frame` — content between its length and a closing zero octet.
-/

/-- The code that announces a value. -/
def typeCode : Value → UInt8
  | .double _ => 0x01
  | .string _ => 0x02
  | .document _ => 0x03
  | .array _ => 0x04
  | .binary _ _ => 0x05
  | .undefined => 0x06
  | .objectId _ => 0x07
  | .boolean _ => 0x08
  | .dateTime _ => 0x09
  | .null => 0x0A
  | .regex _ _ => 0x0B
  | .dbPointer _ _ => 0x0C
  | .code _ => 0x0D
  | .symbol _ => 0x0E
  | .codeWithScope _ _ => 0x0F
  | .int32 _ => 0x10
  | .timestamp _ => 0x11
  | .int64 _ => 0x12
  | .decimal128 _ => 0x13
  | .maxKey => 0x7F
  | .minKey => 0xFF

/-- A count as a signed word. -/
def lengthOctets (n : Nat) : List UInt8 := LittleEndian.encode 4 n

/-- Content between its length, which counts all of it, and a closing zero octet. -/
def frame (content : List UInt8) : List UInt8 :=
  lengthOctets (content.length + 5) ++ content ++ [0]

/-- A text after its length and before a zero octet, which the length counts. -/
def stringOctets (s : String) : List UInt8 :=
  let content := Utf8.encode s
  lengthOctets (content.length + 1) ++ content ++ [0]

/-- A text before a zero octet, if it holds none itself. -/
def nameOctets? (s : String) : Option (List UInt8) :=
  let content := Utf8.encode s
  if (0 : UInt8) ∈ content then none else some (content ++ [0])

/-- The characters of a regular expression's options in ascending order. -/
def sortedOptions (options : String) : String :=
  String.ofList (options.toList.mergeSort fun a b => a.toNat ≤ b.toNat)

/-- The subtype of binary values whose length is written twice. -/
def doubledLengthSubtype : UInt8 := 2

/-- Subtype and content of a binary value after its length. -/
def binaryOctets (subtype : UInt8) (bytes : List UInt8) : List UInt8 :=
  if subtype = doubledLengthSubtype then
    lengthOctets (bytes.length + 4) ++ subtype :: lengthOctets bytes.length ++ bytes
  else lengthOctets bytes.length ++ subtype :: bytes

mutual

/-- The content of a value. -/
def valueOctets? : Value → Option (List UInt8)
  | .double x => some (LittleEndian.ofUInt64 x.bits)
  | .string s => some (stringOctets s)
  | .document fields => (fieldsOctets? fields).map frame
  | .array items => (itemsOctets? 0 items).map frame
  | .binary subtype bytes => some (binaryOctets subtype bytes)
  | .undefined => some []
  | .objectId id => some id.bytes
  | .boolean b => some [if b then 1 else 0]
  | .dateTime millis => some (LittleEndian.ofInt64 millis)
  | .null => some []
  | .regex pattern options => do
    let first ← nameOctets? pattern
    let second ← nameOctets? (sortedOptions options)
    some (first ++ second)
  | .dbPointer ns id => some (stringOctets ns ++ id.bytes)
  | .code text => some (stringOctets text)
  | .symbol name => some (stringOctets name)
  | .codeWithScope text scope => do
    let content ← fieldsOctets? scope
    let body := stringOctets text ++ frame content
    some (lengthOctets (body.length + 4) ++ body)
  | .int32 n => some (LittleEndian.ofInt32 n)
  | .timestamp t => some (LittleEndian.ofUInt32 t.increment ++ LittleEndian.ofUInt32 t.time)
  | .int64 n => some (LittleEndian.ofInt64 n)
  | .decimal128 digits => some digits.bytes
  | .minKey => some []
  | .maxKey => some []

/-- Named values one after another. -/
def fieldsOctets? : List (String × Value) → Option (List UInt8)
  | [] => some []
  | (key, value) :: rest => do
    let name ← nameOctets? key
    let content ← valueOctets? value
    let others ← fieldsOctets? rest
    some (typeCode value :: name ++ content ++ others)

/-- Values one after another, named by their positions from `index` on. -/
def itemsOctets? : Nat → List Value → Option (List UInt8)
  | _, [] => some []
  | index, value :: rest => do
    let name ← nameOctets? (toString index)
    let content ← valueOctets? value
    let others ← itemsOctets? (index + 1) rest
    some (typeCode value :: name ++ content ++ others)

end

/-- The octets of a document. -/
def encode (d : Document) : Option (List UInt8) := (fieldsOctets? d).map frame

end CommandWire.Bson
