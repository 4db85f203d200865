import CommandWire.Octets.Reader
import CommandWire.Text.Utf8
import CommandWire.Bson.Encode

namespace CommandWire.Bson

/-!
# Octets as documents

Reading accepts only what is written the way `encode` writes: every length has to be right, every
text has to be UTF-8 and to end in a zero octet, and nothing may follow a document.

* `decode` — the document that a sequence of octets stands for.
* `takeFrame?` — the content of the document at the front, and what follows it.
* `readFields` — the named values of a document's content.
-/

/-- What an error text says in place of the reason why octets are not a document. -/
def malformed : String := "<bson>"

/-- The content of the document at the front of the input, and what follows the document. -/
def takeFrame? (bytes : List UInt8) : Option (List UInt8 × List UInt8) := do
  let (length, _) ← Octets.takeInt32? bytes
  if length < 5 then none
  else
    let (framed, rest) ← Octets.take? length.toInt.toNat bytes
    if framed.getLast? = some 0 then some ((framed.drop 4).dropLast, rest) else none

/-- A text with its length in front. -/
def takeString? (bytes : List UInt8) : Option (String × List UInt8) := do
  let (length, afterLength) ← Octets.takeInt32? bytes
  if length < 1 then none
  else
    let (framed, rest) ← Octets.take? length.toInt.toNat afterLength
    if framed.getLast? = some 0 then
      let text ← Utf8.decode? framed.dropLast
      some (text, rest)
    else none

/-- A text that ends before the first zero octet. -/
def takeName? (bytes : List UInt8) : Option (String × List UInt8) := do
  let (content, rest) ← Octets.takeUntilNul? bytes
  let text ← Utf8.decode? content
  some (text, rest)

/-- A fixed count of octets. -/
def takeFixed? (count : Nat) (bytes : List UInt8) : Option (FixedOctets count × List UInt8) := do
  let (front, rest) ← Octets.take? count bytes
  let fixed ← FixedOctets.ofList? front
  some (fixed, rest)

/-- A binary value: length, subtype and content. -/
def takeBinary? (bytes : List UInt8) : Option (Value × List UInt8) := do
  let (length, afterLength) ← Octets.takeInt32? bytes
  match afterLength with
  | [] => none
  | subtype :: afterSubtype =>
    if length < 0 then none
    else
      let (content, rest) ← Octets.take? length.toInt.toNat afterSubtype
      if subtype = doubledLengthSubtype then
        let (inner, data) ← Octets.takeInt32? content
        if inner.toInt = data.length then some (.binary subtype data, rest) else none
      else some (.binary subtype content, rest)

/-- One value, given the reader of the content of documents inside it. -/
def readValue (nested : List UInt8 → Option (List (String × Value))) (code : UInt8)
    (bytes : List UInt8) : Option (Value × List UInt8) :=
  match code with
  | 0x01 => do
    let (bits, rest) ← Octets.takeUInt64? bytes
    some (.double ⟨bits⟩, rest)
  | 0x02 => do
    let (text, rest) ← takeString? bytes
    some (.string text, rest)
  | 0x03 => do
    let (content, rest) ← takeFrame? bytes
    let pairs ← nested content
    some (.document (Document.ofPairs pairs), rest)
  | 0x04 => do
    let (content, rest) ← takeFrame? bytes
    let pairs ← nested content
    some (.array (pairs.map Prod.snd), rest)
  | 0x05 => takeBinary? bytes
  | 0x06 => some (.undefined, bytes)
  | 0x07 => do
    let (id, rest) ← takeFixed? 12 bytes
    some (.objectId id, rest)
  | 0x08 =>
    match bytes with
    | 0 :: rest => some (.boolean false, rest)
    | 1 :: rest => some (.boolean true, rest)
    | _ => none
  | 0x09 => do
    let (millis, rest) ← Octets.takeInt64? bytes
    some (.dateTime millis, rest)
  | 0x0A => some (.null, bytes)
  | 0x0B => do
    let (pattern, afterPattern) ← takeName? bytes
    let (options, rest) ← takeName? afterPattern
    some (.regex pattern (sortedOptions options), rest)
  | 0x0C => do
    let (ns, afterName) ← takeString? bytes
    let (id, rest) ← takeFixed? 12 afterName
    some (.dbPointer ns id, rest)
  | 0x0D => do
    let (text, rest) ← takeString? bytes
    some (.code text, rest)
  | 0x0E => do
    let (name, rest) ← takeString? bytes
    some (.symbol name, rest)
  | 0x0F => do
    let (length, afterLength) ← Octets.takeInt32? bytes
    let (text, afterText) ← takeString? afterLength
    let (content, rest) ← takeFrame? afterText
    let pairs ← nested content
    if length.toInt = (bytes.length : Int) - rest.length then
      some (.codeWithScope text (Document.ofPairs pairs), rest)
    else none
  | 0x10 => do
    let (n, rest) ← Octets.takeInt32? bytes
    some (.int32 n, rest)
  | 0x11 => do
    let (increment, afterIncrement) ← Octets.takeUInt32? bytes
    let (time, rest) ← Octets.takeUInt32? afterIncrement
    some (.timestamp ⟨time, increment⟩, rest)
  | 0x12 => do
    let (n, rest) ← Octets.takeInt64? bytes
    some (.int64 n, rest)
  | 0x13 => do
    let (digits, rest) ← takeFixed? 16 bytes
    some (.decimal128 digits, rest)
  | 0x7F => some (.maxKey, bytes)
  | 0xFF => some (.minKey, bytes)
  | _ => none

/-- The named values that make up a document's content, in order.  `fuel` bounds their number at all
    depths; the length of the content is enough, because every value takes two octets or more. -/
def readFields : Nat → List UInt8 → Option (List (String × Value))
  | _, [] => some []
  | 0, _ :: _ => none
  | fuel + 1, code :: bytes => do
    let (key, afterKey) ← takeName? bytes
    let (value, afterValue) ← readValue (readFields fuel) code afterKey
    let others ← readFields fuel afterValue
    some ((key, value) :: others)

/-- The document that octets stand for.  A name that stands twice keeps its first place and its last
    value. -/
def decode (bytes : List UInt8) : Option Document := do
  let (content, rest) ← takeFrame? bytes
  if rest.isEmpty then
    let pairs ← readFields content.length content
    some (Document.ofPairs pairs)
  else none

end CommandWire.Bson
