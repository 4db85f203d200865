import CommandWire.Message.Batch
import CommandWire.Message.Header
import CommandWire.Value.Text

namespace CommandWire

/-!
# Replies

A reply is an envelope around documents that live in a data context.  Once the context has been
released the documents are out of reach.

* `DataContext` — the memory of the documents, which somebody owns: whether it is there, and how often
  it has been given back.
* `ReplyFlags` — the four flags of a reply, and their bits.
* `DocumentSource` — where the documents come from: a list, a single one, or a batch of octets.
* `Reply` — the envelope.  `Reply.documents` reads the documents, from the first one each time.
* `Reply.encode`, `Reply.decode` — the envelope as a message.
* `Reply.release`, `Reply.consume` — the end of its life.
* `Reply.text` — the text of a reply, with its first documents.
-/

/-! ### Contexts -/

/-- The memory that the documents of a reply live in, and which somebody owns. -/
structure DataContext where
  /-- The memory is there. -/
  valid : Bool
  /-- How often the memory has been given back. -/
  releases : Nat
deriving DecidableEq, Repr

namespace DataContext

/-- A context whose memory is there. -/
def fresh : DataContext := ⟨true, 0⟩

/-- Gives the memory back. -/
def release (c : DataContext) : DataContext := ⟨false, c.releases + 1⟩

/-- Gives the memory back if it is there. -/
def releaseOnce (c : DataContext) : DataContext := if c.valid then c.release else c

/-- After a release the memory is gone. -/
@[simp] theorem valid_releaseOnce (c : DataContext) : c.releaseOnce.valid = false := by
  cases h : c.valid <;> simp [releaseOnce, release, h]

/-- A second release does nothing. -/
@[simp] theorem releaseOnce_releaseOnce (c : DataContext) :
    c.releaseOnce.releaseOnce = c.releaseOnce := by
  rw [releaseOnce, valid_releaseOnce]; simp

end DataContext

/-! ### Flags -/

/-- The flags of a reply. -/
structure ReplyFlags where
  cursorNotFound : Bool
  queryFailure : Bool
  shardConfigStale : Bool
  awaitCapable : Bool
deriving DecidableEq, Repr

namespace ReplyFlags

/-- No flag is set. -/
def none : ReplyFlags := ⟨false, false, false, false⟩

/-- The flags as bits, the first flag in the lowest one. -/
def bits (f : ReplyFlags) : Int32 :=
  (if f.cursorNotFound then 1 else 0) + (if f.queryFailure then 2 else 0) +
    (if f.shardConfigStale then 4 else 0) + (if f.awaitCapable then 8 else 0)

/-- The flags of some bits; higher bits mean nothing. -/
def ofBits (bits : Int32) : ReplyFlags :=
  let n := bits.toUInt32.toNat
  ⟨n.testBit 0, n.testBit 1, n.testBit 2, n.testBit 3⟩

/-- The flags are read back from their bits. -/
@[simp] theorem ofBits_bits (f : ReplyFlags) : ofBits f.bits = f := by
  obtain ⟨a, b, c, d⟩ := f
  cases a <;> cases b <;> cases c <;> cases d <;> decide

end ReplyFlags

/-! ### Documents -/

/-- Where the documents of a reply come from. -/
inductive DocumentSource where
  | list (documents : List Document)
  | single (document : Document)
  | batch (bytes : List UInt8)
deriving DecidableEq

/-- The documents of a source, in order. -/
def DocumentSource.items : DocumentSource → List (Checked Document)
  | .list documents => documents.map .ok
  | .single document => [.ok document]
  | .batch bytes => Batch.items bytes

/-- Why the documents of a reply were not read or written. -/
inductive ReplyError where
  /-- The context has been released. -/
  | released
  | protocol (error : ProtocolError)
deriving DecidableEq, Repr

/-- The text of the error. -/
def ReplyError.text : ReplyError → String
  | .released => "reply documents are unavailable: data context released"
  | .protocol error => error.text

/-! ### The envelope -/

/-- The envelope of a reply, and the context of its documents. -/
structure Reply where
  responseTo : Int32
  flags : ReplyFlags
  cursorId : Int64
  startingFrom : Int32
  source : DocumentSource
  context : DataContext
  /-- How many documents the text of the reply shows. -/
  diagnosticLimit : Nat
deriving DecidableEq

namespace Reply

/-- How many documents the text of a reply shows, unless told otherwise. -/
def defaultDiagnosticLimit : Nat := 10

/-- A reply without flags. -/
def plain (context : DataContext) (responseTo : Int32) (cursorId : Int64) (startingFrom : Int32)
    (source : DocumentSource) : Reply :=
  ⟨responseTo, .none, cursorId, startingFrom, source, context, defaultDiagnosticLimit⟩

/-- The reply with other flags. -/
def withFlags (r : Reply) (flags : ReplyFlags) : Reply := { r with flags }

/-- The reply whose text shows another number of documents. -/
def withDiagnosticLimit (r : Reply) (limit : Nat) : Reply := { r with diagnosticLimit := limit }

/-- Whether the context has been released. -/
def isReleased (r : Reply) : Bool := !r.context.valid

/-- The documents, while the context is there. -/
def documents (r : Reply) : Except ReplyError (List (Checked Document)) :=
  if r.isReleased then .error .released else .ok r.source.items

/-- Releases the context, unless that has happened. -/
def release (r : Reply) : Reply := { r with context := r.context.releaseOnce }

/-- What a function makes of the reply, and the context after the reply has gone, which it does
    whatever the function gave. -/
def consume {α : Type} (r : Reply) (f : Reply → α) : α × DataContext := (f r, r.release.context)

/-! ### The message -/

/-- The length of a body before its documents. -/
def fixedPartSize : Nat := 20

/-- Why a reply is not written. -/
inductive Fault where
  | unwritableDocument
  | tooManyDocuments
  | tooLong
deriving DecidableEq, Repr

/-- The error that refuses the reply.  Only a document that cannot be written is an unwritable
    result. -/
def Fault.toError : Fault → ProtocolError
  | .unwritableDocument =>
    (ProtocolError.badValue ("cannot serialize reply document: " ++ Bson.malformed)).wrap
  | .tooManyDocuments => .badValue "too many documents in reply"
  | .tooLong => .badValue "reply exceeds the maximum message size"

/-- The octets of one document. -/
def documentOctets (item : Checked Document) : Checked (List UInt8) := do
  let d ← item
  match Bson.encode d with
  | some bytes => .ok bytes
  | none => .error Fault.unwritableDocument.toError

/-- The greatest number that a signed word holds. -/
def wordMax : Nat := 2147483647

/-- The body of a reply before its documents. -/
def fixedPart (r : Reply) (count : Nat) : List UInt8 :=
  LittleEndian.ofInt32 r.flags.bits ++ LittleEndian.ofInt64 r.cursorId ++
    LittleEndian.ofInt32 r.startingFrom ++ LittleEndian.ofInt32 (Int32.ofNat count)

/-- The message that carries some documents. -/
def message (r : Reply) (requestId : Int32) (items : List (Checked Document)) :
    Checked (List UInt8) := do
  let encoded ← items.mapM documentOctets
  let content := encoded.flatten
  let length := Header.size + fixedPartSize + content.length
  if wordMax < encoded.length then throw Fault.tooManyDocuments.toError
  if wordMax < length then throw Fault.tooLong.toError
  let header : Header := ⟨Int32.ofNat length, requestId, r.responseTo, .reply⟩
  return header.encode ++ r.fixedPart encoded.length ++ content

/-- The whole message of a reply. -/
def encode (r : Reply) (requestId : Int32) : Except ReplyError (List UInt8) := do
  let items ← r.documents
  (r.message requestId items).mapError .protocol

/-- Why a message is not a reply. -/
inductive DecodeFault where
  | otherOperation (opCode : OpCode)
  | tooShort (length : Nat)
deriving DecidableEq, Repr

/-- The text of a fault. -/
def DecodeFault.message : DecodeFault → String
  | .otherOperation opCode => "expected an OP_REPLY message, found " ++ opCode.name
  | .tooShort length => "OP_REPLY body too short: " ++ toString length ++ " bytes"

/-- The error that refuses the message. -/
def DecodeFault.toError (fault : DecodeFault) : ProtocolError := .failedToParse fault.message

/-- Flags, cursor and first position of a body, and the octets of its documents.  The number of the
    documents is not looked at. -/
def body? (bytes : List UInt8) : Option (ReplyFlags × Int64 × Int32 × List UInt8) := do
  let (flags, bytes) ← Octets.takeInt32? bytes
  let (cursorId, bytes) ← Octets.takeInt64? bytes
  let (startingFrom, bytes) ← Octets.takeInt32? bytes
  let (_, content) ← Octets.takeInt32? bytes
  some (ReplyFlags.ofBits flags, cursorId, startingFrom, content)

/-- The reply of a header and a body. -/
def decode (header : Header) (body : List UInt8) : Checked Reply :=
  if header.opCode ≠ .reply then .error (DecodeFault.otherOperation header.opCode).toError
  else
    match body? body with
    | none => .error (DecodeFault.tooShort body.length).toError
    | some (flags, cursorId, startingFrom, content) =>
      .ok ((plain .fresh header.responseTo cursorId startingFrom (.batch content)).withFlags flags)

/-! ### Text -/

/-- The text of a boolean. -/
def boolText (b : Bool) : String := if b then "true" else "false"

/-- The text of a document, or of the error in its place. -/
def itemText : Checked Document → String
  | .ok d => d.text
  | .error e => "<" ++ e.text ++ ">"

/-- The text of the documents that a reply shows. -/
def documentsText (r : Reply) : String :=
  match r.documents with
  | .ok items =>
    ", documents (limited to " ++ toString r.diagnosticLimit ++ ")=[" ++
      ", ".intercalate ((items.take r.diagnosticLimit).map itemText) ++ "]"
  | .error _ => ", documents=<unavailable>"

/-- The text of a reply. -/
def text (r : Reply) : String :=
  "ReplyMessage\x7bresponseTo=" ++ toString r.responseTo.toInt ++
    ", cursorNotFound=" ++ boolText r.flags.cursorNotFound ++
    ", queryFailure=" ++ boolText r.flags.queryFailure ++
    ", shardConfigStale=" ++ boolText r.flags.shardConfigStale ++
    ", awaitCapable=" ++ boolText r.flags.awaitCapable ++
    ", cursorId=" ++ toString r.cursorId.toInt ++
    ", startingFrom=" ++ toString r.startingFrom.toInt ++ r.documentsText ++ "\x7d"

end Reply

end CommandWire
