import CommandWire.Command.Basic
import CommandWire.Field.Document

namespace CommandWire.IsMaster

/-!
# `isMaster`

Tells a client that connects which role the server has and which limits it keeps.

* `Reply` — role, limits and local time; `Reply.standalone` and `Reply.ofMember` are the replies of a
  lone server and of a member of a replica set.
* `Reply.toDocument`, `Reply.ofDocument` — the reply as a document.
* `command` — the command.
-/

/-- 16 MiB. -/
def maxDocumentSize : Int32 := 16777216

/-- The greatest size of a message, in bytes. -/
def maxMessageSize : Int32 := 48000000

/-- The greatest number of writes in one batch. -/
def maxBatchSize : Int32 := 1000

/-- The oldest version of the protocol that is spoken. -/
def minWireVersion : Int32 := 0

/-- The newest version of the protocol that is spoken. -/
def maxWireVersion : Int32 := 3

/-- What a server says about its role, its limits and its clock. -/
structure Reply where
  isMaster : Bool
  secondary : Bool
  setName : Option String
  maxDocumentSize : Int32
  maxMessageSize : Int32
  maxBatchSize : Int32
  localTime : Instant
  minWireVersion : Int32
  maxWireVersion : Int32
deriving DecidableEq

/-- Whether the server takes writes. -/
def isMasterField : Field Bool := ⟨"ismaster"⟩

/-- Whether the server is a secondary. -/
def secondaryField : Field Bool := ⟨"secondary"⟩

/-- The name of the replica set, for a member of one. -/
def setNameField : Field String := ⟨"setName"⟩

/-- The greatest size of a document, in bytes. -/
def maxDocumentSizeField : Field Int32 := ⟨"maxBsonObjectSize"⟩

/-- The greatest size of a message, in bytes. -/
def maxMessageSizeField : Field Int32 := ⟨"maxMessageSizeBytes"⟩

/-- The greatest number of writes in one batch. -/
def maxBatchSizeField : Field Int32 := ⟨"maxWriteBatchSize"⟩

/-- The server's clock, which is written in whole milliseconds. -/
def localTimeField : Field Instant := ⟨"localTime"⟩

/-- The oldest version of the protocol that is spoken. -/
def minWireVersionField : Field Int32 := ⟨"minWireVersion"⟩

/-- The newest version of the protocol that is spoken. -/
def maxWireVersionField : Field Int32 := ⟨"maxWireVersion"⟩

/-- The reply of a server outside any replica set: it takes writes. -/
def Reply.standalone (localTime : Instant) : Reply :=
  ⟨true, false, none, IsMaster.maxDocumentSize, IsMaster.maxMessageSize, IsMaster.maxBatchSize,
    localTime, IsMaster.minWireVersion, IsMaster.maxWireVersion⟩

/-- The reply of a member of a replica set. -/
def Reply.ofMember (localTime : Instant) (setName : String) (primary : Bool) : Reply :=
  { Reply.standalone localTime with
    isMaster := primary
    secondary := !primary
    setName := some setName }

/-- The document of a reply. -/
def Reply.toDocument (r : Reply) : Document :=
  Document.empty
    |>.put isMasterField r.isMaster
    |>.put secondaryField r.secondary
    |>.putOptional setNameField r.setName
    |>.put maxDocumentSizeField r.maxDocumentSize
    |>.put maxMessageSizeField r.maxMessageSize
    |>.put maxBatchSizeField r.maxBatchSize
    |>.put localTimeField r.localTime
    |>.put minWireVersionField r.minWireVersion
    |>.put maxWireVersionField r.maxWireVersion

/-- The reply that a document describes.  A server that names no greatest version knows only the
    first one. -/
def Reply.ofDocument (d : Document) : Checked Reply := do
  let isMaster ← d.read isMasterField
  let secondary ← d.readOr secondaryField false
  let setName ← d.readOptional setNameField
  let maxDocumentSize ← d.readOr maxDocumentSizeField IsMaster.maxDocumentSize
  let maxMessageSize ← d.readOr maxMessageSizeField IsMaster.maxMessageSize
  let maxBatchSize ← d.readOr maxBatchSizeField IsMaster.maxBatchSize
  let localTime ← d.read localTimeField
  let minWireVersion ← d.readOr minWireVersionField IsMaster.minWireVersion
  let maxWireVersion ← d.readOr maxWireVersionField IsMaster.minWireVersion
  return {
    isMaster, secondary, setName, maxDocumentSize, maxMessageSize, maxBatchSize, localTime
    minWireVersion, maxWireVersion }

/-- `isMaster`: a request without content, which every member answers for itself. -/
def command : Command Unit Reply where
  name := "isMaster"
  onSecondary := true
  readArgument _ := .ok ()
  writeResult r := .ok r.toDocument
  writeArgument? := some fun _ => .ok (Ping.bareRequest "isMaster")
  readResult? := some Reply.ofDocument

end CommandWire.IsMaster
