import CommandWire.Address
import CommandWire.Command.Basic
import CommandWire.Field.Document
import CommandWire.OpTime

namespace CommandWire.ReplSetFresh

/-!
# `replSetFresh`

A candidate in an election asks whether any member is fresher than itself.

* `Argument` — who asks, and how far it has got.
* `Reply` — whether the member asked is fresher, and whether it objects.
* `command` — the command.
-/

/-- A member that asks whether its data is recent enough for it to become primary. -/
structure Argument where
  setName : String
  /-- The member that asks. -/
  who : Address
  /-- The number of that member in its replica set. -/
  clientId : Int32
  /-- The version of the configuration that it runs. -/
  configVersion : Int64
  /-- When the last operation was that it has applied. -/
  opTime : Instant
deriving DecidableEq

/-- What the asked member answers: when its own last operation was, whether its data is newer, and
    whether it objects. -/
structure Reply where
  info : Option String
  opTime : Instant
  fresher : Bool
  veto : Bool
deriving DecidableEq

/-- The name of the replica set. -/
def setNameField : Field String := ⟨"set"⟩

/-- The address of the member that asks, as text. -/
def whoField : Field String := ⟨"who"⟩

/-- The number of the member that asks. -/
def clientIdField : Field Int32 := ⟨"id"⟩

/-- The version of the configuration that the member runs. -/
def configVersionField : Field Number := ⟨"cfgver"⟩

/-- When a member's last operation was: a date, or the seconds of a timestamp. -/
def opTimeField : Field Instant := ⟨"optime"⟩

/-- Whether the asked member's data is newer. -/
def fresherField : Field Bool := ⟨"fresher"⟩

/-- A remark for people, if there is one. -/
def infoField : Field String := ⟨"info"⟩

/-- Whether the asked member objects. -/
def vetoField : Field Bool := ⟨"veto"⟩

/-- The last operation that the member has applied. -/
def Argument.lastOpTime (a : Argument) : Checked OpTime := OpTime.ofInstant a.opTime

/-- The argument that a document describes.  An instant that fits into no `OpTime` is refused last.
    -/
def readArgument (d : Document) : Checked Argument := do
  let clientId ← d.read clientIdField
  let setName ← d.read setNameField
  let whoText ← d.read whoField
  let who ← Address.parse whoText
  let configVersion ← d.read configVersionField
  let opTime ← d.read opTimeField
  let _ ← OpTime.ofInstant opTime
  return ⟨setName, who, clientId, configVersion.toInt64, opTime⟩

/-- The document of a reply. -/
def Reply.toDocument (r : Reply) : Document :=
  Document.empty
    |>.put fresherField r.fresher
    |>.putOptional infoField r.info
    |>.put opTimeField r.opTime
    |>.put vetoField r.veto

/-- `replSetFresh`: only the asked member's side of it is there. -/
def command : Command Argument Reply where
  name := "replSetFresh"
  onSecondary := false
  readArgument := readArgument
  writeResult r := .ok r.toDocument

end CommandWire.ReplSetFresh
