import CommandWire.Command.Basic
import CommandWire.Member

namespace CommandWire.Handshake

/-!
# `handshake`

A secondary makes itself known to the member that it copies from.

* `Argument` — who the secondary is.
* `readArgument` — the argument of a document that holds no other fields than the command's own.
* `command` — the command; its result carries nothing.
-/

/-- Who a secondary says that it is. -/
structure Argument where
  rid : ObjectId
  memberId : Option Int64
  /-- Only older members send their configuration. -/
  config : Option Member
deriving DecidableEq

/-- The secondary's identifier stands under the command's own token. -/
def ridField : Field ObjectId := ⟨"handshake"⟩

/-- The secondary's number in its replica set. -/
def memberIdField : Field Int64 := ⟨"member"⟩

/-- The secondary's configuration as a member. -/
def configField : Field Document := ⟨"config"⟩

/-- The names that a handshake may hold. -/
def allowedNames : List String := ["handshake", "config", "member"]

/-- The argument that a document describes.  A name that is not allowed is refused before any field
    is read. -/
def readArgument (d : Document) : Checked Argument := do
  d.onlyHas "HandshakeArgs" allowedNames
  let rid ← d.read ridField
  let memberId ← d.readOptional memberIdField
  match ← d.readOptional configField with
  | none => return ⟨rid, memberId, none⟩
  | some document =>
    let config ← Member.ofDocument document
    return ⟨rid, memberId, some config⟩

/-- `handshake`: no secondary answers it, and its result carries nothing. -/
def command : Command Argument Unit where
  name := "handshake"
  onSecondary := false
  readArgument := readArgument
  writeResult _ := .ok Document.empty
  readResult? := some fun _ => .ok ()

end CommandWire.Handshake
