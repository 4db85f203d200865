import CommandWire.Error
import CommandWire.Value.Basic

namespace CommandWire

/-!
# Commands

A command turns documents into its typed argument and its typed result into documents.  Some commands
also work the other way round, for the side that asks.

* `Command` — what a command is called and the four directions, of which two may be missing.
* `Command.supports` — whether a command works in a direction.
* `Command.writeArgument`, `Command.readResult` — the directions that may be missing, with the error
  that says so.
* `Ping.command` — the command that only asks whether the server answers.
-/

/-- A command with argument `α` and result `β`. -/
structure Command (α β : Type) where
  /-- The token that names the command in a document, in any mixture of cases. -/
  name : String
  /-- Whether a secondary may answer.  Nothing here enforces it. -/
  onSecondary : Bool
  readArgument : Document → Checked α
  writeResult : β → Checked Document
  writeArgument? : Option (α → Checked Document) := none
  readResult? : Option (Document → Checked β) := none

namespace Command

variable {α β : Type}

/-- Whether the command works in a direction. -/
def supports (c : Command α β) : Direction → Bool
  | .readArgument => true
  | .writeResult => true
  | .writeArgument => c.writeArgument?.isSome
  | .readResult => c.readResult?.isSome

/-- The document that asks for the command with an argument. -/
def writeArgument (c : Command α β) (argument : α) : Coded Document :=
  match c.writeArgument? with
  | some write => (write argument).toCoded
  | none => .error (.unsupported c.name .writeArgument)

/-- The result that a reply describes. -/
def readResult (c : Command α β) (d : Document) : Coded β :=
  match c.readResult? with
  | some read => (read d).toCoded
  | none => .error (.unsupported c.name .readResult)

end Command

/-- A command's errors in writing its result are wrapped once. -/
def Checked.wrapped {α : Type} (x : Checked α) : Checked α := x.mapError ProtocolError.wrap

/-! ### `ping` -/

namespace Ping

/-- The document that asks for a command without an argument. -/
def bareRequest (name : String) : Document := Document.empty.insert name (.int32 1)

/-- `ping`: a request and a result without content.  A secondary may answer it. -/
def command : Command Unit Unit where
  name := "ping"
  onSecondary := true
  readArgument _ := .ok ()
  writeResult _ := .ok Document.empty
  writeArgument? := some fun _ => .ok (bareRequest "ping")
  readResult? := some fun _ => .ok ()

end Ping

end CommandWire
