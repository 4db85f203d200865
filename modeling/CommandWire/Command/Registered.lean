import CommandWire.Command.Basic
import CommandWire.Command.Payload
import CommandWire.Text.LowerCase

namespace CommandWire

/-!
# Commands without their types

* `RegisteredCommand` — a command whose arguments and results are payloads.
* `Command.registered` — a typed command as one of those.  A payload of another type is refused.
* `RegisteredCommand.token` — the lower-case form of a command's name.
-/

/-- A command whose arguments and results are payloads, so that commands of all types stand in one
    library. -/
structure RegisteredCommand where
  name : String
  onSecondary : Bool
  supports : Direction → Bool
  readArgument : Document → Checked Payload
  writeArgument : Payload → Coded Document
  readResult : Document → Coded Payload
  writeResult : Payload → Checked Document

/-- The form of a name by which commands are told apart. -/
def RegisteredCommand.token (c : RegisteredCommand) : String := LowerCase.fold c.name

/-- A payload that is not of the type that the command has in a role. -/
def wrongPayload (command role label : String) : ProtocolError :=
  .badValue (command ++ ": " ++ role ++ " is not a " ++ label)

/-- A typed command without its types. -/
def Command.registered {α β : Type} [Payload.Carries α] [Payload.Carries β] (c : Command α β) :
    RegisteredCommand where
  name := c.name
  onSecondary := c.onSecondary
  supports := c.supports
  readArgument d := (c.readArgument d).map Payload.Carries.pack
  writeArgument p :=
    match Payload.Carries.unpack? p with
    | some argument => c.writeArgument argument
    | none => .error (.protocol (wrongPayload c.name "argument" (Payload.Carries.label α)))
  readResult d := (c.readResult d).map Payload.Carries.pack
  writeResult p :=
    match Payload.Carries.unpack? p with
    | some result => c.writeResult result
    | none => .error (wrongPayload c.name "result" (Payload.Carries.label β)).wrap

end CommandWire
