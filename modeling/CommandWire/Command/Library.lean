import CommandWire.Command.Registered
import CommandWire.Text.Quoted

namespace CommandWire

/-!
# Libraries of commands

A library holds commands that differ in their tokens and finds them under any spelling of the token.

* `CommandLibrary` — the commands, with the proof that no two share a token.
* `CommandLibrary.add`, `CommandLibrary.ofCommands` — one more command, or many; a token that is taken
  is refused.
* `CommandLibrary.findByName`, `CommandLibrary.find` — the command of a name, and that of the first
  name in a document that has one.
* `CommandLibrary.standard` — the library of all commands of this project.
* `CommandLibrary.names`, `CommandLibrary.debugText` — the names in ascending order.
-/

/-- Commands of which no two have names that differ only in case. -/
structure CommandLibrary where
  commands : List RegisteredCommand
  distinct : (commands.map RegisteredCommand.token).Nodup

/-- A command whose token another command has already. -/
structure DuplicateToken where
  name : String
  registered : String
deriving DecidableEq, Repr

/-- The text of the refusal, with the name that was given and the one that is there. -/
def DuplicateToken.message (d : DuplicateToken) : String :=
  "duplicate command token '" ++ d.name ++ "': '" ++ d.registered ++ "' is already registered"

namespace CommandLibrary

/-- The library without commands. -/
def empty : CommandLibrary := ⟨[], List.nodup_nil⟩

/-- The command with a token. -/
def findToken (l : CommandLibrary) (token : String) : Option RegisteredCommand :=
  l.commands.find? fun c => c.token == token

/-- The command of a name, however it is spelled. -/
def findByName (l : CommandLibrary) (name : String) : Option RegisteredCommand :=
  l.findToken (LowerCase.fold name)

/-- A token that is not found is that of no command. -/
theorem findToken_eq_none {l : CommandLibrary} {token : String}
    (h : l.findToken token = none) : token ∉ l.commands.map RegisteredCommand.token := by
  intro hmem
  obtain ⟨c, hc, rfl⟩ := List.mem_map.1 hmem
  have := List.find?_eq_none.1 h c hc
  simp at this

/-- Adds a command after the others. -/
def add (l : CommandLibrary) (c : RegisteredCommand) : Except DuplicateToken CommandLibrary :=
  match h : l.findToken c.token with
  | some other => .error ⟨c.name, other.name⟩
  | none => .ok {
      commands := l.commands ++ [c]
      distinct := by
        rw [List.map_append, List.map_singleton, List.nodup_append]
        refine ⟨l.distinct, by simp, ?_⟩
        intro a ha b hb hab
        rw [List.mem_singleton] at hb
        subst hb
        subst hab
        exact findToken_eq_none h ha }

/-- The library of some commands, added one by one. -/
def ofCommands (commands : List RegisteredCommand) : Except DuplicateToken CommandLibrary :=
  commands.foldlM add empty

/-- The commands that a test keeps. -/
def filter (l : CommandLibrary) (keep : RegisteredCommand → Bool) : CommandLibrary where
  commands := l.commands.filter keep
  distinct := (List.filter_sublist.map RegisteredCommand.token).nodup l.distinct

/-- The command of the first name in a document that has one. -/
def find (l : CommandLibrary) (d : Document) : Checked RegisteredCommand :=
  match d.keys.findSome? l.findByName with
  | some c => .ok c
  | none => .error (.commandNotSupported (d.keys.head?.getD ""))

/-! ### Listing -/

/-- The names in ascending order of their characters. -/
def names (l : CommandLibrary) : List String :=
  (l.commands.map RegisteredCommand.name).mergeSort fun a b => a ≤ b

/-- The number of commands. -/
def size (l : CommandLibrary) : Nat := l.commands.length

/-- Whether there are no commands. -/
def isEmpty (l : CommandLibrary) : Bool := l.commands.isEmpty

/-- How a library shows itself to a programmer. -/
def debugText (l : CommandLibrary) : String :=
  "CommandsLibrary \x7b commands: [" ++ ", ".intercalate (l.names.map Quoted.quote) ++ "] \x7d"

/-! ### The standard library -/

/-- Every command of this project. -/
def standardCommands : List RegisteredCommand :=
  [ListIndexes.command.registered, CollStats.command.registered, Handshake.command.registered,
    ReplSetFresh.command.registered, Ping.command.registered, IsMaster.command.registered]

/-- The names of the standard commands differ in more than case. -/
theorem nodup_standardTokens : (standardCommands.map RegisteredCommand.token).Nodup := by
  decide +kernel

/-- The library of the standard commands. -/
def standard : CommandLibrary := ⟨standardCommands, nodup_standardTokens⟩

end CommandLibrary

end CommandWire
