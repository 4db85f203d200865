import CommandWire.Command.Library
import CommandWire.Tree.Json
import CommandWire.Tree.Toml.Document
import CommandWire.Message.Reply

namespace CommandWire

/-!
# Settings

* `Settings` — the settings of the protocol layer; every one has a default.
* `Settings.ofTree?` — the settings that a tree gives, the others left at their defaults.
* `Settings.load` — the settings of a file, whose name says how it is written.
* `CommandSettings.isDisabled` — whether a command is left out of the library.
* `CommandLibrary.ofSettings` — the standard library without the commands that are left out.
-/

/-- How much is logged, and in which form. -/
structure LoggingSettings where
  level : String := "info"
  json : Bool := false
deriving DecidableEq, Repr

/-- Which commands are left out. -/
structure CommandSettings where
  disabled : List String := []
deriving DecidableEq, Repr

/-- How many documents the text of a reply shows. -/
structure ReplySettings where
  diagnosticDocumentsLimit : Nat := Reply.defaultDiagnosticLimit
deriving DecidableEq, Repr

/-- All settings; each of them has a default. -/
structure Settings where
  logging : LoggingSettings := {}
  commands : CommandSettings := {}
  reply : ReplySettings := {}
deriving DecidableEq, Repr

/-! ### Reading -/

/-- The settings of logging that a tree holds. -/
def LoggingSettings.ofTree? (surplus : Surplus) (t : Tree) : Option LoggingSettings := do
  match ← t.fields surplus ["level", "json"] with
  | [level, json] =>
    let level ← Tree.orDefault Tree.toText? "info" level
    let json ← Tree.orDefault Tree.toBool? false json
    some ⟨level, json⟩
  | _ => none

/-- The settings of commands that a tree holds. -/
def CommandSettings.ofTree? (surplus : Surplus) (t : Tree) : Option CommandSettings := do
  match ← t.fields surplus ["disabled"] with
  | [disabled] =>
    let items ← Tree.orDefault Tree.toList? [] disabled
    let names ← items.mapM Tree.toText?
    some ⟨names⟩
  | _ => none

/-- The settings of replies that a tree holds. -/
def ReplySettings.ofTree? (surplus : Surplus) (t : Tree) : Option ReplySettings := do
  match ← t.fields surplus ["diagnostic_documents_limit"] with
  | [limit] =>
    let limit ← Tree.orDefault (Tree.toCount? UInt64.size) Reply.defaultDiagnosticLimit limit
    some ⟨limit⟩
  | _ => none

/-- The settings that a tree gives. -/
def Settings.ofTree? (surplus : Surplus) (t : Tree) : Option Settings := do
  match ← t.fields surplus ["logging", "commands", "reply"] with
  | [logging, commands, reply] =>
    let logging ← Tree.orDefault (LoggingSettings.ofTree? surplus) {} logging
    let commands ← Tree.orDefault (CommandSettings.ofTree? surplus) {} commands
    let reply ← Tree.orDefault (ReplySettings.ofTree? surplus) {} reply
    some ⟨logging, commands, reply⟩
  | _ => none

/-- The settings of a text in TOML, where a list may give more items than there are parts. -/
def Settings.ofToml? (content : String) : Option Settings := do
  let tree ← Toml.read? content
  Settings.ofTree? .ignored tree

/-- The settings of a text in JSON, where it may not. -/
def Settings.ofJson? (content : String) : Option Settings := do
  let tree ← Json.read? content
  Settings.ofTree? .refused tree

/-- What a file name has after its last dot.  A dot in front of the name does not count. -/
def extension? (fileName : String) : Option String :=
  let reversed := fileName.toList.reverse
  match reversed.dropWhile (· ≠ '.') with
  | [] => none
  | [_] => none
  | _ :: _ => some (String.ofList (reversed.takeWhile (· ≠ '.')).reverse)

/-- Why there are no settings. -/
inductive SettingsError where
  /-- The file cannot be read. -/
  | unreadable
  /-- The text of the file is not of its format, or gives no settings. -/
  | malformed
deriving DecidableEq, Repr

/-- The settings of a file with a name and, if the file is there, a content. -/
def Settings.load (fileName : String) (content : Option String) : Except SettingsError Settings :=
  match content with
  | none => .error .unreadable
  | some content =>
    let read := if extension? fileName = some "toml" then ofToml? else ofJson?
    match read content with
    | some settings => .ok settings
    | none => .error .malformed

/-! ### Writing -/

/-- The tree of settings. -/
def Settings.toTree (s : Settings) : Tree :=
  .record [
    (some "logging", .record [
      (some "level", .text (some s.logging.level)), (some "json", .bool s.logging.json)]),
    (some "commands", .record [
      (some "disabled", .list (s.commands.disabled.map fun name => .text (some name)))]),
    (some "reply", .record [
      (some "diagnostic_documents_limit", .integer s.reply.diagnosticDocumentsLimit)])]

/-! ### What settings do -/

/-- Whether a token is disabled.  Only letters from A to Z are the same in both cases here. -/
def CommandSettings.isDisabled (s : CommandSettings) (token : String) : Bool :=
  s.disabled.any fun name => LowerCase.foldAscii name == LowerCase.foldAscii token

/-- The standard commands that are not disabled. -/
def CommandLibrary.ofSettings (s : CommandSettings) : CommandLibrary :=
  CommandLibrary.standard.filter fun c => !s.isDisabled c.name

end CommandWire
