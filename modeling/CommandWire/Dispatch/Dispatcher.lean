import CommandWire.Command.Library
import CommandWire.Field.Document
import CommandWire.Message.Query
import CommandWire.Message.Reply
import CommandWire.SocketAddress

namespace CommandWire

/-!
# Dispatch of commands

A command document is answered in four steps: the command is looked up, its argument decoded, the
command executed and its result written.  The first step that fails decides the answer.

* `Request`, `Processor` — what is known about a request besides its content, and who executes decoded
  commands and answers queries.
* `Counter` — what is counted: commands by name and outcome, and errors by code.  `Counter.metric` and
  `Counter.labels` are the name of a counter and the labels that tell it from others.
* `errorDocument` — the answer to a command that failed.
* `Event`, `Session` — what happens during dispatch, in order, beside the state of the processor.
* `Dispatcher.handleCommand` — the answer to a command document.  There always is one.
* `Dispatcher.handleQuery` — the answer to a query message, which is a command when its collection
  says so, and goes to the processor else.
-/

/-! ### Who executes requests -/

/-- What is known about a request besides its content. -/
structure Request where
  connectionId : Int32
  requestId : Int32
  database : String
  clientAddress : Option SocketAddress
deriving DecidableEq, Repr

/-- A request from a client whose address is not known. -/
def Request.plain (connectionId requestId : Int32) (database : String) : Request :=
  ⟨connectionId, requestId, database, none⟩

/-- Executes decoded commands and answers queries.  It keeps a state of its own and may do anything
    with it. -/
structure Processor (σ : Type) where
  /-- Executes a command with its decoded argument. -/
  execute : Request → RegisteredCommand → Payload → σ → Checked Payload × σ
  /-- Answers a query that is not a command. -/
  query : Request → Query → σ → Checked Reply × σ

/-! ### Counters -/

/-- How the execution of a command ended. -/
inductive CommandOutcome where
  | ok
  | failed
deriving DecidableEq, Repr

/-- The label of an outcome. -/
def CommandOutcome.label : CommandOutcome → String
  | .ok => "ok"
  | .failed => "failed"

/-- What is counted: commands by name and outcome, and errors by code. -/
inductive Counter where
  | command (name : String) (outcome : CommandOutcome)
  | error (code : ErrorCode)
deriving DecidableEq, Repr

namespace Counter

/-- The name under which a counter is reported. -/
def metric : Counter → String
  | command _ _ => "mongowire_commands_total"
  | error _ => "mongowire_command_errors_total"

/-- The labels that tell a counter from others of its name. -/
def labels : Counter → List (String × String)
  | command name outcome => [("command", name), ("outcome", outcome.label)]
  | error code => [("code", code.name)]

end Counter

/-! ### Answers -/

/-- Whether the command succeeded: 1 or 0. -/
def okField : Field Binary64 := ⟨"ok"⟩

/-- The text of the error. -/
def errmsgField : Field String := ⟨"errmsg"⟩

/-- The number of the error's code. -/
def codeField : Field Int32 := ⟨"code"⟩

/-- The name of the error's code. -/
def codeNameField : Field String := ⟨"codeName"⟩

/-- The answer to a command that failed. -/
def errorDocument (e : ProtocolError) : Document :=
  Document.empty
    |>.put okField Binary64.zero
    |>.put errmsgField e.text
    |>.put codeField e.code.number
    |>.put codeNameField e.code.name

/-- The answer to a command that succeeded: its result, marked as such. -/
def okDocument (result : Document) : Document := result.put okField Binary64.one

/-! ### Sessions -/

/-- What happens during dispatch. -/
inductive Event where
  /-- The supplied context was released before a query went to the processor. -/
  | released
  | executed (request : Request) (command : String) (onSecondary : Bool) (argument : Payload)
  | queried (request : Request) (query : Query)
  | counted (counter : Counter)
deriving DecidableEq

/-- The state of the processor, and what has happened so far. -/
structure Session (σ : Type) where
  processor : σ
  events : List Event

namespace Session

variable {σ : Type}

/-- A session in which nothing has happened. -/
def start (processor : σ) : Session σ := ⟨processor, []⟩

/-- Adds an event. -/
def record (s : Session σ) (event : Event) : Session σ := { s with events := s.events ++ [event] }

/-- The counters that were raised, in order. -/
def counters (s : Session σ) : List Counter :=
  s.events.filterMap fun
    | .counted counter => some counter
    | _ => none

end Session

/-! ### The dispatcher -/

/-- The commands that are served, and who executes them. -/
structure Dispatcher (σ : Type) where
  library : CommandLibrary
  processor : Processor σ
  /-- How many documents the text of a command's reply shows. -/
  diagnosticLimit : Nat

namespace Dispatcher

variable {σ : Type}

/-- Executes a command. -/
def execute (d : Dispatcher σ) (request : Request) (command : RegisteredCommand)
    (argument : Payload) (s : Session σ) : Checked Payload × Session σ :=
  let (result, processor) := d.processor.execute request command argument s.processor
  (result,
    { s with processor }.record (.executed request command.name command.onSecondary argument))

/-- Sends a query to the processor. -/
def forward (d : Dispatcher σ) (request : Request) (query : Query) (s : Session σ) :
    Checked Reply × Session σ :=
  let (reply, processor) := d.processor.query request query s.processor
  (reply, { s with processor }.record (.queried request query))

/-- Decodes the argument of a command, executes it and writes its result. -/
def run (d : Dispatcher σ) (request : Request) (command : RegisteredCommand) (document : Document)
    (s : Session σ) : Checked Document × Session σ :=
  match command.readArgument document with
  | .error e => (.error e, s)
  | .ok argument =>
    match d.execute request command argument s with
    | (.error e, s) => (.error e, s)
    | (.ok result, s) => (command.writeResult result, s)

/-- The answer to a command document. -/
def handleCommand (d : Dispatcher σ) (request : Request) (document : Document) (s : Session σ) :
    Document × Session σ :=
  match d.library.find document with
  | .error e => (errorDocument e, s.record (.counted (.error e.code)))
  | .ok command =>
    match d.run request command document s with
    | (.ok result, s) => (okDocument result, s.record (.counted (.command command.name .ok)))
    | (.error e, s) =>
      (errorDocument e,
        (s.record (.counted (.command command.name .failed))).record (.counted (.error e.code)))

/-- An answer to a query message. -/
structure QueryAnswer where
  reply : Checked Reply
  /-- The supplied context as it stands when the answer is given. -/
  context : DataContext

/-- The answer to a query message.  The reply to a command lives in the supplied context; the processor
    answers in a context of its own, and so the supplied one is released before it is asked. -/
def handleQuery (d : Dispatcher σ) (request : Request) (query : Query) (context : DataContext)
    (s : Session σ) : QueryAnswer × Session σ :=
  if query.isCommand then
    let (document, s) := d.handleCommand request query.query s
    let reply := (Reply.plain context request.requestId 0 0 (.single document)).withDiagnosticLimit
      d.diagnosticLimit
    (⟨.ok reply, context⟩, s)
  else
    let s := if context.valid then s.record .released else s
    let (reply, s) := d.forward request query s
    (⟨reply, context.releaseOnce⟩, s)

end Dispatcher

end CommandWire
