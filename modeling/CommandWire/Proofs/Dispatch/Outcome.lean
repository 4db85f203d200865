import CommandWire.Dispatch.Dispatcher
import CommandWire.Proofs.Value.Distinct

namespace CommandWire

/-!
# The outcome of a command

A command document fares in one of five ways: no command is found for it, its argument cannot be
decoded, the execution fails, the result cannot be written, or it is answered.  Which way it is
decides how often the processor is called, what it is called with, and the answer.

* `Call`, `Session.calls` — the calls of a processor.
* `Dispatcher.Fares` — the five ways.  There is exactly one for each document.
* `Document.Marked` — a result that is marked as successful.
* `Dispatcher.handleCommand_fares` — dispatch calls the processor and answers as it should.
* `Dispatcher.calls_handleCommand`, `Dispatcher.handleCommand_of_refused` — the same once it is known
  whether the argument is decoded.
* `Dispatcher.handleCommand_outcome` — the same, and what becomes of a result of the wrong type.
-/

/-! ### Calls -/

/-- A call of the processor. -/
structure Call where
  request : Request
  command : String
  onSecondary : Bool
  argument : Payload
deriving DecidableEq

/-- The call that an event records. -/
def Event.call? : Event → Option Call
  | .executed request command onSecondary argument => some ⟨request, command, onSecondary, argument⟩
  | _ => none

/-- The call that executes a command. -/
def RegisteredCommand.call (c : RegisteredCommand) (request : Request) (argument : Payload) :
    Call :=
  ⟨request, c.name, c.onSecondary, argument⟩

namespace Session

variable {σ : Type}

/-- The calls of the processor so far, in order. -/
def calls (s : Session σ) : List Call := s.events.filterMap Event.call?

/-- An event adds its call, if it is one. -/
@[simp] theorem calls_record (s : Session σ) (event : Event) :
    (s.record event).calls = s.calls ++ event.call?.toList := by
  rw [calls, record, List.filterMap_append, calls]
  cases h : event.call? <;> simp [h]

/-- The state of the processor has no part in the calls. -/
@[simp] theorem calls_mk_events (s : Session σ) (processor : σ) :
    calls ⟨processor, s.events⟩ = s.calls := rfl

/-- Recording an event leaves the processor as it is. -/
@[simp] theorem processor_record (s : Session σ) (event : Event) :
    (s.record event).processor = s.processor := rfl

end Session

/-! ### Answers -/

/-- The names and values of the answer to a command that failed. -/
theorem errorDocument_eq (e : ProtocolError) :
    errorDocument e =
      [("ok", .double Binary64.zero), ("errmsg", .string e.text), ("code", .int32 e.code.number),
        ("codeName", .string e.code.name)] := rfl

/-- A reply is a result marked as successful: `ok` is one, in its place if the result has an `ok`
    and at the end else, and nothing else has changed. -/
def Document.Marked (result reply : Document) : Prop :=
  ("ok" ∉ result.keys ∧ reply = result ++ [("ok", .double Binary64.one)]) ∨
    ∃ before old after, result = before ++ ("ok", old) :: after ∧ "ok" ∉ Document.keys before ∧
      reply = before ++ ("ok", .double Binary64.one) :: after

/-- A document that has a name is split by the first value of that name. -/
theorem Document.exists_split {d : Document} {key : String} (h : key ∈ d.keys) :
    ∃ before value after, d = before ++ (key, value) :: after ∧ key ∉ Document.keys before := by
  induction d with
  | nil => cases h
  | cons p rest ih =>
    obtain ⟨k, v⟩ := p
    -- the first pair splits the document, or else one of the others does.
    by_cases hk : k = key
    · subst hk
      exact ⟨[], v, rest, rfl, by simp [Document.keys]⟩
    · have hrest : key ∈ Document.keys rest := by
        rw [keys, List.map_cons, List.mem_cons] at h
        exact h.resolve_left fun hkey => hk hkey.symm
      obtain ⟨before, value, after, rfl, hbefore⟩ := ih hrest
      refine ⟨(k, v) :: before, value, after, rfl, ?_⟩
      rw [keys, List.map_cons, List.mem_cons, not_or]
      exact ⟨fun hkey => hk hkey.symm, hbefore⟩

/-- The answer to a command that succeeded is its result with the mark of success. -/
theorem marked_okDocument (result : Document) : result.Marked (okDocument result) := by
  show result.Marked (result.insert "ok" (.double Binary64.one))
  by_cases h : "ok" ∈ result.keys
  · obtain ⟨before, old, after, rfl, hbefore⟩ := Document.exists_split h
    exact .inr ⟨before, old, after, rfl, hbefore,
      Document.insert_append_cons after old _ hbefore⟩
  · exact .inl ⟨h, Document.insert_of_not_mem _ h⟩

/-- What a command is answered when it has fared in some way. -/
def Answers : Checked Document → Document → Prop
  | .ok result, reply => result.Marked reply
  | .error e, reply =>
    reply = [("ok", .double Binary64.zero), ("errmsg", .string e.text),
      ("code", .int32 e.code.number), ("codeName", .string e.code.name)]

namespace Dispatcher

variable {σ : Type} {d : Dispatcher σ} {request : Request} {document : Document} {state : σ}

/-! ### The five ways -/

/-- How a command document fares with a processor in some state: the calls of the processor, its
    state afterwards, and the result or the error of the first step that failed. -/
inductive Fares (d : Dispatcher σ) (request : Request) (document : Document) (state : σ) :
    List Call → σ → Checked Document → Prop
  | unknown {e : ProtocolError} (hfind : d.library.find document = .error e) :
      Fares d request document state [] state (.error e)
  | undecodable {c : RegisteredCommand} {e : ProtocolError}
      (hfind : d.library.find document = .ok c) (hread : c.readArgument document = .error e) :
      Fares d request document state [] state (.error e)
  | failed {c : RegisteredCommand} {argument : Payload} {e : ProtocolError} {state' : σ}
      (hfind : d.library.find document = .ok c) (hread : c.readArgument document = .ok argument)
      (hexecute : d.processor.execute request c argument state = (.error e, state')) :
      Fares d request document state [c.call request argument] state' (.error e)
  | unwritable {c : RegisteredCommand} {argument result : Payload} {e : ProtocolError} {state' : σ}
      (hfind : d.library.find document = .ok c) (hread : c.readArgument document = .ok argument)
      (hexecute : d.processor.execute request c argument state = (.ok result, state'))
      (hwrite : c.writeResult result = .error e) :
      Fares d request document state [c.call request argument] state' (.error e)
  | answered {c : RegisteredCommand} {argument result : Payload} {written : Document} {state' : σ}
      (hfind : d.library.find document = .ok c) (hread : c.readArgument document = .ok argument)
      (hexecute : d.processor.execute request c argument state = (.ok result, state'))
      (hwrite : c.writeResult result = .ok written) :
      Fares d request document state [c.call request argument] state' (.ok written)

namespace Fares

variable {calls calls₁ calls₂ : List Call} {state₁ state₂ : σ}
  {outcome outcome₁ outcome₂ : Checked Document}

/-- A document fares in one way only. -/
theorem unique (h₁ : d.Fares request document state calls₁ state₁ outcome₁)
    (h₂ : d.Fares request document state calls₂ state₂ outcome₂) :
    calls₁ = calls₂ ∧ state₁ = state₂ ∧ outcome₁ = outcome₂ := by
  cases h₁ <;> cases h₂ <;> simp_all

/-- Once a command is found and its argument decoded, the processor is called with them, once. -/
theorem calls_of_decoded {c : RegisteredCommand} {argument : Payload}
    (h : d.Fares request document state calls state₁ outcome)
    (hfind : d.library.find document = .ok c) (hread : c.readArgument document = .ok argument) :
    calls = [c.call request argument] := by
  cases h <;> simp_all

/-- Otherwise it is not called. -/
theorem calls_of_not_decoded (h : d.Fares request document state calls state₁ outcome)
    (hnone : ∀ c argument, d.library.find document = .ok c →
      c.readArgument document ≠ .ok argument) :
    calls = [] := by
  cases h with
  | unknown hfind => rfl
  | undecodable hfind hread => rfl
  | failed hfind hread => exact absurd hread (hnone _ _ hfind)
  | unwritable hfind hread => exact absurd hread (hnone _ _ hfind)
  | answered hfind hread => exact absurd hread (hnone _ _ hfind)

end Fares

/-- Every document fares in some way. -/
theorem exists_fares (d : Dispatcher σ) (request : Request) (document : Document) (state : σ) :
    ∃ calls state' outcome, d.Fares request document state calls state' outcome := by
  -- each step is taken once the one before it has succeeded.
  cases hfind : d.library.find document with
  | error e => exact ⟨_, _, _, .unknown hfind⟩
  | ok c =>
    cases hread : c.readArgument document with
    | error e => exact ⟨_, _, _, .undecodable hfind hread⟩
    | ok argument =>
      obtain ⟨executed, state', hexecute⟩ :
          ∃ executed state', d.processor.execute request c argument state = (executed, state') :=
        ⟨_, _, rfl⟩
      cases executed with
      | error e => exact ⟨_, _, _, .failed hfind hread hexecute⟩
      | ok result =>
        cases hwrite : c.writeResult result with
        | error e => exact ⟨_, _, _, .unwritable hfind hread hexecute hwrite⟩
        | ok written => exact ⟨_, _, _, .answered hfind hread hexecute hwrite⟩

/-! ### Dispatch -/

/-- **Dispatch.** What dispatch does to the processor and what it answers is what the document's way
    says. -/
theorem handleCommand_fares {s : Session σ} {calls : List Call} {state' : σ}
    {outcome : Checked Document}
    (h : d.Fares request document s.processor calls state' outcome) :
    (d.handleCommand request document s).2.processor = state' ∧
      (d.handleCommand request document s).2.calls = s.calls ++ calls ∧
      Answers outcome (d.handleCommand request document s).1 := by
  unfold handleCommand
  -- counters are events as well, but no calls.
  cases h with
  | unknown hfind =>
    rw [hfind]
    refine ⟨rfl, ?_, errorDocument_eq _⟩
    simp [Event.call?]
  | undecodable hfind hread =>
    rw [hfind]
    simp only [run, hread]
    refine ⟨rfl, ?_, errorDocument_eq _⟩
    simp [Event.call?]
  | failed hfind hread hexecute =>
    rw [hfind]
    simp only [run, hread, execute, hexecute]
    refine ⟨rfl, ?_, errorDocument_eq _⟩
    simp [Event.call?, RegisteredCommand.call]
  | unwritable hfind hread hexecute hwrite =>
    rw [hfind]
    simp only [run, hread, execute, hexecute, hwrite]
    refine ⟨rfl, ?_, errorDocument_eq _⟩
    simp [Event.call?, RegisteredCommand.call]
  | answered hfind hread hexecute hwrite =>
    rw [hfind]
    simp only [run, hread, execute, hexecute, hwrite]
    refine ⟨rfl, ?_, marked_okDocument _⟩
    simp [Event.call?, RegisteredCommand.call]

/-- Once the argument of a command is decoded, the processor is called with it. -/
theorem calls_handleCommand {s : Session σ} {c : RegisteredCommand} {argument : Payload}
    (hfind : d.library.find document = .ok c) (hread : c.readArgument document = .ok argument) :
    (d.handleCommand request document s).2.calls = s.calls ++ [c.call request argument] := by
  obtain ⟨calls, state, outcome, h⟩ := d.exists_fares request document s.processor
  rw [(handleCommand_fares h).2.1, h.calls_of_decoded hfind hread]

/-- A command whose argument is refused leaves the processor alone, and the refusal is the answer. -/
theorem handleCommand_of_refused {s : Session σ} {c : RegisteredCommand} {e : ProtocolError}
    (hfind : d.library.find document = .ok c) (hread : c.readArgument document = .error e) :
    (d.handleCommand request document s).2.processor = s.processor ∧
      (d.handleCommand request document s).2.calls = s.calls ∧
      (d.handleCommand request document s).1 = errorDocument e := by
  have h : d.Fares request document s.processor [] s.processor (.error e) :=
    .undecodable hfind hread
  obtain ⟨hprocessor, hcalls, hanswer⟩ := handleCommand_fares h
  exact ⟨hprocessor, hcalls.trans (List.append_nil _), hanswer⟩

/-- Once a command has been executed, what it writes decides the answer. -/
theorem handleCommand_of_writeResult {s : Session σ} {c : RegisteredCommand}
    {argument result : Payload} {state' : σ} (hfind : d.library.find document = .ok c)
    (hread : c.readArgument document = .ok argument)
    (hexecute : d.processor.execute request c argument s.processor = (.ok result, state')) :
    (d.handleCommand request document s).1 =
      match c.writeResult result with
      | .ok written => okDocument written
      | .error e => errorDocument e := by
  unfold handleCommand
  rw [hfind]
  simp only [run, hread, execute, hexecute]
  cases c.writeResult result <;> rfl

/-- Once a command has been executed, its answer is what it writes. -/
theorem answers_writeResult {s : Session σ} {c : RegisteredCommand} {argument result : Payload}
    {state' : σ} (hfind : d.library.find document = .ok c)
    (hread : c.readArgument document = .ok argument)
    (hexecute : d.processor.execute request c argument s.processor = (.ok result, state')) :
    Answers (c.writeResult result) (d.handleCommand request document s).1 := by
  rw [handleCommand_of_writeResult hfind hread hexecute]
  cases c.writeResult result with
  | error e => exact errorDocument_eq e
  | ok written => exact marked_okDocument written

/-! ### Commands with types -/

section Typed

variable {α β : Type} [Payload.Carries α] [Payload.Carries β] (c : Command α β)

/-- A command without its types packs the argument that the typed one reads. -/
theorem readArgument_registered {argument : α} (h : c.readArgument document = .ok argument) :
    c.registered.readArgument document = .ok (Payload.Carries.pack argument) := by
  simp only [Command.registered, h]
  rfl

/-- A command without its types refuses what the typed one refuses, with its error. -/
theorem readArgument_registered_error {e : ProtocolError} (h : c.readArgument document = .error e) :
    c.registered.readArgument document = .error e := by
  simp only [Command.registered, h]
  rfl

/-- A result of the type that the command writes is written by the command. -/
theorem writeResult_registered {payload : Payload} {result : β}
    (h : Payload.Carries.unpack? payload = some result) :
    c.registered.writeResult payload = c.writeResult result := by
  simp only [Command.registered, h]

/-- A result of another type is refused. -/
theorem writeResult_registered_of_none {payload : Payload}
    (h : (Payload.Carries.unpack? payload : Option β) = none) :
    c.registered.writeResult payload =
      .error (wrongPayload c.name "result" (Payload.Carries.label β)).wrap := by
  simp only [Command.registered, h]

end Typed

/-- **Outcome of a command.** Every command document fares in exactly one way, and dispatch calls
    the processor and answers as that way says: there is one call, with the decoded argument, if a
    command is found and its argument decoded, and there is none else; the answer is the written
    result marked as successful, or else says what the first step that failed has said.  If the
    command has types, the result is written by it when it is of its type; any other result is an
    internal error. -/
theorem handleCommand_outcome (d : Dispatcher σ) (request : Request) (document : Document)
    (s : Session σ) :
    (∃ calls state outcome,
      d.Fares request document s.processor calls state outcome ∧
      (∀ calls' state' outcome', d.Fares request document s.processor calls' state' outcome' →
        calls' = calls ∧ state' = state ∧ outcome' = outcome) ∧
      (∀ c argument, d.library.find document = .ok c → c.readArgument document = .ok argument →
        calls = [c.call request argument]) ∧
      ((∀ c argument, d.library.find document = .ok c → c.readArgument document ≠ .ok argument) →
        calls = []) ∧
      (d.handleCommand request document s).2.processor = state ∧
      (d.handleCommand request document s).2.calls = s.calls ++ calls ∧
      Answers outcome (d.handleCommand request document s).1) ∧
    ∀ (α β : Type) [Payload.Carries α] [Payload.Carries β] (c : Command α β) (argument : α)
      (payload : Payload) (state : σ),
      d.library.find document = .ok c.registered → c.readArgument document = .ok argument →
      d.processor.execute request c.registered (Payload.Carries.pack argument) s.processor =
        (.ok payload, state) →
      (∀ result : β, Payload.Carries.unpack? payload = some result →
        Answers (c.writeResult result) (d.handleCommand request document s).1) ∧
      ((Payload.Carries.unpack? payload : Option β) = none →
        (d.handleCommand request document s).1 =
          [("ok", .double Binary64.zero),
            ("errmsg",
              .string (wrongPayload c.name "result" (Payload.Carries.label β)).wrap.text),
            ("code", .int32 1), ("codeName", .string "InternalError")]) := by
  refine ⟨?_, ?_⟩
  · obtain ⟨calls, state, outcome, h⟩ := d.exists_fares request document s.processor
    obtain ⟨hprocessor, hcalls, hanswer⟩ := handleCommand_fares h
    exact ⟨calls, state, outcome, h, fun _ _ _ h' => h'.unique h, fun _ _ => h.calls_of_decoded,
      h.calls_of_not_decoded, hprocessor, hcalls, hanswer⟩
  · intro α β _ _ c argument payload state hfind hread hexecute
    have hanswer := answers_writeResult hfind (readArgument_registered c hread) hexecute
    refine ⟨?_, ?_⟩
    · intro result hresult
      rw [writeResult_registered c hresult] at hanswer
      exact hanswer
    · intro hnone
      rw [writeResult_registered_of_none c hnone, Answers, ProtocolError.code_wrap] at hanswer
      exact hanswer

end Dispatcher

end CommandWire
