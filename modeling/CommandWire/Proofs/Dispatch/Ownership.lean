import CommandWire.Dispatch.Dispatcher
import CommandWire.Proofs.Message.Lifecycle

namespace CommandWire

/-!
# Who releases the supplied context

A query message comes with a context for its reply.  If the query is a command, the reply keeps the
context and releases it at the end of its life; if it goes to the processor, which has contexts of
its own, the context is released before.  Either way that happens once.

* `Session.Adds` — the events that a session has beyond those of another one.
* `Dispatcher.run_adds`, `Dispatcher.handleCommand_adds` — running a command executes it at most;
  answering it releases nothing and asks the processor no query.
* `Dispatcher.Forwards`, `Dispatcher.Replies` — how a query that is no command is answered, and one
  that is.
* `Dispatcher.contextAfter` — the supplied context after the reply to a command has gone, or after
  the processor has answered.
* `Dispatcher.handleQuery_context` — both ways, and the one release on either of them.
-/

/-- A release counts only while the memory is there. -/
theorem DataContext.releaseOnce_eq (c : DataContext) :
    c.releaseOnce = ⟨false, c.releases + if c.valid then 1 else 0⟩ := by
  obtain ⟨valid, releases⟩ := c
  cases valid <;> rfl

/-! ### Events -/

/-- What can happen while a command is answered: it is executed, and counters are raised. -/
inductive Event.OfCommand : Event → Prop
  | executed (request : Request) (command : String) (onSecondary : Bool) (argument : Payload) :
      OfCommand (.executed request command onSecondary argument)
  | counted (counter : Counter) : OfCommand (.counted counter)

namespace Session

variable {σ : Type} {P : Event → Prop} {s s' : Session σ}

/-- A session goes on from another one, and all that has happened since has a property. -/
def Adds (P : Event → Prop) (s s' : Session σ) : Prop :=
  ∃ events, s'.events = s.events ++ events ∧ ∀ event ∈ events, P event

/-- A session adds nothing to itself. -/
theorem Adds.refl (P : Event → Prop) (s : Session σ) : Adds P s s :=
  ⟨[], (List.append_nil _).symm, List.forall_mem_nil _⟩

/-- Recording an event with the property keeps to it. -/
theorem Adds.record {event : Event} (h : Adds P s s') (hevent : P event) :
    Adds P s (s'.record event) := by
  obtain ⟨events, hevents, hP⟩ := h
  refine ⟨events ++ [event], ?_, ?_⟩
  · show s'.events ++ [event] = _
    rw [hevents, List.append_assoc]
  · intro e he
    rcases List.mem_append.1 he with he | he
    · exact hP e he
    · rw [List.mem_singleton.1 he]
      exact hevent

end Session

namespace Dispatcher

variable {σ : Type} {d : Dispatcher σ} {request : Request} {query : Query} {context : DataContext}
  {s : Session σ} {reply : Reply}

/-- Executing a command adds its event and nothing else. -/
theorem execute_adds {P : Event → Prop} (d : Dispatcher σ) (request : Request)
    (command : RegisteredCommand) (argument : Payload) (s : Session σ)
    (hP : P (.executed request command.name command.onSecondary argument)) :
    s.Adds P (d.execute request command argument s).2 :=
  -- the state of the processor is no part of what has happened.
  Session.Adds.record (Session.Adds.refl P s) hP

/-- Running a command executes it at most. -/
theorem run_adds {P : Event → Prop} (d : Dispatcher σ) (request : Request)
    (command : RegisteredCommand) (document : Document) (s : Session σ)
    (hP : ∀ argument, P (.executed request command.name command.onSecondary argument)) :
    s.Adds P (d.run request command document s).2 := by
  unfold run
  split
  · exact .refl P s
  · next argument hread =>
    have hexecute := d.execute_adds request command argument s (hP argument)
    split
    · next e s' heq =>
      rw [heq] at hexecute
      exact hexecute
    · next result s' heq =>
      rw [heq] at hexecute
      exact hexecute

/-- Answering a command executes it at most and raises counters. -/
theorem handleCommand_adds (d : Dispatcher σ) (request : Request) (document : Document)
    (s : Session σ) :
    s.Adds Event.OfCommand (d.handleCommand request document s).2 := by
  unfold handleCommand
  split
  · exact (Session.Adds.refl _ s).record (.counted _)
  · next command hfind =>
    have hrun := d.run_adds request command document s fun _ =>
      Event.OfCommand.executed _ _ _ _
    split
    · next result s' heq =>
      rw [heq] at hrun
      exact hrun.record (.counted _)
    · next e s' heq =>
      rw [heq] at hrun
      exact (hrun.record (.counted _)).record (.counted _)

/-! ### Queries for the processor -/

/-- How a query that is no command is answered.  The supplied context is released before the
    processor is asked, if it was there, and what the processor gives is passed on. -/
structure Forwards (d : Dispatcher σ) (request : Request) (query : Query) (context : DataContext)
    (s : Session σ) : Prop where
  reply_eq : (d.handleQuery request query context s).1.reply =
    (d.processor.query request query s.processor).1
  processor_eq : (d.handleQuery request query context s).2.processor =
    (d.processor.query request query s.processor).2
  events_eq : (d.handleQuery request query context s).2.events =
    s.events ++ (if context.valid then [.released] else []) ++ [.queried request query]
  context_eq : (d.handleQuery request query context s).1.context =
    ⟨false, context.releases + if context.valid then 1 else 0⟩

/-- A query that is no command: the context is released, then the processor is asked, and its answer
    is not touched. -/
theorem handleQuery_of_not_isCommand (h : query.isCommand = false) :
    d.handleQuery request query context s =
      (⟨(d.processor.query request query s.processor).1,
        ⟨false, context.releases + if context.valid then 1 else 0⟩⟩,
        ⟨(d.processor.query request query s.processor).2,
          s.events ++ (if context.valid then [.released] else []) ++
            [.queried request query]⟩) := by
  have hforward : d.handleQuery request query context s =
      (⟨(d.forward request query (if context.valid then s.record .released else s)).1,
        context.releaseOnce⟩,
        (d.forward request query (if context.valid then s.record .released else s)).2) := by
    rw [handleQuery, h]
    rfl
  -- the release is an event, and it changes no state of the processor.
  have hreleased : (if context.valid then s.record .released else s) =
      ⟨s.processor, s.events ++ if context.valid then [.released] else []⟩ := by
    cases context.valid <;> simp [Session.record]
  rw [hforward, hreleased, DataContext.releaseOnce_eq]
  rfl

/-- A query that is no command is forwarded. -/
theorem forwards_of_not_isCommand (h : query.isCommand = false) :
    d.Forwards request query context s where
  reply_eq := by rw [handleQuery_of_not_isCommand h]
  processor_eq := by rw [handleQuery_of_not_isCommand h]
  events_eq := by rw [handleQuery_of_not_isCommand h]
  context_eq := by rw [handleQuery_of_not_isCommand h]

/-! ### Commands -/

/-- How a command is answered: with one document, in a reply to the request that lives in the
    supplied context.  The reply releases it when it is told to or else at its end. -/
structure Replies (d : Dispatcher σ) (request : Request) (query : Query) (context : DataContext)
    (s : Session σ) (reply : Reply) : Prop where
  reply_eq : (d.handleQuery request query context s).1.reply = .ok reply
  context_eq : (d.handleQuery request query context s).1.context = context
  session_eq : (d.handleQuery request query context s).2 =
    (d.handleCommand request query.query s).2
  adds : s.Adds Event.OfCommand (d.handleQuery request query context s).2
  reply_context : reply.context = context
  responseTo_eq : reply.responseTo = request.requestId
  flags_eq : reply.flags = .none
  cursorId_eq : reply.cursorId = 0
  startingFrom_eq : reply.startingFrom = 0
  diagnosticLimit_eq : reply.diagnosticLimit = d.diagnosticLimit
  items_eq : reply.source.items = [.ok (d.handleCommand request query.query s).1]
  documents_eq : context.valid = true →
    reply.documents = .ok [.ok (d.handleCommand request query.query s).1]
  context_after : ∀ ops, (reply.after ops).context =
    if .release ∈ ops then ⟨false, context.releases + if context.valid then 1 else 0⟩ else context
  context_live : ∀ {α : Type} (ops : List Operation) (ending : Ending α),
    (reply.live ops ending).context =
      ⟨false, context.releases + if context.valid then 1 else 0⟩

/-- The reply to a command. -/
def commandReply (d : Dispatcher σ) (request : Request) (query : Query) (context : DataContext)
    (s : Session σ) : Reply :=
  (Reply.plain context request.requestId 0 0
    (.single (d.handleCommand request query.query s).1)).withDiagnosticLimit d.diagnosticLimit

/-- A query that is a command is answered in the supplied context, which stays as it is. -/
theorem handleQuery_of_isCommand (h : query.isCommand = true) :
    d.handleQuery request query context s =
      (⟨.ok (d.commandReply request query context s), context⟩,
        (d.handleCommand request query.query s).2) := by
  rw [handleQuery, h]
  rfl

/-- A query that is a command is replied to. -/
theorem replies_of_isCommand (h : query.isCommand = true) :
    d.Replies request query context s (d.commandReply request query context s) where
  reply_eq := by rw [handleQuery_of_isCommand h]
  context_eq := by rw [handleQuery_of_isCommand h]
  session_eq := by rw [handleQuery_of_isCommand h]
  adds := by
    rw [handleQuery_of_isCommand h]
    exact d.handleCommand_adds request query.query s
  reply_context := rfl
  responseTo_eq := rfl
  flags_eq := rfl
  cursorId_eq := rfl
  startingFrom_eq := rfl
  diagnosticLimit_eq := rfl
  items_eq := rfl
  documents_eq hvalid := Reply.documents_of_valid hvalid
  context_after ops := by
    rw [Reply.after_eq]
    split
    · exact Reply.context_release _
    · rfl
  context_live ops ending := Reply.context_live _ ops ending

/-! ### The whole run -/

/-- The supplied context in the end: after the reply that keeps it has been used and has gone, and
    if there is no such reply, after the query has been answered. -/
def contextAfter {α : Type} (d : Dispatcher σ) (request : Request) (query : Query)
    (context : DataContext) (s : Session σ) (ops : List Operation) (ending : Ending α) :
    DataContext :=
  match query.isCommand, (d.handleQuery request query context s).1 with
  | true, ⟨.ok reply, _⟩ => (reply.live ops ending).context
  | _, ⟨_, context⟩ => context

/-- **Supplied contexts.** A query that is no command goes to the processor after the context has
    been released, and what the processor gives is the answer.  A command is answered by one
    document in a reply that keeps the context as it was.  In the end the context has been released
    once more than before if it was there, and no more if it was not. -/
theorem handleQuery_context (d : Dispatcher σ) (request : Request) (query : Query)
    (context : DataContext) (s : Session σ) :
    (query.isCommand = false → d.Forwards request query context s) ∧
    (query.isCommand = true → ∃ reply, d.Replies request query context s reply) ∧
    ∀ {α : Type} (ops : List Operation) (ending : Ending α),
      d.contextAfter request query context s ops ending =
        ⟨false, context.releases + if context.valid then 1 else 0⟩ := by
  refine ⟨forwards_of_not_isCommand, fun h => ⟨_, replies_of_isCommand h⟩, fun ops ending => ?_⟩
  unfold contextAfter
  -- a command's context goes with its reply, any other query's before the answer.
  cases h : query.isCommand with
  | true =>
    rw [handleQuery_of_isCommand h]
    exact (replies_of_isCommand h).context_live ops ending
  | false => exact (forwards_of_not_isCommand h).context_eq

end Dispatcher

end CommandWire
