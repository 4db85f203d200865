import CommandWire.Proofs.Command.Library
import CommandWire.Proofs.Dispatch.Ownership
import CommandWire.Proofs.Field.Write

namespace CommandWire

/-!
# Counters and replies

Counters are raised at three points of the dispatch: when no command is found, when a command has
been answered and when it has failed.  Over any run of commands they balance with the replies.

* `Counter.reading` — how far the counter with some name and labels has been raised;
  `Counter.commands`, `Counter.errors` and `Counter.total` are those that are kept here.
* `Document.isOk`, `Document.isError` — what a reply says about its command.
* `Dispatcher.Accounts` — the counters that one reply raises.
* `Balanced` — counters that agree with the requests and replies of a run; `Balanced.append` puts
  two runs together.
* `Dispatcher.handleAll_balanced` — the counters of every run do.
-/

/-! ### Readings -/

namespace Counter

/-- How far the counter with some name and labels has been raised. -/
def reading (counters : List Counter) (metric : String) (labels : List (String × String)) : Nat :=
  counters.countP fun c => decide (c.metric = metric ∧ c.labels = labels)

/-- The counter of the commands of some name that had some outcome. -/
def commands (counters : List Counter) (name : String) (outcome : CommandOutcome) : Nat :=
  reading counters "mongowire_commands_total" [("command", name), ("outcome", outcome.label)]

/-- The counter of the errors with some code. -/
def errors (counters : List Counter) (codeName : String) : Nat :=
  reading counters "mongowire_command_errors_total" [("code", codeName)]

/-- The counters of the commands of some names that had some outcome, taken together. -/
def total (counters : List Counter) (names : List String) (outcome : CommandOutcome) : Nat :=
  names.foldr (fun name sum => commands counters name outcome + sum) 0

section

variable {counters : List Counter} {name other codeName : String} {names : List String}
  {outcome outcome' : CommandOutcome} {code : ErrorCode}

/-- Outcomes are told apart by their labels. -/
theorem label_inj : outcome.label = outcome'.label ↔ outcome = outcome' := by
  cases outcome <;> cases outcome' <;> decide

/-- Without counters nothing was counted for a command. -/
@[simp] theorem commands_nil : commands [] name outcome = 0 := rfl

/-- Without counters nothing was counted for a code. -/
@[simp] theorem errors_nil : errors [] codeName = 0 := rfl

/-- Name and outcome tell a counter of commands from every other counter. -/
@[simp] theorem commands_command :
    commands (.command other outcome' :: counters) name outcome =
      commands counters name outcome + if other = name ∧ outcome' = outcome then 1 else 0 := by
  simp only [commands, reading, List.countP_cons, metric, labels, List.cons.injEq, Prod.mk.injEq,
    label_inj, true_and, and_true, decide_eq_true_eq]

/-- An error counts for no command. -/
@[simp] theorem commands_error :
    commands (.error code :: counters) name outcome = commands counters name outcome := by
  simp [commands, reading, metric]

/-- An execution counts for no code. -/
@[simp] theorem errors_command :
    errors (.command name outcome :: counters) codeName = errors counters codeName := by
  simp [errors, reading, metric]

/-- The code tells a counter of errors from every other counter. -/
@[simp] theorem errors_error :
    errors (.error code :: counters) codeName =
      errors counters codeName + if code.name = codeName then 1 else 0 := by
  simp only [errors, reading, List.countP_cons, metric, labels, List.cons.injEq, Prod.mk.injEq,
    true_and, and_true, decide_eq_true_eq]

/-- What was counted for a command adds up. -/
theorem commands_append (counters counters' : List Counter) (name : String)
    (outcome : CommandOutcome) :
    commands (counters ++ counters') name outcome =
      commands counters name outcome + commands counters' name outcome :=
  List.countP_append

/-- What was counted for a code adds up. -/
theorem errors_append (counters counters' : List Counter) (codeName : String) :
    errors (counters ++ counters') codeName = errors counters codeName + errors counters' codeName :=
  List.countP_append

/-- A total is what was counted for the first name and for the others. -/
theorem total_cons (counters : List Counter) (first : String) (rest : List String) :
    total counters (first :: rest) outcome =
      commands counters first outcome + total counters rest outcome := rfl

/-- What was counted for several commands adds up. -/
theorem total_append (counters counters' : List Counter) (names : List String)
    (outcome : CommandOutcome) :
    total (counters ++ counters') names outcome =
      total counters names outcome + total counters' names outcome := by
  induction names with
  | nil => rfl
  | cons first rest ih =>
    rw [total_cons, total_cons, total_cons, commands_append, ih]
    omega

/-- Without counters the total is zero. -/
@[simp] theorem total_nil : total [] names outcome = 0 := by
  induction names with
  | nil => rfl
  | cons first rest ih => rw [total_cons, commands_nil, ih]

/-- A command adds to the total of its outcome as often as its name stands among the names. -/
@[simp] theorem total_command :
    total (.command name outcome' :: counters) names outcome =
      total counters names outcome + if outcome' = outcome then names.count name else 0 := by
  induction names with
  | nil =>
    rw [List.count_nil, ite_self]
    rfl
  | cons first rest ih =>
    rw [total_cons, ih, total_cons, commands_command, List.count_cons]
    by_cases ho : outcome' = outcome
    · simp only [ho, and_true, if_true, beq_iff_eq, eq_comm (a := name)]
      omega
    · simp only [ho, and_false, if_false, Nat.add_zero]

/-- An error changes no total. -/
@[simp] theorem total_error :
    total (.error code :: counters) names outcome = total counters names outcome := by
  simp only [total, commands_error]

end

end Counter

/-! ### Requests and replies -/

namespace CommandLibrary

/-- Whether a document asks for a command of some name. -/
def resolves (l : CommandLibrary) (name : String) (document : Document) : Bool :=
  match l.find document with
  | .ok c => c.name == name
  | .error _ => false

/-- Whether a document asks for no command of the library. -/
def unresolved (l : CommandLibrary) (document : Document) : Bool :=
  match l.find document with
  | .ok _ => false
  | .error _ => true

variable {l : CommandLibrary} {document : Document} {c : RegisteredCommand}

/-- No name stands twice in a library. -/
theorem nodup_names (l : CommandLibrary) : l.names.Nodup := by
  -- the tokens are made from the names, and so they would repeat with them.
  have htokens : ((l.commands.map RegisteredCommand.name).map LowerCase.fold).Nodup := by
    rw [List.map_map]
    exact l.distinct
  exact l.names_perm.nodup_iff.2 (List.Nodup.of_map _ htokens)

/-- The name of a command that is found stands in the library once. -/
theorem count_name_of_find (h : l.find document = .ok c) : l.names.count c.name = 1 := by
  refine List.count_eq_one_of_mem l.nodup_names ?_
  exact l.names_perm.mem_iff.2 (List.mem_map_of_mem (mem_commands_of_find h))

end CommandLibrary

namespace Document

/-- A reply to a command that was answered. -/
def isOk (reply : Document) : Bool := decide (reply.get? "ok" = some (.double Binary64.one))

/-- A reply to a command that failed. -/
def isError (reply : Document) : Bool := decide (reply.get? "ok" = some (.double Binary64.zero))

/-- A reply to a command that failed with an error of some code. -/
def isErrorOf (codeName : String) (reply : Document) : Bool :=
  reply.isError && decide (reply.get? "codeName" = some (.string codeName))

variable {e : ProtocolError} {codeName : String} {result : Document}

/-- The answer to a command that failed does not say that it succeeded. -/
@[simp] theorem isOk_errorDocument : (errorDocument e).isOk = false := by
  rw [isOk, decide_eq_false_iff_not]
  show ¬ some (Value.double Binary64.zero) = some (.double Binary64.one)
  decide

/-- The answer to a command that failed says so. -/
@[simp] theorem isError_errorDocument : (errorDocument e).isError = true := by
  rw [isError, decide_eq_true_eq]
  rfl

/-- The answer to a command that failed names the code of its error and no other. -/
@[simp] theorem isErrorOf_errorDocument :
    (errorDocument e).isErrorOf codeName = decide (e.code.name = codeName) := by
  have hget : (errorDocument e).get? "codeName" = some (.string e.code.name) := rfl
  simp only [isErrorOf, isError_errorDocument, hget, Option.some.injEq, Value.string.injEq,
    Bool.true_and]

/-- The answer to a command that succeeded holds 1 under `ok`, whatever its result. -/
theorem get?_okDocument : (okDocument result).get? "ok" = some (.double Binary64.one) :=
  get?_put_self result okField Binary64.one

/-- The answer to a command that succeeded says so. -/
@[simp] theorem isOk_okDocument : (okDocument result).isOk = true := by
  rw [isOk, decide_eq_true_eq, get?_okDocument]

/-- The answer to a command that succeeded does not say that it failed. -/
@[simp] theorem isError_okDocument : (okDocument result).isError = false := by
  rw [isError, decide_eq_false_iff_not, get?_okDocument]
  decide

/-- The answer to a command that succeeded names no code. -/
@[simp] theorem isErrorOf_okDocument : (okDocument result).isErrorOf codeName = false := by
  rw [isErrorOf, isError_okDocument, Bool.false_and]

end Document

/-! ### Balance -/

/-- Counters that agree with the requests and the replies of a run: for each name the commands that
    were answered and those that failed are the requests for it, for each code the errors are the
    replies with it, all commands that failed and the requests that found none are the replies
    that say so, and all commands that were answered are the replies that say that. -/
structure Balanced (l : CommandLibrary) (documents replies : List Document)
    (counters : List Counter) : Prop where
  length_eq : replies.length = documents.length
  commands_eq : ∀ name, Counter.commands counters name .ok + Counter.commands counters name .failed =
    documents.countP (l.resolves name)
  errors_eq : ∀ codeName,
    Counter.errors counters codeName = replies.countP (Document.isErrorOf codeName)
  failed_eq : Counter.total counters l.names .failed + documents.countP l.unresolved =
    replies.countP Document.isError
  ok_eq : Counter.total counters l.names .ok = replies.countP Document.isOk

namespace Balanced

variable {l : CommandLibrary} {documents documents' replies replies' : List Document}
  {counters counters' : List Counter}

/-- Before the first request the counters are balanced. -/
theorem nil (l : CommandLibrary) : Balanced l [] [] [] where
  length_eq := rfl
  commands_eq _ := rfl
  errors_eq _ := rfl
  failed_eq := Counter.total_nil
  ok_eq := Counter.total_nil

/-- One run after another is balanced if both are. -/
theorem append (h : Balanced l documents replies counters)
    (h' : Balanced l documents' replies' counters') :
    Balanced l (documents ++ documents') (replies ++ replies') (counters ++ counters') where
  length_eq := by rw [List.length_append, List.length_append, h.length_eq, h'.length_eq]
  commands_eq name := by
    have hname := h.commands_eq name
    have hname' := h'.commands_eq name
    rw [Counter.commands_append, Counter.commands_append, List.countP_append]
    omega
  errors_eq codeName := by
    rw [Counter.errors_append, List.countP_append, h.errors_eq, h'.errors_eq]
  failed_eq := by
    have hfailed := h.failed_eq
    have hfailed' := h'.failed_eq
    rw [Counter.total_append, List.countP_append, List.countP_append]
    omega
  ok_eq := by rw [Counter.total_append, List.countP_append, h.ok_eq, h'.ok_eq]

end Balanced

/-! ### Counters during dispatch -/

/-- The counter that an event raises. -/
def Event.counter? : Event → Option Counter
  | .counted counter => some counter
  | _ => none

namespace Session

variable {σ : Type} {s s' : Session σ}

/-- The counters are those of the events, in order. -/
theorem counters_eq (s : Session σ) : s.counters = s.events.filterMap Event.counter? := rfl

/-- An event adds its counter, if it has one. -/
@[simp] theorem counters_record (s : Session σ) (event : Event) :
    (s.record event).counters = s.counters ++ event.counter?.toList := by
  rw [counters_eq, counters_eq, record, List.filterMap_append]
  cases event <;> rfl

/-- The counters stay as they are while nothing is counted. -/
theorem Adds.counters_eq (h : s.Adds (fun event => event.counter? = none) s') :
    s'.counters = s.counters := by
  obtain ⟨events, hevents, hnone⟩ := h
  rw [Session.counters_eq, Session.counters_eq, hevents, List.filterMap_append,
    List.filterMap_eq_nil_iff.2 hnone, List.append_nil]

end Session

namespace Dispatcher

variable {σ : Type}

/-- The counters that one reply raises. -/
inductive Accounts (l : CommandLibrary) (document : Document) : Document → List Counter → Prop
  | unknown {e : ProtocolError} (hfind : l.find document = .error e) :
      Accounts l document (errorDocument e) [.error e.code]
  | failed {c : RegisteredCommand} (e : ProtocolError) (hfind : l.find document = .ok c) :
      Accounts l document (errorDocument e) [.command c.name .failed, .error e.code]
  | answered {c : RegisteredCommand} (result : Document) (hfind : l.find document = .ok c) :
      Accounts l document (okDocument result) [.command c.name .ok]

/-- **Counters of a reply.** A reply raises the counters that go with it, and no others. -/
theorem handleCommand_accounts (d : Dispatcher σ) (request : Request) (document : Document)
    (s : Session σ) :
    ∃ counters,
      (d.handleCommand request document s).2.counters = s.counters ++ counters ∧
        Accounts d.library document (d.handleCommand request document s).1 counters := by
  unfold handleCommand
  cases hfind : d.library.find document with
  | error e => exact ⟨_, Session.counters_record s _, .unknown hfind⟩
  | ok command =>
    -- no counter is raised while the command runs.
    have hrun := (d.run_adds request command document s fun _ => rfl).counters_eq
    dsimp only
    cases heq : d.run request command document s with
    | mk outcome s' =>
      rw [heq] at hrun
      dsimp only at hrun
      cases outcome with
      | ok result =>
        refine ⟨_, ?_, .answered result hfind⟩
        rw [Session.counters_record, hrun]
        rfl
      | error e =>
        refine ⟨_, ?_, .failed e hfind⟩
        rw [Session.counters_record, Session.counters_record, hrun, List.append_assoc]
        rfl

/-- **One step.** One request, its reply and the counters of the reply are balanced. -/
theorem Accounts.balanced {l : CommandLibrary} {document reply : Document}
    {counters : List Counter} (h : Accounts l document reply counters) :
    Balanced l [document] [reply] counters := by
  cases h with
  | unknown hfind =>
    refine ⟨rfl, fun name => ?_, fun codeName => ?_, ?_, ?_⟩
    · simp [CommandLibrary.resolves, hfind]
    · simp [List.countP_cons]
    · simp [CommandLibrary.unresolved, hfind]
    · simp
  | failed e hfind =>
    -- the name of the command stands in the library once, and so the total grows by one.
    have hcount := CommandLibrary.count_name_of_find hfind
    refine ⟨rfl, fun name => ?_, fun codeName => ?_, ?_, ?_⟩
    · simp [CommandLibrary.resolves, hfind, List.countP_cons]
    · simp [List.countP_cons]
    · simp [CommandLibrary.unresolved, hfind, hcount]
    · simp
  | answered result hfind =>
    have hcount := CommandLibrary.count_name_of_find hfind
    refine ⟨rfl, fun name => ?_, fun codeName => ?_, ?_, ?_⟩
    · simp [CommandLibrary.resolves, hfind, List.countP_cons]
    · simp
    · simp [CommandLibrary.unresolved, hfind]
    · simp [hcount]

/-! ### Runs -/

/-- Answers command documents one after another. -/
def handleAll (d : Dispatcher σ) :
    List (Request × Document) → Session σ → List Document × Session σ
  | [], s => ([], s)
  | (request, document) :: rest, s =>
    let (reply, s) := d.handleCommand request document s
    let (replies, s) := d.handleAll rest s
    (reply :: replies, s)

/-- **Balance.** For every library and every processor, the counters that a run of commands raises
    agree with its requests and replies. -/
theorem handleAll_balanced (d : Dispatcher σ) (requests : List (Request × Document))
    (s : Session σ) :
    ∃ counters,
      (d.handleAll requests s).2.counters = s.counters ++ counters ∧
        Balanced d.library (requests.map Prod.snd) (d.handleAll requests s).1 counters := by
  -- each reply raises its own counters after those of the replies before it.
  induction requests generalizing s with
  | nil => exact ⟨[], (List.append_nil _).symm, .nil d.library⟩
  | cons first rest ih =>
    obtain ⟨request, document⟩ := first
    obtain ⟨counters, hfirst, haccounts⟩ := d.handleCommand_accounts request document s
    obtain ⟨counters', hrest, hbalanced⟩ := ih (d.handleCommand request document s).2
    refine ⟨counters ++ counters', ?_, haccounts.balanced.append hbalanced⟩
    rw [← List.append_assoc, ← hfirst]
    exact hrest

end Dispatcher

end CommandWire
