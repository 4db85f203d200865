import CommandWire.Connection
import Mathlib.Data.List.Induction
import Mathlib.Data.List.Nodup

namespace CommandWire.Connection

/-!
# Runs of a connection

Writes are set, the last one is asked for, and writes are awaited, in any order and any number of
times.  A handle goes on giving its write when another one has become the last.

* `Step`, `Moment`, `Moment.observe`, `Moment.perform` — what can be done with a connection, what that
  gives, and what it makes of the connection and of the state that writes change.
* `run` — the steps that are made from a fresh connection on.
* `writesOf`, `Awaited` — the writes that some steps set, and those among them that they await.
* `Moment.lastWrite_after`, `Moment.done_after` — the last write stays the last until another is set, and
  an outcome stays the same for good.
* `Reached`, `reached_run` — what some steps have made of each write, and of the state.
* `writes_awaited_once` — the last write, the outcome of each write, and its only execution.
-/

variable {ω : Type}

/-! ### Steps -/

/-- What a write gives, and the state that it leaves. -/
abbrev Write (ω : Type) := ω → Checked WriteResult × ω

/-- What can be done with a connection. -/
inductive Step (ω : Type) where
  | set (write : Write ω)
  | last
  | await (handle : Nat)

/-- What a step gives. -/
inductive Seen where
  | handle (handle : Option Nat)
  | outcome (outcome : Option (Checked WriteResult))

/-- A connection, and the state that its writes change. -/
structure Moment (ω : Type) where
  connection : Connection ω
  state : ω

namespace Moment

/-- What a step shows: a handle, or the outcome of a write. -/
def observe (m : Moment ω) : Step ω → Seen
  | .set write => .handle (some (m.connection.setLastWrite write).2)
  | .last => .handle m.connection.lastWrite
  | .await handle => .outcome (m.connection.await handle m.state).1

/-- The connection and the state after a step. -/
def perform (m : Moment ω) : Step ω → Moment ω
  | .set write => ⟨(m.connection.setLastWrite write).1, m.state⟩
  | .last => m
  | .await handle =>
    ⟨(m.connection.await handle m.state).2.1, (m.connection.await handle m.state).2.2⟩

/-- The connection and the state after some steps. -/
def after (m : Moment ω) (steps : List (Step ω)) : Moment ω := steps.foldl perform m

end Moment

/-- A connection that was given no write before some steps were made, and the state after them. -/
def run (id : Int32) (start : ω) (steps : List (Step ω)) : Moment ω :=
  Moment.after ⟨fresh id, start⟩ steps

/-- A run goes on from where it stood. -/
theorem run_append (id : Int32) (start : ω) (steps more : List (Step ω)) :
    run id start (steps ++ more) = (run id start steps).after more := List.foldl_append

/-! ### Writes that are set and awaited -/

section Histories

variable {steps : List (Step ω)} {step : Step ω} {handle other : Nat}

/-- The write that a step sets. -/
def Step.write? : Step ω → Option (Write ω)
  | .set write => some write
  | .last => none
  | .await _ => none

/-- The writes that some steps set. -/
def writesOf (steps : List (Step ω)) : List (Write ω) := steps.filterMap Step.write?

/-- Some steps await a write that they have set before. -/
def Awaited (steps : List (Step ω)) (handle : Nat) : Prop :=
  ∃ before after, steps = before ++ .await handle :: after ∧ handle < (writesOf before).length

/-- The writes of steps after one another are those of each, in order. -/
theorem writesOf_append (steps more : List (Step ω)) :
    writesOf (steps ++ more) = writesOf steps ++ writesOf more := List.filterMap_append

/-- Setting a write adds it. -/
@[simp] theorem writesOf_concat_set (steps : List (Step ω)) (write : Write ω) :
    writesOf (steps ++ [.set write]) = writesOf steps ++ [write] := writesOf_append steps _

/-- Asking for the last write adds none. -/
@[simp] theorem writesOf_concat_last (steps : List (Step ω)) :
    writesOf (steps ++ [.last]) = writesOf steps :=
  (writesOf_append steps _).trans (List.append_nil _)

/-- Awaiting a write adds none. -/
@[simp] theorem writesOf_concat_await (steps : List (Step ω)) (handle : Nat) :
    writesOf (steps ++ [.await handle]) = writesOf steps :=
  (writesOf_append steps _).trans (List.append_nil _)

/-- Each write has the number of those before it, whatever comes later. -/
theorem getElem?_writesOf_set (before : List (Step ω)) (write : Write ω)
    (between : List (Step ω)) :
    (writesOf (before ++ .set write :: between))[(writesOf before).length]? = some write := by
  rw [writesOf_append, List.getElem?_append_right (Nat.le_refl _), Nat.sub_self]
  rfl

/-- Before the first step no write was awaited. -/
theorem not_awaited_nil (handle : Nat) : ¬ Awaited ([] : List (Step ω)) handle := by
  rintro ⟨before, after, h, -⟩
  simp at h

/-- A write was awaited before the last step, or that step awaited it. -/
theorem awaited_concat :
    Awaited (steps ++ [step]) handle ↔
      Awaited steps handle ∨ step = .await handle ∧ handle < (writesOf steps).length := by
  constructor
  · rintro ⟨before, after, hsteps, hhandle⟩
    -- the step that awaits is the new one, or the new one comes after it.
    rcases List.eq_nil_or_concat after with rfl | ⟨rest, new, rfl⟩
    · obtain ⟨rfl, hstep⟩ := List.append_inj' hsteps rfl
      exact .inr ⟨List.singleton_inj.1 hstep, hhandle⟩
    · have hsplit : steps ++ [step] = (before ++ .await handle :: rest) ++ [new] := by
        rw [hsteps, List.concat_eq_append, List.append_assoc, List.cons_append]
      exact .inl ⟨before, rest, (List.append_inj' hsplit rfl).1, hhandle⟩
  · rintro (⟨before, after, rfl, hhandle⟩ | ⟨rfl, hhandle⟩)
    · exact ⟨before, after ++ [step], by rw [List.append_assoc, List.cons_append], hhandle⟩
    · exact ⟨steps, [], rfl, hhandle⟩

/-- Setting a write awaits none. -/
@[simp] theorem awaited_concat_set (write : Write ω) :
    Awaited (steps ++ [.set write]) handle ↔ Awaited steps handle := by
  simp [awaited_concat]

/-- Asking for the last write awaits none. -/
@[simp] theorem awaited_concat_last : Awaited (steps ++ [.last]) handle ↔ Awaited steps handle := by
  simp [awaited_concat]

/-- Awaiting adds the write of its handle, if there is one. -/
theorem awaited_concat_await :
    Awaited (steps ++ [.await handle]) other ↔
      Awaited steps other ∨ handle = other ∧ other < (writesOf steps).length := by
  rw [awaited_concat, Step.await.injEq]

/-- What is awaited was set. -/
theorem lt_of_awaited (h : Awaited steps handle) : handle < (writesOf steps).length := by
  obtain ⟨before, after, rfl, hhandle⟩ := h
  rw [writesOf_append, List.length_append]
  omega

end Histories

/-! ### Awaiting a write -/

namespace Moment

variable {m : Moment ω} {handle : Nat} {write : Write ω} {outcome : Checked WriteResult}

/-- Awaiting a handle without a write does nothing. -/
theorem perform_await_of_none (h : m.connection.writes[handle]? = none) :
    m.perform (.await handle) = m := by
  rw [perform, await, h]

/-- Awaiting a write that is done does nothing. -/
theorem perform_await_of_done (h : m.connection.writes[handle]? = some (.done outcome)) :
    m.perform (.await handle) = m := by
  rw [perform, await, h]

/-- Awaiting a write that is done gives its outcome. -/
theorem observe_await_of_done (h : m.connection.writes[handle]? = some (.done outcome)) :
    m.observe (.await handle) = .outcome (some outcome) := by
  rw [observe, await, h]

/-- Awaiting a write that is pending executes it and keeps its outcome. -/
theorem perform_await_of_pending (h : m.connection.writes[handle]? = some (.pending write)) :
    m.perform (.await handle) =
      ⟨{ m.connection with
          writes := m.connection.writes.set handle (.done (write m.state).1) }, (write m.state).2⟩ := by
  rw [perform, await, h]

/-- Awaiting a write that is pending gives the outcome of its execution. -/
theorem observe_await_of_pending (h : m.connection.writes[handle]? = some (.pending write)) :
    m.observe (.await handle) = .outcome (some (write m.state).1) := by
  rw [observe, await, h]

/-- Who awaits a write leaves its outcome to all who await it later. -/
theorem exists_done_perform_await (h : handle < m.connection.writes.length) :
    ∃ outcome, m.observe (.await handle) = .outcome (some outcome) ∧
      (m.perform (.await handle)).connection.writes[handle]? = some (.done outcome) := by
  have hget : m.connection.writes[handle]? = some m.connection.writes[handle] :=
    List.getElem?_eq_getElem h
  cases hwrite : m.connection.writes[handle] with
  | done outcome =>
    rw [hwrite] at hget
    rw [perform_await_of_done hget]
    exact ⟨outcome, observe_await_of_done hget, hget⟩
  | pending write =>
    rw [hwrite] at hget
    rw [perform_await_of_pending hget]
    exact ⟨(write m.state).1, observe_await_of_pending hget, List.getElem?_set_self h⟩

/-! ### What stays as it is -/

/-- Only a step that awaits executes anything. -/
theorem state_perform {step : Step ω} (h : ∀ handle, step ≠ .await handle) :
    (m.perform step).state = m.state := by
  cases step with
  | set write => rfl
  | last => rfl
  | await handle => exact absurd rfl (h handle)

/-- Awaiting does not change the last write. -/
theorem lastWrite_perform_await (m : Moment ω) (handle : Nat) :
    (m.perform (.await handle)).connection.lastWrite = m.connection.lastWrite := by
  cases hwrite : m.connection.writes[handle]? with
  | none => rw [perform_await_of_none hwrite]
  | some write =>
    cases write with
    | done _ => rw [perform_await_of_done hwrite]
    | pending _ => rw [perform_await_of_pending hwrite]

/-- **Run.** The last write stays the last until another one is set. -/
theorem lastWrite_after {steps : List (Step ω)} (h : writesOf steps = []) (m : Moment ω) :
    (m.after steps).connection.lastWrite = m.connection.lastWrite := by
  induction steps generalizing m with
  | nil => rfl
  | cons step steps ih =>
    cases step with
    | set write => cases h
    | last => exact ih h m
    | await handle =>
      calc ((m.perform (.await handle)).after steps).connection.lastWrite
          = (m.perform (.await handle)).connection.lastWrite := ih h _
        _ = m.connection.lastWrite := lastWrite_perform_await m handle

/-- **Step.** An outcome is replaced by no other one. -/
theorem done_perform (step : Step ω) (h : m.connection.writes[handle]? = some (.done outcome)) :
    (m.perform step).connection.writes[handle]? = some (.done outcome) := by
  cases step with
  | set write =>
    show (m.connection.writes ++ [_])[handle]? = _
    obtain ⟨hlength, -⟩ := List.getElem?_eq_some_iff.1 h
    rw [List.getElem?_append_left hlength, h]
  | last => exact h
  | await other =>
    cases hother : m.connection.writes[other]? with
    | none => rwa [perform_await_of_none hother]
    | some write =>
      cases write with
      | done _ => rwa [perform_await_of_done hother]
      | pending write =>
        -- what is executed was not done yet.
        have hne : other ≠ handle := by
          rintro rfl
          rw [hother] at h
          cases h
        rw [perform_await_of_pending hother]
        show (m.connection.writes.set other _)[handle]? = _
        rw [List.getElem?_set_ne hne, h]

/-- **Run.** The outcome of a write stays the same for good. -/
theorem done_after (steps : List (Step ω))
    (h : m.connection.writes[handle]? = some (.done outcome)) :
    (m.after steps).connection.writes[handle]? = some (.done outcome) := by
  induction steps generalizing m with
  | nil => exact h
  | cons step steps ih => exact ih (done_perform step h)

end Moment

/-! ### What a run makes of its writes -/

section Executions

variable {writes : List (Write ω)} {order : List Nat}

/-- The state after the writes with the given handles, one after the other. -/
def executed (start : ω) (writes : List (Write ω)) (order : List Nat) : ω :=
  (order.filterMap fun handle => writes[handle]?).foldl (fun state write => (write state).2) start

/-- Writes that are set later do not concern the executions of those that are there. -/
theorem executed_append (start : ω) (more : List (Write ω))
    (h : ∀ handle ∈ order, handle < writes.length) :
    executed start (writes ++ more) order = executed start writes order := by
  have hget : ∀ handle ∈ order, (writes ++ more)[handle]? = writes[handle]? := by
    intro handle hhandle
    exact List.getElem?_append_left (h handle hhandle)
  rw [executed, executed, List.filterMap_congr hget]

/-- Writes that are executed one after another: the last of them starts from where the others led.
    -/
theorem executed_concat {handle : Nat} {write : Write ω} (start : ω) (order : List Nat)
    (h : writes[handle]? = some write) :
    executed start writes (order ++ [handle]) = (write (executed start writes order)).2 := by
  have hlast : [handle].filterMap (fun handle => writes[handle]?) = [write] :=
    List.filterMap_cons_some h
  rw [executed, List.filterMap_append, hlast, List.foldl_concat]
  rfl

end Executions

/-- What some steps have led to: the writes are those that were set, the awaited ones are done and the
    others are not, and the state is that after each of the awaited ones, in some order. -/
structure Reached (start : ω) (steps : List (Step ω)) (m : Moment ω) : Prop where
  length : m.connection.writes.length = (writesOf steps).length
  pending : ∀ {handle write}, (writesOf steps)[handle]? = some write → ¬ Awaited steps handle →
    m.connection.writes[handle]? = some (.pending write)
  done : ∀ {handle}, Awaited steps handle →
    ∃ outcome, m.connection.writes[handle]? = some (.done outcome)
  state : ∃ order : List Nat, order.Nodup ∧ (∀ handle, handle ∈ order ↔ Awaited steps handle) ∧
    m.state = executed start (writesOf steps) order

namespace Reached

variable {start : ω} {steps more : List (Step ω)} {m : Moment ω} {handle : Nat}

/-- The invariant holds of a connection that is new. -/
theorem nil (id : Int32) (start : ω) : Reached start [] ⟨fresh id, start⟩ where
  length := rfl
  pending h := nomatch h
  done h := absurd h (not_awaited_nil _)
  state := ⟨[], List.nodup_nil, fun handle => by simp [not_awaited_nil], rfl⟩

/-- Steps that set and await the same writes lead to the same. -/
theorem congr (h : Reached start steps m) (hwrites : writesOf more = writesOf steps)
    (hawaited : ∀ handle, Awaited more handle ↔ Awaited steps handle) : Reached start more m where
  length := by rw [hwrites, h.length]
  pending hwrite hnot := h.pending (hwrites ▸ hwrite) (mt (hawaited _).2 hnot)
  done hold := h.done ((hawaited _).1 hold)
  state := by
    obtain ⟨order, hnodup, hmem, hstate⟩ := h.state
    refine ⟨order, hnodup, fun handle => ?_, ?_⟩
    · rw [hmem, hawaited]
    · rw [hwrites, hstate]

/-- The invariant survives a write. -/
theorem set (h : Reached start steps m) (write : Write ω) :
    Reached start (steps ++ [.set write]) (m.perform (.set write)) where
  length := by
    show (m.connection.writes ++ [_]).length = _
    rw [writesOf_concat_set, List.length_append, List.length_append, h.length]
    rfl
  pending := by
    intro handle other hother hnot
    -- the writes of the connection and those that were set grow by the same one.
    show (m.connection.writes ++ [write].map .pending)[handle]? = _
    rw [writesOf_concat_set, List.getElem?_append] at hother
    rw [List.getElem?_append, List.getElem?_map, h.length]
    split at hother
    case isTrue hold =>
      rw [if_pos hold]
      exact h.pending hother (mt (awaited_concat_set write).2 hnot)
    case isFalse hnew => rw [if_neg hnew, hother, Option.map_some]
  done := by
    intro handle hold
    obtain ⟨outcome, houtcome⟩ := h.done ((awaited_concat_set write).1 hold)
    exact ⟨outcome, Moment.done_perform (.set write) houtcome⟩
  state := by
    obtain ⟨order, hnodup, hmem, hstate⟩ := h.state
    have hlt : ∀ handle ∈ order, handle < (writesOf steps).length := by
      intro handle hhandle
      exact lt_of_awaited ((hmem handle).1 hhandle)
    refine ⟨order, hnodup, fun handle => ?_, ?_⟩
    · rw [hmem, awaited_concat_set]
    · rw [writesOf_concat_set, executed_append start [write] hlt]
      exact hstate

/-- The invariant survives the question for the last write. -/
theorem last (h : Reached start steps m) : Reached start (steps ++ [.last]) (m.perform .last) :=
  h.congr (writesOf_concat_last steps) fun _ => awaited_concat_last

/-- A write that is awaited for the first time is executed. -/
theorem await_pending (h : Reached start steps m) (hlt : handle < (writesOf steps).length)
    (hnew : ¬ Awaited steps handle) :
    Reached start (steps ++ [.await handle]) (m.perform (.await handle)) := by
  have hwrite : (writesOf steps)[handle]? = some (writesOf steps)[handle] :=
    List.getElem?_eq_getElem hlt
  have hperform := Moment.perform_await_of_pending (h.pending hwrite hnew)
  have hawaited : ∀ other,
      Awaited (steps ++ [.await handle]) other ↔ Awaited steps other ∨ handle = other := by
    intro other
    rw [awaited_concat_await, and_iff_left_of_imp]
    rintro rfl
    exact hlt
  refine ⟨?_, ?_, ?_, ?_⟩
  · rw [hperform, writesOf_concat_await, ← h.length]
    exact List.length_set
  · intro other write hother hnot
    rw [writesOf_concat_await] at hother
    rw [hawaited, not_or] at hnot
    rw [hperform]
    show (m.connection.writes.set handle _)[other]? = _
    rw [List.getElem?_set_ne hnot.2]
    exact h.pending hother hnot.1
  · intro other hother
    rcases (hawaited other).1 hother with hold | rfl
    · obtain ⟨outcome, houtcome⟩ := h.done hold
      exact ⟨outcome, Moment.done_perform _ houtcome⟩
    · obtain ⟨outcome, -, houtcome⟩ := Moment.exists_done_perform_await (h.length ▸ hlt)
      exact ⟨outcome, houtcome⟩
  · obtain ⟨order, hnodup, hmem, hstate⟩ := h.state
    refine ⟨order ++ [handle], ?_, fun other => ?_, ?_⟩
    · rw [← List.concat_eq_append]
      exact hnodup.concat (mt (hmem handle).1 hnew)
    · rw [List.mem_append, List.mem_singleton, hmem, hawaited, eq_comm]
    · rw [hperform, writesOf_concat_await, executed_concat start order hwrite, ← hstate]

/-- The invariant survives an await, whatever its handle. -/
theorem await (h : Reached start steps m) (handle : Nat) :
    Reached start (steps ++ [.await handle]) (m.perform (.await handle)) := by
  by_cases hnew : handle < (writesOf steps).length ∧ ¬ Awaited steps handle
  · exact h.await_pending hnew.1 hnew.2
  -- else the write is not there, or its outcome is.
  have hsame : m.perform (.await handle) = m := by
    by_cases hlt : handle < (writesOf steps).length
    · obtain ⟨outcome, houtcome⟩ := h.done (not_not.1 fun hold => hnew ⟨hlt, hold⟩)
      exact Moment.perform_await_of_done houtcome
    · exact Moment.perform_await_of_none (List.getElem?_eq_none (h.length ▸ Nat.le_of_not_lt hlt))
  rw [hsame]
  refine h.congr (writesOf_concat_await steps handle) fun other => ?_
  rw [awaited_concat_await, or_iff_left_of_imp]
  rintro ⟨rfl, hlt⟩
  exact not_not.1 fun hold => hnew ⟨hlt, hold⟩

end Reached

/-- **Run.** Whatever was done since the connection was fresh, each write that was set is pending until
    it is awaited and done from then on. -/
theorem reached_run (id : Int32) (start : ω) (steps : List (Step ω)) :
    Reached start steps (run id start steps) := by
  -- what a step does to a write depends on all steps before it, so the last one is taken off.
  induction steps using List.reverseRecOn with
  | nil => exact .nil id start
  | append_singleton steps step ih =>
    rw [run_append]
    cases step with
    | set write => exact ih.set write
    | last => exact ih.last
    | await handle => exact ih.await handle

/-! ### The last write and the outcomes -/

section Runs

variable {id : Int32} {start : ω} {steps before between : List (Step ω)} {write : Write ω}

/-- A write is given the next handle. -/
theorem observe_set (id : Int32) (start : ω) (steps : List (Step ω)) (write : Write ω) :
    (run id start steps).observe (.set write) = .handle (some (writesOf steps).length) := by
  rw [← (reached_run id start steps).length]
  rfl

/-- Without a write there is no last one. -/
theorem observe_last_of_nil (h : writesOf steps = []) :
    (run id start steps).observe .last = .handle none := by
  show Seen.handle (run id start steps).connection.lastWrite = _
  rw [run, Moment.lastWrite_after h]
  rfl

/-- The last write is the one that was set last. -/
theorem observe_last_of_set (h : writesOf between = []) :
    (run id start (before ++ .set write :: between)).observe .last =
      (run id start before).observe (.set write) := by
  show Seen.handle (run id start (before ++ .set write :: between)).connection.lastWrite = _
  rw [run_append]
  exact congrArg Seen.handle (Moment.lastWrite_after h _)

/-- A write that nobody has awaited is executed by the first one who does, who gets its outcome. -/
theorem observe_await_first {handle : Nat} (hwrite : (writesOf steps)[handle]? = some write)
    (hnew : ¬ Awaited steps handle) :
    (run id start steps).observe (.await handle) =
        .outcome (some (write (run id start steps).state).1) ∧
      ((run id start steps).perform (.await handle)).state =
        (write (run id start steps).state).2 := by
  have hpending := (reached_run id start steps).pending hwrite hnew
  rw [Moment.observe_await_of_pending hpending, Moment.perform_await_of_pending hpending]
  exact ⟨rfl, rfl⟩

/-- Whoever awaits the write later gets the same, and executes nothing. -/
theorem observe_await_again {handle : Nat} (h : handle < (writesOf before).length) :
    let m := run id start (before ++ .await handle :: between)
    m.observe (.await handle) = (run id start before).observe (.await handle) ∧
      m.perform (.await handle) = m := by
  intro m
  have hlength : handle < (run id start before).connection.writes.length := by
    rwa [(reached_run id start before).length]
  obtain ⟨outcome, hobserve, hdone⟩ := Moment.exists_done_perform_await hlength
  have hm : m = ((run id start before).perform (.await handle)).after between :=
    run_append id start before (.await handle :: between)
  have hlater : m.connection.writes[handle]? = some (.done outcome) := by
    rw [hm]
    exact Moment.done_after between hdone
  rw [hobserve, Moment.observe_await_of_done hlater, Moment.perform_await_of_done hlater]
  exact ⟨rfl, rfl⟩

end Runs

/-- **Last writes.** There is no last write until one is set, and then it is the one that was set last.
    A handle that was given for a write gives what this write gives in the state of the moment when it
    is first awaited, however many writes were set since, and the same whenever it is awaited again.
    All that happens to the state is the execution of the awaited writes, each of them once. -/
theorem writes_awaited_once (id : Int32) (start : ω) (steps : List (Step ω)) :
    let m := run id start steps
    (writesOf steps = [] → m.observe .last = .handle none) ∧
    (∀ before write between, steps = before ++ .set write :: between → writesOf between = [] →
      m.observe .last = (run id start before).observe (.set write)) ∧
    (∀ write, m.observe (.set write) = .handle (some (writesOf steps).length)) ∧
    (∀ before write between handle, steps = before ++ .set write :: between →
      (run id start before).observe (.set write) = .handle (some handle) → ¬ Awaited steps handle →
      m.observe (.await handle) = .outcome (some (write m.state).1) ∧
        (m.perform (.await handle)).state = (write m.state).2) ∧
    (∀ before handle between, steps = before ++ .await handle :: between →
      handle < (writesOf before).length →
      m.observe (.await handle) = (run id start before).observe (.await handle) ∧
        m.perform (.await handle) = m) ∧
    (∀ step, (∀ handle, step ≠ .await handle) → (m.perform step).state = m.state) ∧
    ∃ order : List Nat, order.Nodup ∧ (∀ handle, handle ∈ order ↔ Awaited steps handle) ∧
      m.state = executed start (writesOf steps) order := by
  refine ⟨observe_last_of_nil, ?_, observe_set id start steps, ?_, ?_, fun _ => Moment.state_perform,
    (reached_run id start steps).state⟩
  · rintro before write between rfl hbetween
    exact observe_last_of_set hbetween
  · rintro before write between handle rfl hhandle hnew
    -- the handle is the number of the write, by which it is found among all that were set.
    obtain rfl : (writesOf before).length = handle := by
      rw [observe_set, Seen.handle.injEq] at hhandle
      exact Option.some.inj hhandle
    exact observe_await_first (getElem?_writesOf_set before write between) hnew
  · rintro before handle between rfl hhandle
    exact observe_await_again hhandle

/-- A handle gives its own write after another one has become the last. -/
example :
    let write (n : Int64) : Write (List Int64) := fun log => (.ok (.success n), log ++ [n])
    let m := run 7 [] [.set (write 1), .set (write 2), .await 0]
    m.observe .last = .handle (some 1) ∧
      m.observe (.await 0) = .outcome (some (.ok (.success 1))) ∧
      (m.perform (.await 0)).state = [1] :=
  ⟨rfl, rfl, rfl⟩

end CommandWire.Connection
