import CommandWire.Proofs.Dispatch.Result
import Mathlib.Data.List.Basic

namespace CommandWire

/-!
# Errors that are revised on their way out

Between the step that fails and the answer an error may be given another message, or be turned into
the failure to write a result, any number of times and in any order.  Messages reach an error about
the kind of a field and no other one.  The first failure to write puts an end to all changes.

* `ProtocolError.Revision`, `ProtocolError.revised` — one change, and an error after some.
* `ProtocolError.Reworded` — an error that was given messages; one more message keeps this up, by
  `ProtocolError.Reworded.withMessage`, and so all of them do, by `ProtocolError.reworded_revised`.
* `ProtocolError.revised_append_wrap_cons` — changes after the first failure to write do nothing.
* `ProtocolError.WrapOf` — the failure to write for one reason.
* `Document.Tells` — an answer has the number and the name of one code.
* `ProtocolError.revised_wraps_once` — what becomes of an error, and what its answer tells.
-/

/-! ### Answers -/

/-- The answer has the number and the name of the code, and of no other one. -/
structure Document.Tells (reply : Document) (code : ErrorCode) : Prop where
  number_iff : ∀ other : ErrorCode, reply.get? "code" = some (.int32 other.number) ↔ other = code
  name_iff : ∀ other : ErrorCode, reply.get? "codeName" = some (.string other.name) ↔ other = code

/-- The answer to an error tells its code, by number and by name. -/
theorem tells_errorDocument (e : ProtocolError) : (errorDocument e).Tells e.code where
  number_iff other := by
    have hget : (errorDocument e).get? "code" = some (.int32 e.code.number) := rfl
    rw [hget, Option.some.injEq, Value.int32.injEq]
    exact ⟨fun h => ErrorCode.eq_of_number_eq h.symm, fun h => h ▸ rfl⟩
  name_iff other := by
    have hget : (errorDocument e).get? "codeName" = some (.string e.code.name) := rfl
    rw [hget, Option.some.injEq, Value.string.injEq]
    exact ⟨fun h => ErrorCode.eq_of_name_eq h.symm, fun h => h ▸ rfl⟩

namespace ProtocolError

/-! ### Changes -/

/-- What can be done to an error on its way out. -/
inductive Revision where
  | reword (message : String)
  | wrap
deriving DecidableEq

/-- The message that a change brings. -/
def Revision.message? : Revision → Option String
  | reword message => some message
  | wrap => none

/-- The error after a change. -/
def revise (e : ProtocolError) : Revision → ProtocolError
  | .reword message => e.withMessage message
  | .wrap => e.wrap

/-- The error after some changes. -/
def revised (e : ProtocolError) (steps : List Revision) : ProtocolError := steps.foldl revise e

/-- The messages that some changes bring, in their order. -/
def messages (steps : List Revision) : List String := steps.filterMap Revision.message?

variable {e r cause : ProtocolError} {steps : List Revision}

/-! ### Messages -/

/-- An error that has been given some messages: one about the kind of a field has the last of them,
    and every other one is what it was. -/
structure Reworded (e : ProtocolError) (messages : List String) (r : ProtocolError) : Prop where
  of_typeMismatch : ∀ field expected found message, e = .typeMismatch field expected found message →
    r = .typeMismatch field expected found (messages.getLastD message)
  of_other : (∀ field expected found message, e ≠ .typeMismatch field expected found message) → r = e
  code_eq : r.code = e.code
  foundKind?_eq : r.foundKind? = e.foundKind?
  cause?_eq : r.cause? = e.cause?

/-- Only an error about kinds takes another text. -/
theorem withMessage_of_ne (message : String)
    (h : ∀ field expected found text, e ≠ .typeMismatch field expected found text) :
    e.withMessage message = e := by
  cases e with
  | typeMismatch field expected found text => exact absurd rfl (h field expected found text)
  | _ => rfl

/-- **One message.** It takes the place of those before it, or none of them has changed anything. -/
theorem Reworded.withMessage {given : List String} (h : Reworded e given r) (message : String) :
    Reworded e (given ++ [message]) (r.withMessage message) where
  of_typeMismatch field expected found text he := by
    rw [h.of_typeMismatch field expected found text he, List.getLastD_concat]
    rfl
  of_other he := by
    rw [h.of_other he, withMessage_of_ne message he]
  code_eq := (code_withMessage r message).trans h.code_eq
  foundKind?_eq := (foundKind?_withMessage r message).trans h.foundKind?_eq
  cause?_eq := (cause?_withMessage r message).trans h.cause?_eq

/-- Without a step that wraps, an error is reworded with the messages that it was given. -/
theorem reworded_revised (e : ProtocolError) (h : .wrap ∉ steps) :
    Reworded e (messages steps) (e.revised steps) := by
  -- the last message is the one that stays, and so the induction takes the last change off.
  induction steps using List.reverseRecOn with
  | nil => exact ⟨fun _ _ _ _ he => he, fun _ => rfl, rfl, rfl, rfl⟩
  | append_singleton steps step ih =>
    rw [List.mem_append, List.mem_singleton, not_or] at h
    cases step with
    | wrap => exact absurd rfl h.2
    | reword message =>
      rw [messages, List.filterMap_append, revised, List.foldl_append]
      exact (ih h.1).withMessage message

/-! ### Failures to write -/

/-- The failure to write a result for a reason that is no such failure itself. -/
structure WrapOf (cause r : ProtocolError) : Prop where
  eq : r = .unwritable cause
  bare : cause.Bare
  code_eq : r.code = .internalError
  foundKind?_eq : r.foundKind? = none

/-- Wrapping an error that is not wrapped makes it the cause. -/
theorem Bare.wrapOf (h : cause.Bare) : WrapOf cause cause.wrap :=
  ⟨h.wrap, h, code_wrap cause, foundKind?_wrap cause⟩

/-- No change makes a difference to a failure to write. -/
theorem revised_wrap (e : ProtocolError) (steps : List Revision) :
    e.wrap.revised steps = e.wrap := by
  have hstep : ∀ step, e.wrap.revise step = e.wrap := by
    intro step
    cases step with
    | reword message => exact wrap_withMessage e message
    | wrap => exact wrap_wrap e
  exact List.foldl_fixed' hstep steps

/-- **First failure to write.** It is about the error as it is then, and nothing comes after it. -/
theorem revised_append_wrap_cons (e : ProtocolError) (before after : List Revision) :
    e.revised (before ++ .wrap :: after) = (e.revised before).wrap := by
  rw [revised, List.foldl_append, List.foldl_cons]
  exact revised_wrap (e.revised before) after

/-- Without a step that wraps, an error stays unwrapped. -/
theorem bare_revised (he : e.Bare) (h : .wrap ∉ steps) : (e.revised steps).Bare :=
  (reworded_revised e h).cause?_eq.trans he

/-! ### What becomes of an error -/

/-- **Revised errors.** An error that is no failure to write stays what it is while nobody wraps it, but
    for the message of an error about the kind of a field, which is the last one that it was given.
    Once it is wrapped it is the failure to write for what it was then, at one level and for good.
    In either case its answer has the number and the name of its own code and of no other one. -/
theorem revised_wraps_once (he : e.Bare) (steps : List Revision) :
    (.wrap ∉ steps → Reworded e (messages steps) (e.revised steps)) ∧
    (.wrap ∈ steps → ∃ before after, steps = before ++ .wrap :: after ∧ .wrap ∉ before ∧
      Reworded e (messages before) (e.revised before) ∧
      WrapOf (e.revised before) (e.revised steps) ∧
      ∀ more, e.revised (steps ++ more) = e.revised steps) ∧
    (errorDocument (e.revised steps)).Tells (e.revised steps).code := by
  refine ⟨reworded_revised e, fun hwrap => ?_, tells_errorDocument _⟩
  obtain ⟨before, after, rfl, hbefore⟩ := List.eq_append_cons_of_mem hwrap
  refine ⟨before, after, rfl, hbefore, reworded_revised e hbefore, ?_, fun more => ?_⟩
  · rw [revised_append_wrap_cons]
    exact (bare_revised he hbefore).wrapOf
  · rw [List.append_assoc, List.cons_append, revised_append_wrap_cons, revised_append_wrap_cons]

/-- A field of the wrong kind. -/
def sampleMismatch : ProtocolError := wrongKind "scale" .number .string

/-- Two messages, a failure to write, and both again. -/
def sampleRevisions : List Revision := [.reword "a", .reword "b", .wrap, .reword "c", .wrap]

/-- A mismatch of kinds that is reworded, wrapped, reworded and wrapped again. -/
theorem revised_wraps_once_sample :
    sampleMismatch.Bare ∧ .wrap ∈ sampleRevisions ∧
    (∃ before after, sampleRevisions = before ++ .wrap :: after ∧ .wrap ∉ before ∧
      Reworded sampleMismatch (messages before) (sampleMismatch.revised before) ∧
      WrapOf (sampleMismatch.revised before) (sampleMismatch.revised sampleRevisions) ∧
      ∀ more, sampleMismatch.revised (sampleRevisions ++ more) =
        sampleMismatch.revised sampleRevisions) ∧
    (errorDocument (sampleMismatch.revised sampleRevisions)).Tells
      (sampleMismatch.revised sampleRevisions).code := by
  have hbare : sampleMismatch.Bare := rfl
  have hwrap : .wrap ∈ sampleRevisions := by decide
  obtain ⟨-, hwrapped, htells⟩ := revised_wraps_once hbare sampleRevisions
  exact ⟨hbare, hwrap, hwrapped hwrap, htells⟩

/-- The last message before the first failure to write is the one that stays. -/
example : sampleMismatch.revised sampleRevisions =
    .unwritable (.typeMismatch "scale" .number .string "b") := by decide

end ProtocolError

end CommandWire
