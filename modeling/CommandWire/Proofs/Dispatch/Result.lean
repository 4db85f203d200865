import CommandWire.Proofs.Cursor
import CommandWire.Proofs.Dispatch.Outcome

namespace CommandWire

/-!
# Results that cannot be written

Whatever a command is handed as its result, it gives a document or says that the result cannot be
written, and why.  The reason is found deep inside, in an index of a batch or a figure of a
collection, or at once, when the result is of another type; it is wrapped once on its way out.

* `ProtocolError.Bare`, `ProtocolError.WrappedOnce` — a reason, and the failure to write that it is
  the reason for.
* `Cursor.errorsIn_toDocument`, `CollStats.Reply.errorsIn_figures` — the reasons inside are bare.
* `Command.WritesOnce` — what a command makes of a result of any type.
* `CommandLibrary.writesOnce_standard` — every command of the standard library does so.
-/

/-! ### Reasons -/

namespace ProtocolError

/-- An error that is no failure to write. -/
def Bare (e : ProtocolError) : Prop := e.cause? = none

/-- The failure to write a result, for a reason that is no such failure itself. -/
def WrappedOnce (e : ProtocolError) : Prop := ∃ cause, e = .unwritable cause ∧ cause.Bare

/-- An error that is not wrapped is wrapped around itself. -/
theorem Bare.wrap {e : ProtocolError} (h : e.Bare) : e.wrap = .unwritable e := by
  cases e with
  | unwritable cause => cases h
  | _ => rfl

end ProtocolError

open ProtocolError

/-- Errors that are not wrapped are wrapped once. -/
theorem errorsIn_wrapped {α : Type} {x : Checked α} (h : ErrorsIn Bare x) :
    ErrorsIn WrappedOnce (Checked.wrapped x) :=
  h.mapError fun e he => ⟨e, he.wrap, he⟩

/-! ### Indexes -/

/-- An index is refused with an error that is not wrapped. -/
theorem Index.errorsIn_toValue (x : Index) : ErrorsIn Bare x.toValue := by
  unfold toValue
  split
  · exact errorsIn_error rfl
  · exact errorsIn_ok _

/-- `listIndexes` wraps its errors once. -/
theorem ListIndexes.errorsIn_writeResult (cursor : Cursor Index) :
    ErrorsIn WrappedOnce (writeResult cursor) :=
  (errorsIn_wrapped (Cursor.errorsIn_toDocument Index.errorsIn_toValue cursor)).bind
    fun _ => errorsIn_ok _

/-! ### Figures -/

/-- A number is refused with an error that is not wrapped. -/
theorem Number.errorsIn_ofNat (n : Nat) : ErrorsIn Bare (ofNat n) := by
  unfold ofNat
  split
  · exact errorsIn_ok _
  · split
    · exact errorsIn_ok _
    · exact errorsIn_error rfl

namespace CollStats.Reply

/-- A fault is turned into an error that is not wrapped. -/
theorem errorsIn_orBadValue {α : Type} (x : Except Fault α) : ErrorsIn Bare (orBadValue x) := by
  cases x with
  | error fault => exact errorsIn_error rfl
  | ok a => exact errorsIn_ok a

/-- A count that may be missing is refused with an error that is not wrapped. -/
theorem errorsIn_optionalCount (count : Option UInt64) : ErrorsIn Bare (optionalCount count) := by
  cases count with
  | none => exact errorsIn_ok none
  | some n => exact (Number.errorsIn_ofNat n.toNat).map some

/-- The sizes of the indexes are refused with an error that is not wrapped. -/
theorem errorsIn_indexSizesDocument (r : Reply) : ErrorsIn Bare r.indexSizesDocument := by
  rw [indexSizesDocument]
  exact errorsIn_foldlM (fun _ p => (Number.errorsIn_ofNat p.2.toNat).map _) r.indexSizes _

/-- **Figures.** A figure that does not fit is refused with an error that has not been wrapped. -/
theorem errorsIn_figures (r : Reply) : ErrorsIn Bare r.figures := by
  refine r.errorsIn_indexSizesDocument.bind fun indexSizes => ?_
  refine (errorsIn_orBadValue r.totalIndexSize).bind fun totalIndexSize => ?_
  refine (Number.errorsIn_ofNat r.indexSizes.length).bind fun indexCount => ?_
  refine (Number.errorsIn_ofNat r.count.toNat).bind fun count => ?_
  refine (Number.errorsIn_ofNat r.size.toNat).bind fun size => ?_
  refine (errorsIn_orBadValue r.averageSize).bind fun averageSize => ?_
  refine (errorsIn_optionalCount averageSize).bind fun average => ?_
  refine (Number.errorsIn_ofNat r.storageSize.toNat).bind fun storageSize => ?_
  refine (Number.errorsIn_ofNat totalIndexSize.toNat).bind fun total => ?_
  refine (errorsIn_optionalCount r.maxCount).bind fun max => ?_
  exact errorsIn_ok _

end CollStats.Reply

/-! ### Commands -/

section Typed

variable {α β : Type} [Payload.Carries α] [Payload.Carries β]

/-- What a command makes of a result: it writes one of its own type, or fails once, and refuses
    every other one. -/
structure Command.WritesOnce (c : Command α β) : Prop where
  of_own : ∀ payload result, Payload.Carries.unpack? payload = some result →
    c.registered.writeResult payload = c.writeResult result
  of_other : ∀ payload, (Payload.Carries.unpack? payload : Option β) = none →
    c.registered.writeResult payload =
      .error (.unwritable (wrongPayload c.name "result" (Payload.Carries.label β)))
  errors : ∀ payload, ErrorsIn WrappedOnce (c.registered.writeResult payload)

/-- A command whose own failures are wrapped once writes once: that a result is of another type is
    no failure to write before it is wrapped. -/
theorem Command.writesOnce_of_errorsIn {c : Command α β}
    (h : ∀ result, ErrorsIn WrappedOnce (c.writeResult result)) : c.WritesOnce where
  of_own _ _ := Dispatcher.writeResult_registered c
  of_other _ := Dispatcher.writeResult_registered_of_none c
  errors payload := by
    cases hresult : (Payload.Carries.unpack? payload : Option β) with
    | none =>
      rw [Dispatcher.writeResult_registered_of_none c hresult]
      exact errorsIn_error ⟨_, rfl, rfl⟩
    | some result =>
      rw [Dispatcher.writeResult_registered c hresult]
      exact h result

/-- A document, or the failure to write one, wrapped once. -/
theorem Command.WritesOnce.ok_or_error {c : Command α β} (h : c.WritesOnce) (payload : Payload) :
    (∃ d, c.registered.writeResult payload = .ok d) ∨
      ∃ cause, c.registered.writeResult payload = .error (.unwritable cause) ∧
        cause.cause? = none := by
  cases hwrite : c.registered.writeResult payload with
  | ok d => exact .inl ⟨d, rfl⟩
  | error e =>
    obtain ⟨cause, rfl, hcause⟩ := h.errors payload e hwrite
    exact .inr ⟨cause, rfl, hcause⟩

end Typed

namespace CommandLibrary

/-- `listIndexes` writes once: an index that is refused makes an unwritable result. -/
theorem writesOnce_listIndexes : ListIndexes.command.WritesOnce :=
  Command.writesOnce_of_errorsIn ListIndexes.errorsIn_writeResult

/-- `collStats` writes once: a figure that is refused makes an unwritable result. -/
theorem writesOnce_collStats : CollStats.command.WritesOnce :=
  Command.writesOnce_of_errorsIn fun r => errorsIn_wrapped r.errorsIn_figures

/-- The other commands write every result of their own. -/
theorem writesOnce_handshake : Handshake.command.WritesOnce :=
  Command.writesOnce_of_errorsIn fun _ => errorsIn_ok _

/-- `replSetFresh` writes once: its own results never fail. -/
theorem writesOnce_replSetFresh : ReplSetFresh.command.WritesOnce :=
  Command.writesOnce_of_errorsIn fun _ => errorsIn_ok _

/-- `ping` writes once: its own results never fail. -/
theorem writesOnce_ping : Ping.command.WritesOnce :=
  Command.writesOnce_of_errorsIn fun _ => errorsIn_ok _

/-- `isMaster` writes once: its own results never fail. -/
theorem writesOnce_isMaster : IsMaster.command.WritesOnce :=
  Command.writesOnce_of_errorsIn fun _ => errorsIn_ok _

/-- **One shape of failure.** Every command of the standard library writes a result of its own type
    as it does with types, refuses a result of any other type, and in either case gives a document
    or the failure to write one, for a reason that is no such failure itself. -/
theorem writesOnce_standard :
    (ListIndexes.command.WritesOnce ∧ CollStats.command.WritesOnce ∧
      Handshake.command.WritesOnce ∧ ReplSetFresh.command.WritesOnce ∧
      Ping.command.WritesOnce ∧ IsMaster.command.WritesOnce) ∧
    ∀ c ∈ standardCommands, ∀ payload,
      (∃ d, c.writeResult payload = .ok d) ∨
        ∃ cause, c.writeResult payload = .error (.unwritable cause) ∧ cause.cause? = none := by
  refine ⟨⟨writesOnce_listIndexes, writesOnce_collStats, writesOnce_handshake,
    writesOnce_replSetFresh, writesOnce_ping, writesOnce_isMaster⟩, ?_⟩
  simp only [standardCommands, List.forall_mem_cons]
  exact ⟨writesOnce_listIndexes.ok_or_error, writesOnce_collStats.ok_or_error,
    writesOnce_handshake.ok_or_error, writesOnce_replSetFresh.ok_or_error,
    writesOnce_ping.ok_or_error, writesOnce_isMaster.ok_or_error, List.forall_mem_nil _⟩

end CommandLibrary

end CommandWire
