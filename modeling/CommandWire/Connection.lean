import CommandWire.Error

namespace CommandWire

/-!
# Connections

A connection remembers its last write, which may not have been executed yet.  Everybody who holds a
handle to a write may wait for it; the first one to wait has it executed.

* `WriteResult` — what a write did.
* `SharedWrite` — a write that is still to be executed, or its outcome.
* `Connection` — all writes that a connection was given, and which of them is the last.
* `Connection.setLastWrite`, `Connection.lastWrite` — the last write; neither executes anything.
* `Connection.await` — the outcome of a write.
-/

/-- What an insertion or a deletion did. -/
structure WriteResult where
  /-- How many documents it concerned. -/
  count : Int64
  errorMessage : Option String
deriving DecidableEq, Repr

namespace WriteResult

/-- A write that succeeded. -/
def success (count : Int64) : WriteResult := ⟨count, none⟩

/-- Whether a write succeeded: it left no message. -/
def isOk (r : WriteResult) : Bool := r.errorMessage.isNone

end WriteResult

/-- A write over a state `ω` that its execution changes. -/
inductive SharedWrite (ω : Type) where
  | pending (execute : ω → Checked WriteResult × ω)
  | done (outcome : Checked WriteResult)

/-- A connection, with the writes that it was given in order. -/
structure Connection (ω : Type) where
  id : Int32
  /-- Every write that the connection was given.  A handle to a write is its position. -/
  writes : List (SharedWrite ω)
  /-- The handle to the last write. -/
  lastWrite : Option Nat

namespace Connection

variable {ω : Type}

/-- A connection that was given no write yet. -/
def fresh (id : Int32) : Connection ω := ⟨id, [], none⟩

/-- Remembers a write as the last one, and gives a handle to it. -/
def setLastWrite (c : Connection ω) (execute : ω → Checked WriteResult × ω) :
    Connection ω × Nat :=
  (⟨c.id, c.writes ++ [.pending execute], some c.writes.length⟩, c.writes.length)

/-- The outcome of a write, which is executed unless it was before.  A handle that no write has gives
    nothing. -/
def await (c : Connection ω) (handle : Nat) (state : ω) :
    Option (Checked WriteResult) × Connection ω × ω :=
  match c.writes[handle]? with
  | none => (none, c, state)
  | some (.done outcome) => (some outcome, c, state)
  | some (.pending execute) =>
    let (outcome, state) := execute state
    (some outcome, { c with writes := c.writes.set handle (.done outcome) }, state)

/-- How a connection shows itself to a programmer. -/
def debugText (c : Connection ω) : String :=
  "Connection \x7b connection_id: " ++ toString c.id.toInt ++ ", has_last_write_op: " ++
    (if c.lastWrite.isSome then "true" else "false") ++ " \x7d"

end Connection

end CommandWire
