import CommandWire.Command.CollStats
import CommandWire.Command.Handshake
import CommandWire.Command.IsMaster
import CommandWire.Command.ListIndexes
import CommandWire.Command.ReplSetFresh

namespace CommandWire

/-!
# Arguments and results of any command

Whoever executes commands handles arguments and results without knowing their types.

* `Payload` — a value of any type that some command takes or gives, or of a type that none does.
* `Payload.Carries` — the types whose values a payload carries, with the way in and out.  An error
  names a type by its place in the protocol.
-/

/-- An argument or a result of some command. -/
inductive Payload where
  | nothing
  | indexRequest (argument : ListIndexes.Argument)
  | indexCursor (cursor : Cursor Index)
  | statsRequest (argument : CollStats.Argument)
  | stats (reply : CollStats.Reply)
  | handshake (argument : Handshake.Argument)
  | freshnessRequest (argument : ReplSetFresh.Argument)
  | freshness (reply : ReplSetFresh.Reply)
  | role (reply : IsMaster.Reply)
  /-- A value of a type that no command takes or gives. -/
  | foreign (label : String)
deriving DecidableEq

namespace Payload

/-- The types whose values a payload carries. -/
class Carries (α : Type) where
  /-- What an error calls the type. -/
  label : String
  pack : α → Payload
  unpack? : Payload → Option α

instance : Carries Unit where
  label := "()"
  pack _ := .nothing
  unpack?
    | .nothing => some ()
    | _ => none

instance : Carries ListIndexes.Argument where
  label := "mongowire_protocol::commands::list_indexes::ListIndexesArgument"
  pack := .indexRequest
  unpack?
    | .indexRequest a => some a
    | _ => none

instance : Carries (Cursor Index) where
  label := "mongowire_protocol::commands::list_indexes::ListIndexesResult"
  pack := .indexCursor
  unpack?
    | .indexCursor c => some c
    | _ => none

instance : Carries CollStats.Argument where
  label := "mongowire_protocol::commands::coll_stats::CollStatsArgument"
  pack := .statsRequest
  unpack?
    | .statsRequest a => some a
    | _ => none

instance : Carries CollStats.Reply where
  label := "mongowire_protocol::commands::coll_stats::CollStatsReply"
  pack := .stats
  unpack?
    | .stats r => some r
    | _ => none

instance : Carries Handshake.Argument where
  label := "mongowire_protocol::commands::handshake::HandshakeArgument"
  pack := .handshake
  unpack?
    | .handshake a => some a
    | _ => none

instance : Carries ReplSetFresh.Argument where
  label := "mongowire_protocol::commands::repl_set_fresh::ReplSetFreshArgument"
  pack := .freshnessRequest
  unpack?
    | .freshnessRequest a => some a
    | _ => none

instance : Carries ReplSetFresh.Reply where
  label := "mongowire_protocol::commands::repl_set_fresh::ReplSetFreshReply"
  pack := .freshness
  unpack?
    | .freshness r => some r
    | _ => none

instance : Carries IsMaster.Reply where
  label := "mongowire_protocol::commands::is_master::IsMasterReply"
  pack := .role
  unpack?
    | .role r => some r
    | _ => none

end Payload

end CommandWire
