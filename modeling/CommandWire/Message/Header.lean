import CommandWire.Error
import CommandWire.Octets.Reader

namespace CommandWire

/-!
# Headers of messages

Every message begins with sixteen octets: its length, its number, the number of the message that it
answers, and its operation.

* `OpCode` — the operations, with the tables `OpCode.number` and `OpCode.ofNumber?`.
* `Header.encode`, `Header.decode` — a header as octets; what follows the sixteen is not looked at.
-/

/-- The operation of a message. -/
inductive OpCode where
  | reply
  | update
  | insert
  | query
  | getMore
  | delete
  | killCursors
  | compressed
  | message
deriving DecidableEq, Repr

namespace OpCode

/-- The number of an operation on the wire. -/
def number : OpCode → Int32
  | reply => 1
  | update => 2001
  | insert => 2002
  | query => 2004
  | getMore => 2005
  | delete => 2006
  | killCursors => 2007
  | compressed => 2012
  | message => 2013

/-- The name of an operation in texts. -/
def name : OpCode → String
  | reply => "Reply"
  | update => "Update"
  | insert => "Insert"
  | query => "Query"
  | getMore => "GetMore"
  | delete => "Delete"
  | killCursors => "KillCursors"
  | compressed => "Compressed"
  | message => "Msg"

/-- The operation that has a number.  No other numbers are assigned. -/
def ofNumber? (n : Int32) : Option OpCode :=
  match n.toInt with
  | 1 => some reply
  | 2001 => some update
  | 2002 => some insert
  | 2004 => some query
  | 2005 => some getMore
  | 2006 => some delete
  | 2007 => some killCursors
  | 2012 => some compressed
  | 2013 => some message
  | _ => none

/-- An operation is known by its number. -/
@[simp] theorem ofNumber?_number (op : OpCode) : ofNumber? op.number = some op := by
  cases op <;> decide

end OpCode

/-- The four words in front of every message. -/
structure Header where
  messageLength : Int32
  requestId : Int32
  responseTo : Int32
  opCode : OpCode
deriving DecidableEq, Repr

namespace Header

/-- The length of a header. -/
def size : Nat := 16

/-- The octets of a header: its words in order, each with its low octet first. -/
def encode (h : Header) : List UInt8 :=
  LittleEndian.ofInt32 h.messageLength ++ LittleEndian.ofInt32 h.requestId ++
    LittleEndian.ofInt32 h.responseTo ++ LittleEndian.ofInt32 h.opCode.number

/-- All headers are of one length. -/
@[simp] theorem length_encode (h : Header) : h.encode.length = size := by simp [encode, size]

/-- Why octets do not begin with a header. -/
inductive Fault where
  | tooShort (length : Nat)
  | unknownOpCode (number : Int32)
deriving DecidableEq, Repr

/-- The text of a fault. -/
def Fault.message : Fault → String
  | .tooShort length => "message header too short: " ++ toString length ++ " bytes"
  | .unknownOpCode number => "unknown opcode " ++ toString number.toInt

/-- The four numbers at the front of a message. -/
def words? (bytes : List UInt8) : Option (Int32 × Int32 × Int32 × Int32) := do
  let (messageLength, bytes) ← Octets.takeInt32? bytes
  let (requestId, bytes) ← Octets.takeInt32? bytes
  let (responseTo, bytes) ← Octets.takeInt32? bytes
  let (operation, _) ← Octets.takeInt32? bytes
  some (messageLength, requestId, responseTo, operation)

/-- The header at the front of a message. -/
def ofOctets (bytes : List UInt8) : Except Fault Header :=
  match words? bytes with
  | none => .error (.tooShort bytes.length)
  | some (messageLength, requestId, responseTo, operation) =>
    match OpCode.ofNumber? operation with
    | some opCode => .ok ⟨messageLength, requestId, responseTo, opCode⟩
    | none => .error (.unknownOpCode operation)

/-- The header at the front of a message. -/
def decode (bytes : List UInt8) : Checked Header :=
  (ofOctets bytes).mapError fun fault => .failedToParse fault.message

end Header

end CommandWire
