import CommandWire.Address
import CommandWire.Field.Document

namespace CommandWire

/-!
# Members of a replica set

* `Member` — the configuration of one member.
* `Member.validated` — refuses a combination of options that no server accepts.
* `Member.ofDocument`, `Member.toDocument` — the configuration as a document.  Only a valid one is
  read, and only from a document without unknown fields.
-/

/-- The configuration of one member of a replica set. -/
structure Member where
  id : Int32
  host : Address
  arbiterOnly : Bool
  buildIndexes : Bool
  hidden : Bool
  priority : Binary64
  delaySeconds : Int64
  votes : Int32
  tags : List (String × String)
deriving DecidableEq

namespace Member

/-- The member's number. -/
def idField : Field Int32 := ⟨"_id"⟩

/-- The member's address, as text. -/
def hostField : Field String := ⟨"host"⟩

/-- Whether the member holds no data and only votes. -/
def arbiterOnlyField : Field Bool := ⟨"arbiterOnly"⟩

/-- Whether the member builds indexes. -/
def buildIndexesField : Field Bool := ⟨"buildIndexes"⟩

/-- Whether clients do not get to know the member. -/
def hiddenField : Field Bool := ⟨"hidden"⟩

/-- How readily the member becomes primary; zero if it never does. -/
def priorityField : Field Number := ⟨"priority"⟩

/-- How many seconds the member stays behind. -/
def delayField : Field Number := ⟨"slaveDelay"⟩

/-- The number of votes, zero or one. -/
def votesField : Field Number := ⟨"votes"⟩

/-- The member's tags, each a text under its name. -/
def tagsField : Field Document := ⟨"tags"⟩

/-- The names that a member's configuration may hold. -/
def allowedNames : List String :=
  ["_id", "host", "arbiterOnly", "buildIndexes", "hidden", "priority", "slaveDelay", "votes", "tags"]

/-! ### Options -/

/-- A voting member that can be elected. -/
def plain (id : Int32) (host : Address) : Member :=
  ⟨id, host, false, true, false, Binary64.one, 0, 1, []⟩

/-- The member as an arbiter or not. -/
def withArbiterOnly (m : Member) (arbiterOnly : Bool) : Member := { m with arbiterOnly }

/-- The member with or without indexes. -/
def withBuildIndexes (m : Member) (buildIndexes : Bool) : Member := { m with buildIndexes }

/-- The member hidden or not. -/
def withHidden (m : Member) (hidden : Bool) : Member := { m with hidden }

/-- The member with another priority. -/
def withPriority (m : Member) (priority : Binary64) : Member := { m with priority }

/-- The member with another delay. -/
def withDelaySeconds (m : Member) (delaySeconds : Int64) : Member := { m with delaySeconds }

/-- The member with another number of votes. -/
def withVotes (m : Member) (votes : Int32) : Member := { m with votes }

/-- Adds a tag after the others; a name may stand more than once. -/
def withTag (m : Member) (name value : String) : Member :=
  { m with tags := m.tags ++ [(name, value)] }

/-- Whether the member votes. -/
def isVoter (m : Member) : Bool := 0 < m.votes

/-- Whether the member can become primary. -/
def isElectable (m : Member) : Bool := !m.arbiterOnly && Binary64.zero.lt m.priority

/-- Whether two configurations are the same. -/
def same (m n : Member) : Bool :=
  m.id == n.id && m.host == n.host && m.arbiterOnly == n.arbiterOnly &&
    m.buildIndexes == n.buildIndexes && m.hidden == n.hidden && m.priority.same n.priority &&
    m.delaySeconds == n.delaySeconds && m.votes == n.votes && m.tags == n.tags

/-! ### Validity -/

/-- Why a configuration is refused. -/
inductive Fault where
  | priorityOutOfRange (priority : Binary64)
  | votesOutOfRange (votes : Int32)
  | delayOutOfRange (seconds : Int64)
  | priorityNotZero (id : Int32)
  | tagsOnArbiter
deriving DecidableEq

/-- The text of a fault, with the value that is out of range. -/
def Fault.message : Fault → String
  | .priorityOutOfRange priority => "priority field value of " ++ priority.text ++ " is out of range"
  | .votesOutOfRange votes => "votes field value is " ++ toString votes.toInt ++ " but must be 0 or 1"
  | .delayOutOfRange seconds =>
    "slaveDelay field value of " ++ toString seconds.toInt ++ " seconds is out of range"
  | .priorityNotZero id =>
    "priority must be 0 when hidden, delayed or an arbiter (member " ++ toString id.toInt ++ ")"
  | .tagsOnArbiter => "Cannot set tags on arbiters."

/-- The greatest priority: 1000. -/
def maxPriority : Binary64 := ⟨0x408F400000000000⟩

/-- The first rule that a configuration breaks. -/
def fault? (m : Member) : Option Fault :=
  if !(Binary64.zero.le m.priority && m.priority.le maxPriority) then
    some (.priorityOutOfRange m.priority)
  else if m.votes < 0 ∨ 1 < m.votes then some (.votesOutOfRange m.votes)
  else if m.delaySeconds < 0 then some (.delayOutOfRange m.delaySeconds)
  else if !m.priority.isZero && (m.hidden || 0 < m.delaySeconds || m.arbiterOnly) then
    some (.priorityNotZero m.id)
  else if m.arbiterOnly && !m.tags.isEmpty then some .tagsOnArbiter
  else none

/-- The configuration itself, if it breaks no rule. -/
def validated (m : Member) : Checked Member :=
  match m.fault? with
  | some fault => .error (.badValue fault.message)
  | none => .ok m

/-! ### The wire form -/

/-- A tag: its value has to be a text. -/
def readTag (name : String) : Value → Checked (String × String)
  | .string value => .ok (name, value)
  | v => .error (.wrongKind ("tags." ++ name) .string v.kind)

/-- The member that a document describes, if it is valid. -/
def ofDocument (d : Document) : Checked Member := do
  d.onlyHas "MemberConfig" allowedNames
  let hostText ← d.read hostField
  let host ← Address.parse hostText
  let id ← d.read idField
  let arbiterOnly ← d.readFlag arbiterOnlyField false
  let buildIndexes ← d.readFlag buildIndexesField true
  let hidden ← d.readFlag hiddenField false
  let priority ← d.readOr priorityField (.double Binary64.one)
  let delay ← d.readOr delayField (.int32 0)
  let votes ← d.readOr votesField (.int32 1)
  let tagDocument ← d.readOptional tagsField
  let tags ← (tagDocument.getD Document.empty).mapM fun p => readTag p.1 p.2
  let m : Member := {
    id, host, arbiterOnly, buildIndexes, hidden
    priority := priority.toDouble
    delaySeconds := delay.toInt64
    votes := votes.toInt32
    tags }
  m.validated

/-- The document of a member.  Of tags with one name the last one counts. -/
def toDocument (m : Member) : Document :=
  Document.empty
    |>.put idField m.id
    |>.put hostField m.host.text
    |>.put arbiterOnlyField m.arbiterOnly
    |>.put buildIndexesField m.buildIndexes
    |>.put hiddenField m.hidden
    |>.put priorityField (.double m.priority)
    |>.put delayField (.int64 m.delaySeconds)
    |>.put votesField (.int32 m.votes)
    |>.put tagsField (Document.ofPairs (m.tags.map fun t => (t.1, Value.string t.2)))

end Member

end CommandWire
