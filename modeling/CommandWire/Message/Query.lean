import CommandWire.Bson.Decode
import CommandWire.Namespace

namespace CommandWire

/-!
# Queries

The body of a query message: flags, the namespace up to a zero octet, how many documents to skip and
to return, the query and, if anything is left, a selector of the fields to return.

* `Query` — a query.  It is a command when its collection is `$cmd`.
* `Query.decode` — the query of a body.
* `Query.encode?` — the body of a query, if its documents can be written.
* `Query.Fault` — what can be wrong with a body.
-/

/-- A query message: what is asked for, where, and how many documents are wanted. -/
structure Query where
  flags : Int32
  ns : Namespace
  skip : Int32
  count : Int32
  query : Document
  selector : Option Document
deriving DecidableEq

namespace Query

/-- The collection that stands for commands. -/
def commandCollection : String := "$cmd"

/-- Whether a query is a command: it goes to the collection that commands go to. -/
def isCommand (q : Query) : Bool := q.ns.collection == some commandCollection

/-- The namespace as it was sent. -/
def fullName (q : Query) : String := q.ns.text

/-! ### Faults -/

/-- The parts of a body. -/
inductive Part where
  | flags
  | fullName
  | skip
  | count
  | query
  | selector
deriving DecidableEq, Repr

/-- How a part is called in a text. -/
def Part.label : Part → String
  | .flags => "flags"
  | .fullName => "fullCollectionName"
  | .skip => "numberToSkip"
  | .count => "numberToReturn"
  | .query => "query"
  | .selector => "returnFieldsSelector"

/-- What can be wrong with a body, its namespace apart. -/
inductive Fault where
  /-- The body ends before a part does. -/
  | truncated (part : Part)
  | nameNotText (fault : Utf8.Fault)
  | negativeLength (part : Part)
  /-- The octets of a part are no document. -/
  | malformed (part : Part)
deriving DecidableEq, Repr

/-- The text of a fault, which names the part. -/
def Fault.message : Fault → String
  | .truncated part => "OP_QUERY truncated while reading " ++ part.label
  | .nameNotText fault => "fullCollectionName is not UTF-8: " ++ fault.message
  | .negativeLength part => "negative length for " ++ part.label
  | .malformed part => "invalid " ++ part.label ++ " document: " ++ Bson.malformed

/-- The error that refuses the message. -/
def Fault.toError (fault : Fault) : ProtocolError := .failedToParse fault.message

/-! ### Reading -/

/-- A number in front. -/
def takeNumber (part : Part) (bytes : List UInt8) : Checked (Int32 × List UInt8) :=
  match Octets.takeInt32? bytes with
  | some found => .ok found
  | none => .error (Fault.truncated part).toError

/-- The namespace in front, up to the first zero octet. -/
def takeFullName (bytes : List UInt8) : Checked (String × List UInt8) :=
  match Octets.takeUntilNul? bytes with
  | none => .error (Fault.truncated .fullName).toError
  | some (content, rest) =>
    match Utf8.decode content with
    | .ok name => .ok (name, rest)
    | .error fault => .error (Fault.nameNotText fault).toError

/-- The document in front.  It says itself how long it is. -/
def takeDocument (part : Part) (bytes : List UInt8) : Checked (Document × List UInt8) :=
  match Octets.takeInt32? bytes with
  | none => .error (Fault.truncated part).toError
  | some (length, _) =>
    if length < 0 then .error (Fault.negativeLength part).toError
    else if length < 5 then .error (Fault.truncated part).toError
    else
      match Octets.take? length.toInt.toNat bytes with
      | none => .error (Fault.truncated part).toError
      | some (front, rest) =>
        match Bson.decode front with
        | some d => .ok (d, rest)
        | none => .error (Fault.malformed part).toError

/-- The selector, if anything is left. -/
def readSelector (bytes : List UInt8) : Checked (Option Document) :=
  if bytes.isEmpty then .ok none
  else (takeDocument .selector bytes).map fun found => some found.1

/-- The query of a body. -/
def decode (body : List UInt8) : Checked Query := do
  let (flags, afterFlags) ← takeNumber .flags body
  let (fullName, afterName) ← takeFullName afterFlags
  let ns ← Namespace.parse fullName
  let (skip, afterSkip) ← takeNumber .skip afterName
  let (count, afterCount) ← takeNumber .count afterSkip
  let (query, afterQuery) ← takeDocument .query afterCount
  let selector ← readSelector afterQuery
  return ⟨flags, ns, skip, count, query, selector⟩

/-! ### Writing -/

/-- The octets of an optional document: none when it is absent. -/
def selectorOctets? : Option Document → Option (List UInt8)
  | none => some []
  | some d => Bson.encode d

/-- The body of a query. -/
def encode? (q : Query) : Option (List UInt8) := do
  let name ← Bson.nameOctets? q.fullName
  let query ← Bson.encode q.query
  let selector ← selectorOctets? q.selector
  some (LittleEndian.ofInt32 q.flags ++ name ++ LittleEndian.ofInt32 q.skip ++
    LittleEndian.ofInt32 q.count ++ query ++ selector)

end Query

end CommandWire
