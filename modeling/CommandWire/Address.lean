import CommandWire.Error

namespace CommandWire

/-!
# Addresses of members

An address is a host with or without a port.  A host between brackets may hold colons; without
brackets a single colon precedes the port, and a host with several colons has no port.

* `Address.parse` — the address of a text.
* `Address.text` — the text of an address, with brackets around a host that holds a colon.
* `Address.Fault` — what can be wrong with the text of an address.
-/

/-- A host, and a port unless the default one is meant. -/
structure Address where
  host : String
  port : Option UInt16
deriving DecidableEq, Repr

namespace Address

/-- The port of an address that names none. -/
def defaultPort : UInt16 := 27017

/-- The port of an address, or the default port if it names none. -/
def portOrDefault (a : Address) : UInt16 := a.port.getD defaultPort

/-- What can be wrong with the text of an address. -/
inductive Fault where
  | unclosedBracket (input : String)
  | textAfterBracket (input : String)
  | emptyHost (input : String)
  | badPort (port input : String)
deriving DecidableEq, Repr

/-- The text of a fault, with the whole input in it. -/
def Fault.message : Fault → String
  | .unclosedBracket input => "Unclosed bracket in host string '" ++ input ++ "'"
  | .textAfterBracket input => "Unexpected text after ']' in '" ++ input ++ "'"
  | .emptyHost input => "Empty host in '" ++ input ++ "'"
  | .badPort port input =>
    "Port must be a number between 0 and 65535, found '" ++ port ++ "' in '" ++ input ++ "'"

/-! ### Ports -/

/-- The number that a sequence of decimal digits stands for, if there is a digit and nothing else. -/
def digits? : List Char → Option Nat
  | [] => none
  | cs => if cs.all Char.isDigit then some (cs.foldl (fun n c => 10 * n + (c.toNat - 48)) 0) else none

/-- A port: digits after at most one plus sign. -/
def port? (cs : List Char) : Option UInt16 := do
  let n ← digits? (match cs with | '+' :: rest => rest | _ => cs)
  if n < 65536 then some (UInt16.ofNat n) else none

/-! ### Addresses -/

/-- What a text says about host and port before either is looked at. -/
structure Parts where
  host : List Char
  port : Option (List Char)
deriving DecidableEq, Repr

/-- Host and port of a text that begins with a bracket, given the characters after it. -/
def bracketedParts (input : String) (cs : List Char) : Except Fault Parts :=
  match cs.dropWhile (· ≠ ']') with
  | [] => .error (.unclosedBracket input)
  | [_] => .ok ⟨cs.takeWhile (· ≠ ']'), none⟩
  | _ :: ':' :: port => .ok ⟨cs.takeWhile (· ≠ ']'), some port⟩
  | _ => .error (.textAfterBracket input)

/-- Host and port of a text that begins without a bracket. -/
def plainParts (cs : List Char) : Parts :=
  if cs.count ':' = 1 then ⟨cs.takeWhile (· ≠ ':'), some ((cs.dropWhile (· ≠ ':')).drop 1)⟩
  else ⟨cs, none⟩

/-- The host and the port of a text.  A text that begins with a bracket is cut at the closing one,
    any other at its colon. -/
def parts (input : String) : Except Fault Parts :=
  match input.toList with
  | '[' :: cs => bracketedParts input cs
  | cs => .ok (plainParts cs)

/-- The address of a text. -/
def ofText (input : String) : Except Fault Address := do
  let p ← parts input
  if p.host.isEmpty then .error (.emptyHost input)
  else
    match p.port with
    | none => .ok ⟨String.ofList p.host, none⟩
    | some digits =>
      match port? digits with
      | some n => .ok ⟨String.ofList p.host, some n⟩
      | none => .error (.badPort (String.ofList digits) input)

/-- The address of a text. -/
def parse (input : String) : Checked Address :=
  (ofText input).mapError fun fault => .badValue fault.message

/-- The text of an address. -/
def text (a : Address) : String :=
  (if a.host.toList.contains ':' then "[" ++ a.host ++ "]" else a.host) ++
    match a.port with
    | some port => ":" ++ toString port.toNat
    | none => ""

end Address

end CommandWire
