import CommandWire.Address
import CommandWire.Text.Basic

namespace CommandWire

/-!
# Addresses by number

A peer is addressed by four octets or by eight groups of sixteen bits, and by a port.

* `SocketAddress` — the number of a peer and its port.
* `SocketAddress.parse?` — the address of a text.
* `SocketAddress.text` — its text, in which groups are hexadecimal and the first longest run of two
  or more zero groups is left out.
-/

/-- The address and port of a client. -/
inductive SocketAddress where
  | v4 (octets : Vector UInt8 4) (port : UInt16)
  /-- The scope tells the networks of a local address apart; 0 is none. -/
  | v6 (groups : Vector UInt16 8) (scope : UInt32) (port : UInt16)
deriving DecidableEq, Repr

namespace SocketAddress

/-! ### Reading -/

/-- An octet of up to three decimal digits without a zero in front, and what follows. -/
def octet? (cs : List Char) : Option (UInt8 × List Char) := do
  let digits := cs.takeWhile Char.isDigit
  if 3 < digits.length ∨ (digits.head? = some '0' ∧ digits.length ≠ 1) then none
  else
    let n ← Address.digits? digits
    if n < 256 then some (UInt8.ofNat n, cs.drop digits.length) else none

/-- An octet after a point, and what follows. -/
def nextOctet? : List Char → Option (UInt8 × List Char)
  | '.' :: cs => octet? cs
  | _ => none

/-- Four octets with points between them, and what follows. -/
def octets? (cs : List Char) : Option (Vector UInt8 4 × List Char) := do
  let (a, cs) ← octet? cs
  let (b, cs) ← nextOctet? cs
  let (c, cs) ← nextOctet? cs
  let (d, cs) ← nextOctet? cs
  some (#v[a, b, c, d], cs)

/-- A group of up to four hexadecimal digits, and what follows. -/
def group? (cs : List Char) : Option (UInt16 × List Char) :=
  match cs.takeWhile fun c => (Hex.value? c).isSome with
  | [] => none
  | digits =>
    if 4 < digits.length then none
    else (Hex.toNat? digits).map fun n => (UInt16.ofNat n, cs.drop digits.length)

/-- The two groups that four octets are. -/
def groupsOfOctets (octets : Vector UInt8 4) : List UInt16 :=
  [UInt16.ofNat (256 * octets[0].toNat + octets[1].toNat),
    UInt16.ofNat (256 * octets[2].toNat + octets[3].toNat)]

/-- Groups in front. -/
structure Run where
  groups : List UInt16
  /-- The last two groups are written as octets. -/
  endsInOctets : Bool
  rest : List Char

/-- What follows the colon in front of every group but the first. -/
def afterColon? (isFirst : Bool) (cs : List Char) : Option (List Char) :=
  if isFirst then some cs
  else
    match cs with
    | ':' :: rest => some rest
    | _ => none

/-- The groups in front, up to a number of them, with colons between them.  Where two groups fit, the
    last ones may be octets. -/
def run (isFirst : Bool) : Nat → List Char → Run
  | 0, cs => ⟨[], false, cs⟩
  | limit + 1, cs =>
    match afterColon? isFirst cs with
    | none => ⟨[], false, cs⟩
    | some inner =>
      match if limit = 0 then none else octets? inner with
      | some (octets, rest) => ⟨groupsOfOctets octets, true, rest⟩
      | none =>
        match group? inner with
        | none => ⟨[], false, cs⟩
        | some (group, rest) =>
          let more := run false limit rest
          ⟨group :: more.groups, more.endsInOctets, more.rest⟩

/-- Eight groups, and what follows.  Two colons stand for one zero group or more. -/
def groups? (cs : List Char) : Option (List UInt16 × List Char) :=
  let head := run true 8 cs
  let count := head.groups.length
  if count = 8 then some (head.groups, head.rest)
  else if head.endsInOctets then none
  else
    match head.rest with
    | ':' :: ':' :: rest =>
      let tail := run true (7 - count) rest
      let zeros := List.replicate (8 - count - tail.groups.length) 0
      some (head.groups ++ zeros ++ tail.groups, tail.rest)
    | _ => none

/-- The number of a scope, which may be missing, and what follows. -/
def scope? : List Char → Option (UInt32 × List Char)
  | '%' :: cs => do
    let n ← Address.digits? (cs.takeWhile Char.isDigit)
    if n < UInt32.size then some (UInt32.ofNat n, cs.dropWhile Char.isDigit) else none
  | cs => some (0, cs)

/-- The port of a text that ends with it. -/
def port? : List Char → Option UInt16
  | ':' :: cs => do
    let n ← Address.digits? cs
    if n < UInt16.size then some (UInt16.ofNat n) else none
  | _ => none

/-- An address of groups, given what follows its opening bracket. -/
def bracketed? (cs : List Char) : Option SocketAddress := do
  let (groups, cs) ← groups? cs
  let (scope, cs) ← scope? cs
  match cs with
  | ']' :: cs =>
    let port ← port? cs
    if h : groups.length = 8 then some (.v6 ⟨groups.toArray, by simp [h]⟩ scope port) else none
  | _ => none

/-- The address of a text. -/
def parse? (s : String) : Option SocketAddress :=
  match s.toList with
  | '[' :: cs => bracketed? cs
  | cs => do
    let (octets, cs) ← octets? cs
    let port ← port? cs
    some (.v4 octets port)

/-! ### Writing -/

/-- Octets as decimal numbers with dots between them. -/
def octetsText (octets : List UInt8) : String :=
  ".".intercalate (octets.map fun octet => toString octet.toNat)

/-- Groups as hexadecimal numbers with colons between them. -/
def groupsText (groups : List UInt16) : String :=
  ":".intercalate (groups.map fun group => Hex.ofNat group.toNat)

/-- Where the first longest run of zeros begins, and how long it is. -/
def longestZeros : List UInt16 → Nat × Nat
  | [] => (0, 0)
  | group :: rest =>
    let here := ((group :: rest).takeWhile (· = 0)).length
    let (start, length) := longestZeros rest
    if length ≤ here then (0, here) else (start + 1, length)

/-- The octets of a group. -/
def octetsOfGroup (group : UInt16) : List UInt8 :=
  [UInt8.ofNat (group.toNat / 256), UInt8.ofNat group.toNat]

/-- The text of eight groups.  Those that stand for four octets are shown as such. -/
def hostText (groups : List UInt16) : String :=
  if groups.take 6 = [0, 0, 0, 0, 0, 0xFFFF] then
    "::ffff:" ++ octetsText ((groups.drop 6).flatMap octetsOfGroup)
  else
    let (start, length) := longestZeros groups
    if length < 2 then groupsText groups
    else groupsText (groups.take start) ++ "::" ++ groupsText (groups.drop (start + length))

/-- The text of an address and its port.  Groups stand between brackets, with the scope unless it is
    zero. -/
def text : SocketAddress → String
  | .v4 octets port => octetsText octets.toList ++ ":" ++ toString port.toNat
  | .v6 groups scope port =>
    let scopeText := if scope = 0 then "" else "%" ++ toString scope.toNat
    "[" ++ hostText groups.toList ++ scopeText ++ "]:" ++ toString port.toNat

end SocketAddress

end CommandWire
