import CommandWire.Message.Header
import CommandWire.Proofs.Octets

namespace CommandWire

/-!
# Headers on the wire

A header is sixteen octets, and sixteen octets are a header unless they name an operation that there
is not.

* `OpCode.assignedNumbers`, `OpCode.ofNumber?_eq_some_iff`, `OpCode.ofNumber?_eq_none_iff` — the table
  of operations and the table of numbers are inverse to each other.
* `Header.words?_eq_some_iff`, `Header.words?_of_le` — the four numbers of a header, as octets and by
  their places.
* `Header.decode_eq_ok_iff`, `Header.decode_eq_error_iff` — which octets begin with a header, and what
  is wrong with the others.
* `Header.decode_inverts_encode` — headers and octets.
-/

/-! ### Numbers of operations -/

namespace OpCode

variable {n : Int32} {op : OpCode}

/-- The numbers that stand for operations. -/
def assignedNumbers : List Int := [1, 2001, 2002, 2004, 2005, 2006, 2007, 2012, 2013]

/-- **Operations.** A number stands for the operation that has it, and for no other. -/
theorem ofNumber?_eq_some_iff : ofNumber? n = some op ↔ op.number = n := by
  constructor
  · intro h
    rw [ofNumber?] at h
    rw [← Int32.toInt_inj]
    -- every row of the one table is looked up in the other.
    split at h
    case h_10 => cases h
    all_goals
      next hn =>
        cases h
        exact hn.symm
  · rintro rfl
    exact ofNumber?_number op

/-- A number is that of no operation when it is not assigned. -/
theorem ofNumber?_eq_none_iff : ofNumber? n = none ↔ n.toInt ∉ assignedNumbers := by
  rw [ofNumber?]
  split
  case h_10 => simp_all [assignedNumbers]
  all_goals
    next hn =>
      rw [hn]
      decide

end OpCode

namespace Header

variable {bytes : List UInt8} {h : Header} {e : ProtocolError}

/-! ### The four numbers -/

/-- The four words in front of some octets. -/
theorem words?_eq_some_iff {messageLength requestId responseTo operation : Int32} :
    words? bytes = some (messageLength, requestId, responseTo, operation) ↔
      ∃ rest, bytes = LittleEndian.ofInt32 messageLength ++ (LittleEndian.ofInt32 requestId ++
        (LittleEndian.ofInt32 responseTo ++ (LittleEndian.ofInt32 operation ++ rest))) := by
  constructor
  · intro hwords
    obtain ⟨⟨_, _⟩, hlength, hwords⟩ := Option.bind_eq_some_iff.1 hwords
    obtain ⟨⟨_, _⟩, hrequest, hwords⟩ := Option.bind_eq_some_iff.1 hwords
    obtain ⟨⟨_, _⟩, hresponse, hwords⟩ := Option.bind_eq_some_iff.1 hwords
    obtain ⟨⟨_, rest⟩, hoperation, hwords⟩ := Option.bind_eq_some_iff.1 hwords
    cases hwords
    rw [Octets.takeInt32?_eq_some_iff] at hlength hrequest hresponse hoperation
    exact ⟨rest, by rw [hlength, hrequest, hresponse, hoperation]⟩
  · rintro ⟨rest, rfl⟩
    simp only [words?, Octets.takeInt32?_append, Option.bind_eq_bind, Option.bind_some]

/-- The number in the last four of the first sixteen octets, which names an operation. -/
def operation (bytes : List UInt8) : Int32 := LittleEndian.toInt32 ((bytes.drop 12).take 4)

/-- Fewer than sixteen octets hold no four words. -/
theorem words?_of_lt (hlt : bytes.length < size) : words? bytes = none := by
  rw [Option.eq_none_iff_forall_ne_some]
  rintro ⟨messageLength, requestId, responseTo, operation⟩ hwords
  obtain ⟨rest, rfl⟩ := words?_eq_some_iff.1 hwords
  simp only [List.length_append, LittleEndian.length_ofInt32, size] at hlt
  omega

/-- Sixteen octets or more hold four words, of which the last is the operation. -/
theorem words?_of_le (hle : size ≤ bytes.length) :
    ∃ messageLength requestId responseTo,
      words? bytes = some (messageLength, requestId, responseTo, operation bytes) := by
  rw [size] at hle
  have hrequest : 4 ≤ (bytes.drop 4).length := by rw [List.length_drop]; omega
  have hresponse : 4 ≤ (bytes.drop 8).length := by rw [List.length_drop]; omega
  have hoperation : 4 ≤ (bytes.drop 12).length := by rw [List.length_drop]; omega
  refine ⟨LittleEndian.toInt32 (bytes.take 4), LittleEndian.toInt32 ((bytes.drop 4).take 4),
    LittleEndian.toInt32 ((bytes.drop 8).take 4), ?_⟩
  rw [words?, Octets.takeInt32?_of_le (Nat.le_trans (by decide) hle)]
  simp only [Option.bind_eq_bind, Option.bind_some, List.drop_drop,
    Octets.takeInt32?_of_le hrequest, Octets.takeInt32?_of_le hresponse,
    Octets.takeInt32?_of_le hoperation, operation]

/-! ### Headers and octets -/

/-- Octets without four words are refused for their number. -/
theorem decode_of_words?_eq_none (hwords : words? bytes = none) :
    decode bytes = .error (.failedToParse (Fault.tooShort bytes.length).message) := by
  rw [decode, ofOctets, hwords]
  rfl

/-- When there are four numbers, the last one decides. -/
theorem decode_of_words?_eq_some {messageLength requestId responseTo operation : Int32}
    (hwords : words? bytes = some (messageLength, requestId, responseTo, operation)) :
    decode bytes =
      match OpCode.ofNumber? operation with
      | some opCode => .ok ⟨messageLength, requestId, responseTo, opCode⟩
      | none => .error (.failedToParse (Fault.unknownOpCode operation).message) := by
  rw [decode, ofOctets, hwords]
  dsimp only
  cases OpCode.ofNumber? operation <;> rfl

/-- A header is read back from its octets, whatever follows. -/
theorem decode_encode_append (h : Header) (rest : List UInt8) :
    decode (h.encode ++ rest) = .ok h := by
  have hwords : words? (h.encode ++ rest) =
      some (h.messageLength, h.requestId, h.responseTo, h.opCode.number) :=
    words?_eq_some_iff.2 ⟨rest, by simp only [encode, List.append_assoc]⟩
  rw [decode_of_words?_eq_some hwords, OpCode.ofNumber?_number]

/-- **Reading.** A header is read from octets that begin with its own, and from no others. -/
theorem decode_eq_ok_iff : decode bytes = .ok h ↔ ∃ rest, bytes = h.encode ++ rest := by
  constructor
  · intro hdecode
    cases hwords : words? bytes with
    | none =>
      rw [decode_of_words?_eq_none hwords] at hdecode
      cases hdecode
    | some words =>
      obtain ⟨messageLength, requestId, responseTo, operation⟩ := words
      rw [decode_of_words?_eq_some hwords] at hdecode
      cases hop : OpCode.ofNumber? operation with
      | none =>
        rw [hop] at hdecode
        cases hdecode
      | some opCode =>
        rw [hop] at hdecode
        cases hdecode
        obtain ⟨rest, rfl⟩ := words?_eq_some_iff.1 hwords
        rw [← OpCode.ofNumber?_eq_some_iff.1 hop]
        exact ⟨rest, by simp only [encode, List.append_assoc]⟩
  · rintro ⟨rest, rfl⟩
    exact decode_encode_append h rest

/-- **Refusals.** Octets are refused for being fewer than a header has, or else for their last number,
    which no operation has. -/
theorem decode_eq_error_iff :
    decode bytes = .error e ↔
      bytes.length < size ∧ e = .failedToParse (Fault.tooShort bytes.length).message ∨
      size ≤ bytes.length ∧ (operation bytes).toInt ∉ OpCode.assignedNumbers ∧
        e = .failedToParse (Fault.unknownOpCode (operation bytes)).message := by
  by_cases hlt : bytes.length < size
  · have hle : ¬ size ≤ bytes.length := Nat.not_le.2 hlt
    rw [decode_of_words?_eq_none (words?_of_lt hlt)]
    simp [hlt, hle, eq_comm]
  · have hle : size ≤ bytes.length := Nat.not_lt.1 hlt
    obtain ⟨messageLength, requestId, responseTo, hwords⟩ := words?_of_le hle
    rw [decode_of_words?_eq_some hwords, ← OpCode.ofNumber?_eq_none_iff]
    cases OpCode.ofNumber? (operation bytes) <;> simp [hlt, hle, eq_comm]

/-- **Headers and octets.** A header is written in sixteen octets, from which it is read back whatever
    follows.  Octets from which a header is read begin with those in which it is written.  Octets are
    refused for their form only, and they are if and only if there are fewer than sixteen or the last
    number in the first sixteen is that of no operation. -/
theorem decode_inverts_encode :
    (∀ (h : Header) (rest : List UInt8),
      h.encode.length = 16 ∧ decode (h.encode ++ rest) = .ok h) ∧
    (∀ (bytes : List UInt8) (h : Header), decode bytes = .ok h → h.encode = bytes.take 16) ∧
    (∀ (bytes : List UInt8) (e : ProtocolError), decode bytes = .error e →
      ∃ message, e = .failedToParse message) ∧
    (∀ bytes : List UInt8, (∃ e, decode bytes = .error e) ↔
      bytes.length < 16 ∨ (operation bytes).toInt ∉ OpCode.assignedNumbers) := by
  refine ⟨?_, ?_, ?_, ?_⟩
  · intro h rest
    exact ⟨length_encode h, decode_encode_append h rest⟩
  · intro bytes h hdecode
    obtain ⟨rest, rfl⟩ := decode_eq_ok_iff.1 hdecode
    exact (List.take_left' (length_encode h)).symm
  · intro bytes e he
    rcases decode_eq_error_iff.1 he with ⟨-, rfl⟩ | ⟨-, -, rfl⟩ <;> exact ⟨_, rfl⟩
  · intro bytes
    constructor
    · rintro ⟨e, he⟩
      rcases decode_eq_error_iff.1 he with ⟨hlt, -⟩ | ⟨-, hop, -⟩
      · exact .inl hlt
      · exact .inr hop
    · intro h
      by_cases hlt : bytes.length < size
      · exact ⟨_, decode_eq_error_iff.2 (.inl ⟨hlt, rfl⟩)⟩
      · have hop : (operation bytes).toInt ∉ OpCode.assignedNumbers := h.resolve_left hlt
        exact ⟨_, decode_eq_error_iff.2 (.inr ⟨Nat.not_lt.1 hlt, hop, rfl⟩)⟩

end Header

end CommandWire
