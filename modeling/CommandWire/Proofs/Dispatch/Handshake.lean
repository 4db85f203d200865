import CommandWire.Proofs.Command.Argument
import CommandWire.Proofs.Command.Library
import CommandWire.Proofs.Dispatch.Outcome
import CommandWire.Proofs.Field.Refusal

namespace CommandWire

/-!
# Handshakes are strict

A handshake is executed only if nothing stands in it that is not understood.  Its names are looked at
before any value, and the names in the configuration that it sends before any value there.

* `Handshake.Introduces`, `Handshake.HoldsMember`, `Handshake.Describes` — what a document says that is
  a handshake; `Handshake.readArgument_eq_ok_iff` says that this is what is read.
* `Handshake.Refuses` — what is wrong with a document that is none, the first fault only;
  `Handshake.readArgument_eq_error_iff` says that this is what it is refused for.
* `Document.unexpectedReply` — the reply to a document with a name that is not allowed.
* `Dispatcher.handshake_strict` — which handshakes are executed, and with what, and how others are
  answered.
-/

namespace Handshake

variable {d : Document} {e : ProtocolError}

/-! ### What is read -/

/-- Only allowed names stand in the document, and the secondary says who it is. -/
structure Introduces (d : Document) (rid : ObjectId) (memberId : Option Int64) : Prop where
  allowed : ∀ key ∈ d.keys, key ∈ allowedNames
  rid : d.get? "handshake" = some (.objectId rid)
  memberId : d.HoldsLong "member" memberId

/-- What the document says about the configuration: nothing, or a document that is one of a member. -/
def HoldsMember (d : Document) : Option Member → Prop
  | none => d.get? "config" = none
  | some m => ∃ inner, d.get? "config" = some (.document inner) ∧ Member.ofDocument inner = .ok m

/-- The document is a handshake. -/
structure Describes (d : Document) (a : Argument) : Prop where
  introduces : Introduces d a.rid a.memberId
  config : HoldsMember d a.config

/-- The configuration that a handshake sends, if it sends one. -/
def readConfig (d : Document) : Checked (Option Member) := do
  match ← d.readOptional configField with
  | none => return none
  | some inner => (Member.ofDocument inner).map some

/-- A handshake is read in four steps: its names, the identifier, the number and the configuration.
    -/
theorem readArgument_eq (d : Document) :
    readArgument d = (do
      d.onlyHas "HandshakeArgs" allowedNames
      let rid ← d.read ridField
      let memberId ← d.readOptional memberIdField
      (readConfig d).map fun config => ⟨rid, memberId, config⟩) := by
  unfold readArgument readConfig
  refine bind_congr fun _ => bind_congr fun rid => bind_congr fun memberId => ?_
  cases d.readOptional configField with
  | error e => rfl
  | ok config =>
    cases config with
    | none => rfl
    | some inner =>
      simp only [ok_bind]
      cases Member.ofDocument inner <;> rfl

/-- The configuration is read as the member that the document holds, if it holds one. -/
theorem readConfig_eq_ok_iff {config : Option Member} :
    readConfig d = .ok config ↔ HoldsMember d config := by
  rw [readConfig, bind_eq_ok]
  simp only [Document.readOptional_document_eq_ok_iff]
  constructor
  · rintro ⟨_ | inner, hget, hconfig⟩
    · cases hconfig
      exact hget
    · obtain ⟨m, hm, rfl⟩ := map_eq_ok_iff.1 hconfig
      exact ⟨inner, hget, hm⟩
  · intro h
    cases config with
    | none => exact ⟨none, h, rfl⟩
    | some m =>
      obtain ⟨inner, hget, hm⟩ := h
      exact ⟨some inner, hget, map_eq_ok_iff.2 ⟨m, hm, rfl⟩⟩

/-- **Reading.** A handshake is read from the documents that are one, as what they say. -/
theorem readArgument_eq_ok_iff {a : Argument} : readArgument d = .ok a ↔ Describes d a := by
  rw [readArgument_eq]
  simp only [bind_eq_ok, map_eq_ok_iff, Document.onlyHas_eq_ok_iff,
    Document.read_objectId_eq_ok_iff, Document.readOptional_int64_eq_ok_iff, readConfig_eq_ok_iff]
  constructor
  · rintro ⟨_, hallowed, rid, hrid, memberId, hmember, config, hconfig, rfl⟩
    exact ⟨⟨hallowed, hrid, hmember⟩, hconfig⟩
  · rintro ⟨⟨hallowed, hrid, hmember⟩, hconfig⟩
    exact ⟨(), hallowed, _, hrid, _, hmember, _, hconfig, rfl⟩

/-! ### What is refused -/

/-- What a document is refused for: the first name that is not allowed, and if there is none, the
    first field that is missing or of the wrong kind, and at last what the configuration is refused
    for. -/
inductive Refuses (d : Document) : ProtocolError → Prop
  | unexpected {before after : List String} {key : String} (hkeys : d.keys = before ++ key :: after)
      (hbefore : ∀ key ∈ before, key ∈ allowedNames) (hkey : key ∉ allowedNames) :
      Refuses d (unexpectedField key)
  | missing (hallowed : ∀ key ∈ d.keys, key ∈ allowedNames) (hget : d.get? "handshake" = none) :
      Refuses d (.noSuchKey "handshake")
  | rid {v : Value} (hallowed : ∀ key ∈ d.keys, key ∈ allowedNames)
      (hget : d.get? "handshake" = some v) (hkind : v.kind ∉ [.objectId]) :
      Refuses d (.wrongKind "handshake" .objectId v.kind)
  | memberId {rid : ObjectId} {v : Value} (hallowed : ∀ key ∈ d.keys, key ∈ allowedNames)
      (hrid : d.get? "handshake" = some (.objectId rid))
      (hget : d.get? "member" = some v) (hkind : v.kind ∉ [.int64, .int32]) :
      Refuses d (.wrongKind "member" .int64 v.kind)
  | configKind {rid : ObjectId} {memberId : Option Int64} {v : Value}
      (h : Introduces d rid memberId) (hget : d.get? "config" = some v)
      (hkind : v.kind ∉ [.document]) : Refuses d (.wrongKind "config" .document v.kind)
  | config {rid : ObjectId} {memberId : Option Int64} {inner : Document} {e : ProtocolError}
      (h : Introduces d rid memberId) (hget : d.get? "config" = some (.document inner))
      (hconfig : Member.ofDocument inner = .error e) : Refuses d e

/-- The configuration is refused when it is no document, and else as the member in it is. -/
theorem readConfig_eq_error_iff :
    readConfig d = .error e ↔
      (∃ v, d.get? "config" = some v ∧ v.kind ∉ [Kind.document] ∧
        e = .wrongKind "config" .document v.kind) ∨
      ∃ inner, d.get? "config" = some (.document inner) ∧ Member.ofDocument inner = .error e := by
  have hconfigField : d.Refuses configField e ↔ _ := BasicType.refuses_iff (t := .document) nofun
  rw [readConfig, bind_eq_error_iff, Document.readOptional_eq_error_iff, hconfigField]
  refine or_congr Iff.rfl ?_
  simp only [Document.readOptional_document_eq_ok_iff]
  constructor
  · rintro ⟨_ | inner, hget, herror⟩
    · cases herror
    · exact ⟨inner, hget, map_eq_error_iff.1 herror⟩
  · rintro ⟨inner, hget, herror⟩
    exact ⟨some inner, hget, map_eq_error_iff.2 herror⟩

/-- **Refusals.** A document is refused for the first thing that is wrong with it. -/
theorem readArgument_eq_error_iff : readArgument d = .error e ↔ Refuses d e := by
  have hridField : d.Refuses ridField e ↔ _ := BasicType.refuses_iff (t := .objectId) nofun
  have hmemberField : d.Refuses memberIdField e ↔ _ := BasicType.refuses_iff (t := .long) nofun
  rw [readArgument_eq]
  simp only [bind_eq_error_iff, map_eq_error_iff, Document.onlyHas_eq_ok_iff,
    Document.onlyHas_eq_error_iff, Document.firstUnexpected_eq_some_iff,
    Document.read_objectId_eq_ok_iff, Document.read_eq_error_iff, hridField,
    Document.readOptional_int64_eq_ok_iff, Document.readOptional_eq_error_iff, hmemberField,
    readConfig_eq_error_iff]
  constructor
  · rintro (⟨key, ⟨before, after, hkeys, hbefore, hkey⟩, rfl⟩ | ⟨_, hallowed, hread⟩)
    · exact .unexpected hkeys hbefore hkey
    rcases hread with (⟨hget, rfl⟩ | ⟨v, hget, hkind, rfl⟩) | ⟨rid, hrid, hread⟩
    · exact .missing hallowed hget
    · exact .rid hallowed hget hkind
    rcases hread with ⟨v, hget, hkind, rfl⟩ | ⟨memberId, hmember, hread⟩
    · exact .memberId hallowed hrid hget hkind
    rcases hread with ⟨v, hget, hkind, rfl⟩ | ⟨inner, hget, hconfig⟩
    · exact .configKind ⟨hallowed, hrid, hmember⟩ hget hkind
    · exact .config ⟨hallowed, hrid, hmember⟩ hget hconfig
  · intro h
    cases h with
    | unexpected hkeys hbefore hkey => exact .inl ⟨_, ⟨_, _, hkeys, hbefore, hkey⟩, rfl⟩
    | missing hallowed hget => exact .inr ⟨(), hallowed, .inl (.inl ⟨hget, rfl⟩)⟩
    | rid hallowed hget hkind => exact .inr ⟨(), hallowed, .inl (.inr ⟨_, hget, hkind, rfl⟩)⟩
    | memberId hallowed hrid hget hkind =>
      exact .inr ⟨(), hallowed, .inr ⟨_, hrid, .inl ⟨_, hget, hkind, rfl⟩⟩⟩
    | configKind h hget hkind =>
      exact .inr ⟨(), h.allowed, .inr ⟨_, h.rid, .inr ⟨_, h.memberId, .inl ⟨_, hget, hkind, rfl⟩⟩⟩⟩
    | config h hget hconfig =>
      exact .inr ⟨(), h.allowed, .inr ⟨_, h.rid, .inr ⟨_, h.memberId, .inr ⟨_, hget, hconfig⟩⟩⟩⟩

/-- What is refused is no handshake. -/
theorem Refuses.not_describes (h : Refuses d e) (a : Argument) : ¬ Describes d a := by
  intro ha
  have hread := readArgument_eq_error_iff.2 h
  rw [readArgument_eq_ok_iff.2 ha] at hread
  cases hread

/-- A document is a handshake, or else it is refused for something. -/
theorem exists_refuses (h : ∀ a, ¬ Describes d a) : ∃ e, Refuses d e := by
  cases hread : readArgument d with
  | ok a => exact absurd (readArgument_eq_ok_iff.1 hread) (h a)
  | error e => exact ⟨e, readArgument_eq_error_iff.1 hread⟩

end Handshake

/-! ### Dispatch -/

/-- The reply to a document with a name that is not allowed. -/
def Document.unexpectedReply (context : String) (allowed : List String) (key : String) : Document :=
  [("ok", .double Binary64.zero), ("errmsg", .string (unexpectedText context allowed key)),
    ("code", .int32 9), ("codeName", .string "FailedToParse")]

namespace Dispatcher

open Handshake (Describes Refuses Introduces)

variable {σ : Type} {d : Dispatcher σ} {request : Request} {document : Document} {s : Session σ}

/-- A handshake is executed with what it says. -/
theorem calls_of_describes {a : Handshake.Argument}
    (hfind : d.library.find document = .ok Handshake.command.registered) (h : Describes document a) :
    (d.handleCommand request document s).2.calls =
      s.calls ++ [⟨request, "handshake", false, .handshake a⟩] := by
  have hread : Handshake.command.readArgument document = .ok a := Handshake.readArgument_eq_ok_iff.2 h
  exact calls_handleCommand hfind (readArgument_registered Handshake.command hread)

/-- A document that is refused is not executed. -/
theorem handleCommand_of_refuses {e : ProtocolError}
    (hfind : d.library.find document = .ok Handshake.command.registered) (h : Refuses document e) :
    (d.handleCommand request document s).2.processor = s.processor ∧
      (d.handleCommand request document s).2.calls = s.calls ∧
      (d.handleCommand request document s).1 = errorDocument e := by
  have hread : Handshake.command.readArgument document = .error e :=
    Handshake.readArgument_eq_error_iff.2 h
  exact handleCommand_of_refused hfind (readArgument_registered_error Handshake.command hread)

/-- A handshake is executed with what it says and with nothing else. -/
theorem calls_eq_iff_describes {a : Handshake.Argument}
    (hfind : d.library.find document = .ok Handshake.command.registered) :
    (d.handleCommand request document s).2.calls =
      s.calls ++ [⟨request, "handshake", false, .handshake a⟩] ↔ Describes document a := by
  refine ⟨fun hcalls => ?_, calls_of_describes hfind⟩
  by_cases hsome : ∃ b, Describes document b
  · obtain ⟨b, hb⟩ := hsome
    rw [calls_of_describes hfind hb, List.append_cancel_left_eq] at hcalls
    cases hcalls
    exact hb
  · -- what is refused is not executed at all.
    obtain ⟨e, he⟩ := Handshake.exists_refuses (not_exists.1 hsome)
    rw [(handleCommand_of_refuses hfind he).2.1, List.self_eq_append_right] at hcalls
    cases hcalls

/-- **Strict handshakes.** Let the handshake be the command that is found for a document.  It is
    executed with an argument if and only if the document holds allowed names only, says who the
    secondary is, and its member and its configuration are what the argument has, where both may be
    missing.  Otherwise the processor is left alone, and the document is answered with the first
    thing that is wrong with it: the first name that is not allowed, whatever the values, and in a
    configuration at its place the first name that is not allowed there. -/
theorem handshake_strict (d : Dispatcher σ) (request : Request) (document : Document)
    (s : Session σ) (hfind : d.library.find document = .ok Handshake.command.registered) :
    (∀ a, (d.handleCommand request document s).2.calls =
      s.calls ++ [⟨request, "handshake", false, .handshake a⟩] ↔ Describes document a) ∧
    ((∀ a, ¬ Describes document a) →
      (d.handleCommand request document s).2.processor = s.processor ∧
      (d.handleCommand request document s).2.calls = s.calls ∧
      ∃ e, Refuses document e ∧ (d.handleCommand request document s).1 = errorDocument e) ∧
    (∀ before key after, document.keys = before ++ key :: after →
      (∀ key ∈ before, key ∈ Handshake.allowedNames) → key ∉ Handshake.allowedNames →
      (∀ a, ¬ Describes document a) ∧
      (d.handleCommand request document s).1 =
        Document.unexpectedReply "HandshakeArgs" Handshake.allowedNames key) ∧
    ∀ rid memberId config before key after, Introduces document rid memberId →
      document.get? "config" = some (.document config) →
      Document.keys config = before ++ key :: after →
      (∀ key ∈ before, key ∈ Member.allowedNames) → key ∉ Member.allowedNames →
      (∀ a, ¬ Describes document a) ∧
      (d.handleCommand request document s).1 =
        Document.unexpectedReply "MemberConfig" Member.allowedNames key := by
  refine ⟨fun a => calls_eq_iff_describes hfind, fun hnone => ?_, ?_, ?_⟩
  · obtain ⟨e, he⟩ := Handshake.exists_refuses hnone
    obtain ⟨hprocessor, hcalls, hreply⟩ := handleCommand_of_refuses hfind he
    exact ⟨hprocessor, hcalls, e, he, hreply⟩
  · intro before key after hkeys hbefore hkey
    have he : Refuses document (Handshake.unexpectedField key) := .unexpected hkeys hbefore hkey
    exact ⟨he.not_describes, (handleCommand_of_refuses hfind he).2.2⟩
  · intro rid memberId config before key after hintroduces hget hkeys hbefore hkey
    have hconfig := Member.ofDocument_of_unexpected
      (Document.firstUnexpected_of_forall hkeys hbefore hkey)
    have he : Refuses document (Document.unexpectedField "MemberConfig" Member.allowedNames key) :=
      .config hintroduces hget hconfig
    exact ⟨he.not_describes, (handleCommand_of_refuses hfind he).2.2⟩

/-- In the standard library the handshake is found for every document that begins with its name. -/
theorem finds_handshake (v : Value) (rest : Document) :
    CommandLibrary.standard.Finds (("handshake", v) :: rest) [] "handshake"
      Handshake.command.registered where
  keys_eq := ⟨Document.keys rest, rfl⟩
  unknown := List.forall_mem_nil _
  found := by
    have hmem : Handshake.command.registered ∈ CommandLibrary.standard.commands :=
      .tail _ (.tail _ (.head _))
    exact CommandLibrary.findByName_eq_some_iff.2 ⟨hmem, rfl⟩

/-- The standard commands before a processor that counts what it executes. -/
def counting : Dispatcher Nat where
  library := .standard
  processor :=
    { execute := fun _ _ _ count => (.ok .nothing, count + 1)
      query := fun _ _ count => (.error (.commandNotSupported "query"), count) }
  diagnosticLimit := 10

/-- The identifier of a secondary. -/
def secondary : ObjectId := ⟨List.replicate 12 7, rfl⟩

/-- A secondary sends its number as `member`; under another name it is refused. -/
theorem handshake_strict_counting :
    (counting.handleCommand (.plain 1 1 "admin")
        [("handshake", .objectId secondary), ("member", .int32 2)] (.start 0)).2.calls =
      [⟨.plain 1 1 "admin", "handshake", false, .handshake ⟨secondary, some 2, none⟩⟩] ∧
    (counting.handleCommand (.plain 1 1 "admin")
        [("handshake", .objectId secondary), ("memberId", .int64 1)] (.start 0)).2.processor = 0 ∧
    (counting.handleCommand (.plain 1 1 "admin")
        [("handshake", .objectId secondary), ("memberId", .int64 1)] (.start 0)).1 =
      Document.unexpectedReply "HandshakeArgs" Handshake.allowedNames "memberId" := by
  obtain ⟨hexecuted, -⟩ := handshake_strict counting (.plain 1 1 "admin")
    [("handshake", .objectId secondary), ("member", .int32 2)] (.start 0)
    (finds_handshake _ _).find_eq
  obtain ⟨-, hrefused, hreply, -⟩ := handshake_strict counting (.plain 1 1 "admin")
    [("handshake", .objectId secondary), ("memberId", .int64 1)] (.start 0)
    (finds_handshake _ _).find_eq
  obtain ⟨hnone, hunexpected⟩ := hreply ["handshake"] "memberId" [] rfl (by decide) (by decide)
  refine ⟨(hexecuted _).2 ⟨⟨by decide, rfl, .inr ⟨2, rfl, rfl⟩⟩, rfl⟩, (hrefused hnone).1,
    hunexpected⟩

end Dispatcher

end CommandWire
