import CommandWire.Command.Library
import CommandWire.Proofs.Field.Read

namespace CommandWire

/-!
# What the commands look at and what they refuse

* `LooksAt` — the argument depends on the values of some names only.
* `Requires` — the argument is refused with a `NoSuchKey` if and only if a name is missing.
* `ListIndexes.looksAt_readArgument`, `CollStats.looksAt_readArgument`,
  `ReplSetFresh.looksAt_readArgument` — the names that these commands look at; the first two require
  one that is spelled like the command.  `ping` and `isMaster` look at none.
* `Member.ofDocument_of_unexpected`, `Member.errorsIn_ofDocument` — what the configuration of a member
  is refused for.
* `Handshake.readArgument_of_unexpected`, `Handshake.errorsIn_readArgument` — a handshake is refused
  for the first name that is not allowed, and otherwise for something that can be told from that.
-/

/-! ### Arguments and names -/

/-- The argument depends on the values of some names only. -/
def LooksAt {α : Type} (names : List String) (read : Document → Checked α) : Prop :=
  ∀ d e, Document.AgreeOn names d e → read d = read e

/-- The argument is refused with a `NoSuchKey` if and only if a name is missing. -/
structure Requires {α : Type} (name : String) (read : Document → Checked α) : Prop where
  of_not_mem : ∀ d : Document, name ∉ d.keys → read d = .error (.noSuchKey name)
  of_mem : ∀ d : Document, name ∈ d.keys → ErrorsIn (fun e => e.code ≠ .noSuchKey) (read d)

/-- What is made of a result does not look at the document. -/
theorem LooksAt.map {α β : Type} {names : List String} {read : Document → Checked α}
    (h : LooksAt names read) (f : α → β) : LooksAt names fun d => (read d).map f := by
  intro d e hagree
  show (read d).map f = (read e).map f
  rw [h d e hagree]

/-- What is made of a result does not change what is required for it. -/
theorem Requires.map {α β : Type} {name : String} {read : Document → Checked α}
    (h : Requires name read) (f : α → β) : Requires name fun d => (read d).map f where
  of_not_mem d hd := by
    show (read d).map f = _
    rw [h.of_not_mem d hd]
    rfl
  of_mem d hd := (h.of_mem d hd).map f

/-! ### Collections -/

/-- A value of the wrong kind is not reported as missing. -/
theorem Document.WrongKind.code_ne {d : Document} {name : String} {expected : Kind}
    {e : ProtocolError} (h : d.WrongKind name expected e) : e.code ≠ .noSuchKey := by
  rw [h.code_eq]
  decide

namespace ListIndexes

/-- `listIndexes` looks at its own field only. -/
theorem looksAt_readArgument : LooksAt ["listIndexes"] readArgument := by
  intro d e hagree
  unfold readArgument
  rw [Document.read_congr collectionField (hagree "listIndexes" (by simp))]

/-- `listIndexes` requires its own field. -/
theorem requires_readArgument : Requires "listIndexes" readArgument where
  of_not_mem d hd := by
    unfold readArgument
    rw [Document.read_of_not_mem collectionField hd]
    rfl
  of_mem d hd := by
    refine ErrorsIn.bind ?_ fun collection => ?_
    · -- rewording an error keeps its code.
      refine (Document.errorsIn_read_of_mem collectionField hd).mapError fun e he => ?_
      have hreword : (reword e).code = e.code := by
        unfold reword
        split
        · exact ProtocolError.code_withMessage e _
        · rfl
      rw [hreword]
      exact he.code_ne
    · unfold Argument.ofCollection
      split
      · exact errorsIn_ok _
      · exact errorsIn_error (by decide)

end ListIndexes

namespace CollStats

/-- `collStats` looks at its own field, the scale and the verbosity. -/
theorem looksAt_readArgument : LooksAt ["collStats", "scale", "verbose"] readArgument := by
  intro d e hagree
  unfold readArgument
  rw [Document.read_congr collectionField (hagree "collStats" (by simp)),
    Document.readOr_congr scaleField _ (hagree "scale" (by simp)),
    Document.readFlag_congr verboseField _ (hagree "verbose" (by simp))]

/-- `collStats` requires its own field. -/
theorem requires_readArgument : Requires "collStats" readArgument where
  of_not_mem d hd := by
    unfold readArgument
    rw [Document.read_of_not_mem collectionField hd]
    rfl
  of_mem d hd := by
    refine ErrorsIn.bind ?_ fun collection => ErrorsIn.bind ?_ fun scale => ?_
    · exact (Document.errorsIn_read_of_mem collectionField hd).mono fun _ he => he.code_ne
    · exact (Document.errorsIn_readOr d scaleField _).mono fun _ he => he.code_ne
    · split
      · exact errorsIn_error (by decide)
      · refine ErrorsIn.bind ?_ fun verbose => errorsIn_ok _
        exact (Document.errorsIn_readFlag d verboseField _).mono fun _ he => he.code_ne

end CollStats

/-! ### Commands without an argument -/

/-- `ping` looks at nothing. -/
theorem Ping.looksAt_readArgument : LooksAt [] Ping.command.readArgument := fun _ _ _ => rfl

/-- `isMaster` looks at nothing. -/
theorem IsMaster.looksAt_readArgument : LooksAt [] IsMaster.command.readArgument := fun _ _ _ => rfl

/-! ### Elections -/

namespace ReplSetFresh

/-- `replSetFresh` looks at five fields, of which none has the command's name. -/
theorem looksAt_readArgument :
    LooksAt ["id", "set", "who", "cfgver", "optime"] readArgument := by
  intro d e hagree
  unfold readArgument
  rw [Document.read_congr clientIdField (hagree "id" (by simp)),
    Document.read_congr setNameField (hagree "set" (by simp)),
    Document.read_congr whoField (hagree "who" (by simp)),
    Document.read_congr configVersionField (hagree "cfgver" (by simp)),
    Document.read_congr opTimeField (hagree "optime" (by simp))]

end ReplSetFresh

/-! ### Members -/

/-- Every address that is refused is a bad value. -/
theorem Address.errorsIn_parse (input : String) :
    ErrorsIn (fun e => e.code = .badValue) (Address.parse input) := by
  unfold Address.parse
  cases Address.ofText input with
  | error fault => exact errorsIn_error rfl
  | ok address => exact errorsIn_ok address

namespace Member

/-- The error says that a name is not allowed in the configuration of a member, or it is not about
    the arrangement of fields at all. -/
def Refusal (e : ProtocolError) : Prop :=
  e.code ≠ .failedToParse ∨ ∃ key, e = Document.unexpectedField "MemberConfig" allowedNames key

/-- A value of the wrong kind refuses a member. -/
theorem refusal_of_wrongKind {d : Document} {name : String} {expected : Kind} {e : ProtocolError}
    (h : d.WrongKind name expected e) : Refusal e := by
  refine .inl ?_
  rw [h.code_eq]
  decide

/-- A field that is missing or of the wrong kind refuses a member. -/
theorem refusal_of_read {d : Document} {name : String} {expected : Kind} {e : ProtocolError}
    (h : e = .noSuchKey name ∨ d.WrongKind name expected e) : Refusal e := by
  rcases h with rfl | h
  · exact .inl nofun
  · exact refusal_of_wrongKind h

/-- A tag is refused as a member is. -/
theorem errorsIn_readTag (name : String) (v : Value) : ErrorsIn Refusal (readTag name v) := by
  unfold readTag
  split
  · exact errorsIn_ok _
  · exact errorsIn_error (.inl nofun)

/-- A member that is not valid is refused as one. -/
theorem errorsIn_validated (m : Member) : ErrorsIn Refusal m.validated := by
  unfold validated
  split
  · exact errorsIn_error (.inl nofun)
  · exact errorsIn_ok m

/-- Every error in reading a member is such a refusal. -/
theorem errorsIn_ofDocument (d : Document) : ErrorsIn Refusal (ofDocument d) := by
  refine ErrorsIn.bind ?_ fun _ => ErrorsIn.bind ?_ fun hostText => ErrorsIn.bind ?_ fun host =>
    ErrorsIn.bind ?_ fun id => ErrorsIn.bind ?_ fun arbiterOnly =>
    ErrorsIn.bind ?_ fun buildIndexes => ErrorsIn.bind ?_ fun hidden =>
    ErrorsIn.bind ?_ fun priority => ErrorsIn.bind ?_ fun delay => ErrorsIn.bind ?_ fun votes =>
    ErrorsIn.bind ?_ fun tagDocument => ErrorsIn.bind ?_ fun tags => errorsIn_validated _
  · rw [Document.onlyHas_eq]
    split
    · exact errorsIn_ok ()
    · exact errorsIn_error (.inr ⟨_, rfl⟩)
  · exact (Document.errorsIn_read d hostField).mono fun _ => refusal_of_read
  · refine (Address.errorsIn_parse hostText).mono fun e he => .inl ?_
    rw [he]
    decide
  · exact (Document.errorsIn_read d idField).mono fun _ => refusal_of_read
  · exact (Document.errorsIn_readFlag d arbiterOnlyField _).mono fun _ => refusal_of_wrongKind
  · exact (Document.errorsIn_readFlag d buildIndexesField _).mono fun _ => refusal_of_wrongKind
  · exact (Document.errorsIn_readFlag d hiddenField _).mono fun _ => refusal_of_wrongKind
  · exact (Document.errorsIn_readOr d priorityField _).mono fun _ => refusal_of_wrongKind
  · exact (Document.errorsIn_readOr d delayField _).mono fun _ => refusal_of_wrongKind
  · exact (Document.errorsIn_readOr d votesField _).mono fun _ => refusal_of_wrongKind
  · exact (Document.errorsIn_readOptional d tagsField).mono fun _ => refusal_of_wrongKind
  · exact errorsIn_mapM (fun p : String × Value => errorsIn_readTag p.1 p.2) _

/-- The configuration of a member is refused for the first name that is not allowed. -/
theorem ofDocument_of_unexpected {d : Document} {key : String}
    (h : d.firstUnexpected allowedNames = some key) :
    ofDocument d = .error (Document.unexpectedField "MemberConfig" allowedNames key) := by
  unfold ofDocument
  rw [Document.onlyHas_eq, h]
  rfl

end Member

/-! ### Handshakes -/

namespace Handshake

/-- The refusal of a name that is not allowed in a handshake. -/
def unexpectedField (key : String) : ProtocolError :=
  Document.unexpectedField "HandshakeArgs" allowedNames key

/-- A name that no handshake holds decides, whatever else is wrong. -/
theorem readArgument_of_unexpected {d : Document} {key : String}
    (h : d.firstUnexpected allowedNames = some key) :
    readArgument d = .error (unexpectedField key) := by
  unfold readArgument
  rw [Document.onlyHas_eq, h]
  rfl

/-- The errors for which a handshake with allowed names only is refused. -/
theorem errorsIn_readArgument {d : Document} (h : d.firstUnexpected allowedNames = none) :
    ErrorsIn Member.Refusal (readArgument d) := by
  have hallowed : d.onlyHas "HandshakeArgs" allowedNames = .ok () := by
    rw [Document.onlyHas_eq, h]
  unfold readArgument
  rw [hallowed]
  refine ErrorsIn.bind (errorsIn_ok ()) fun _ => ErrorsIn.bind ?_ fun rid =>
    ErrorsIn.bind ?_ fun memberId => ErrorsIn.bind ?_ fun config => ?_
  · exact (Document.errorsIn_read d ridField).mono fun _ => Member.refusal_of_read
  · exact (Document.errorsIn_readOptional d memberIdField).mono fun _ => Member.refusal_of_wrongKind
  · exact (Document.errorsIn_readOptional d configField).mono fun _ => Member.refusal_of_wrongKind
  · split
    · exact errorsIn_ok _
    · exact (Member.errorsIn_ofDocument _).bind fun _ => errorsIn_ok _

/-- A name that is not allowed in a handshake is refused in words that refuse nothing else. -/
theorem text_ne_of_refusal {e : ProtocolError} (h : Member.Refusal e)
    (hcode : e.code = .failedToParse) (key : String) : e.text ≠ (unexpectedField key).text := by
  rcases h with h | ⟨other, rfl⟩
  · exact absurd hcode h
  · intro htext
    have hmember := Document.prefix_unexpectedText "MemberConfig" Member.allowedNames other
    have hhandshake := Document.prefix_unexpectedText "HandshakeArgs" allowedNames key
    have hsame : Document.unexpectedText "MemberConfig" Member.allowedNames other =
      Document.unexpectedText "HandshakeArgs" allowedNames key := htext
    -- one text cannot begin with both places.
    rw [hsame] at hmember
    rcases List.prefix_or_prefix_of_prefix hmember hhandshake with h | h
    · exact absurd h (by decide)
    · exact absurd h (by decide)

end Handshake

end CommandWire
