import CommandWire.Proofs.Command.Argument
import CommandWire.Proofs.Command.Library
import CommandWire.Proofs.Dispatch.Outcome
import CommandWire.Proofs.Text.LowerCase

namespace CommandWire

/-!
# Spellings of a token

The library finds a command under every spelling of its token, but not every command reads its
argument under every spelling.  This file tells when the spelling makes a difference.

* `CommandLibrary.Finds.rename`, `CommandLibrary.Respells` — a new spelling for the first name in a
  document that has a command.
* `Apart` — arguments, or refusals, that lead to different answers or different calls.
* `Dispatcher.answeredAlike_iff_of` — two documents that name one command are answered alike if and
  only if their arguments are the same, as long as they are either the same or apart.
* `Dispatcher.answeredAlike_rename_of_looksAt`, `Dispatcher.answeredAlike_rename_iff_of_requires`,
  `Dispatcher.answeredAlike_rename_handshake_iff` — a new spelling in front of a command that looks
  at no spelling of its token, at one of them, or at all names.
* `Dispatcher.answeredAlike_rename_iff` — when a new spelling of the token changes nothing.
-/

/-! ### Lookup -/

namespace CommandLibrary.Finds

variable {l : CommandLibrary} {document : Document} {before : List String} {token new : String}
  {c : RegisteredCommand}

/-- A new spelling of the token takes its place. -/
theorem rename (h : l.Finds document before token c)
    (hfold : LowerCase.fold new = LowerCase.fold token) :
    l.Finds (document.rename token new) before new c where
  keys_eq := by
    obtain ⟨after, hkeys⟩ := h.keys_eq
    refine ⟨after.map fun key => if key = token then new else key, ?_⟩
    -- the names before the token have no command and so are not the token.
    have hbefore : before.map (fun key => if key = token then new else key) = before :=
      calc before.map (fun key => if key = token then new else key)
        _ = before.map id :=
          List.map_congr_left fun key hkey =>
            if_neg fun heq : key = token => h.not_mem_before (heq ▸ hkey)
        _ = before := List.map_id before
    rw [Document.keys_rename, hkeys, List.map_append, List.map_cons, if_pos rfl, hbefore]
  unknown := h.unknown
  found := by
    rw [← h.found, findByName, findByName, hfold]

end CommandLibrary.Finds

/-! ### Arguments that are told apart -/

/-- Arguments, or refusals, that lead to different answers or different calls. -/
def Apart {α : Type} : Checked α → Checked α → Prop
  | .ok _, .ok _ => False
  | .error e, .error e' => e.code ≠ e'.code ∨ e.text ≠ e'.text
  | _, _ => True

/-- It does not matter which of two results is named first. -/
theorem Apart.symm {α : Type} {x y : Checked α} (h : Apart x y) : Apart y x := by
  cases x <;> cases y
  · exact h.imp Ne.symm Ne.symm
  · trivial
  · trivial
  · exact h

/-- Results stay apart whatever is made of them. -/
theorem Apart.map {α β : Type} {x y : Checked α} (h : Apart x y) (f : α → β) :
    Apart (x.map f) (y.map f) := by
  cases x <;> cases y <;> exact h

/-- A refusal for a reason that nothing else is refused for. -/
theorem apart_error {α : Type} {e : ProtocolError} {x : Checked α}
    (h : ErrorsIn (fun e' => e.code ≠ e'.code ∨ e.text ≠ e'.text) x) :
    Apart (.error e : Checked α) x := by
  cases x with
  | error e' => exact h e' rfl
  | ok a => trivial

/-- The answer to a command that failed tells the code and the text of its error. -/
theorem errorDocument_inj {e e' : ProtocolError} (h : errorDocument e = errorDocument e') :
    e.code = e'.code ∧ e.text = e'.text := by
  rw [errorDocument_eq, errorDocument_eq] at h
  simp only [List.cons.injEq, Prod.mk.injEq, Value.string.injEq, Value.int32.injEq] at h
  exact ⟨ErrorCode.eq_of_number_eq h.2.2.1.2, h.2.1.2⟩

namespace Dispatcher

variable {σ : Type} {d : Dispatcher σ} {request : Request} {document other : Document}
  {s : Session σ} {c : RegisteredCommand}

/-- Two documents get the same answer and make the processor execute the same. -/
def AnsweredAlike (d : Dispatcher σ) (request : Request) (s : Session σ)
    (document other : Document) : Prop :=
  (d.handleCommand request other s).1 = (d.handleCommand request document s).1 ∧
    (d.handleCommand request other s).2.calls = (d.handleCommand request document s).2.calls

/-- It does not matter which of two documents is named first. -/
theorem AnsweredAlike.symm (h : d.AnsweredAlike request s document other) :
    d.AnsweredAlike request s other document :=
  ⟨h.1.symm, h.2.symm⟩

/-- Documents that are found as one command and give the same argument are answered alike. -/
theorem answeredAlike_of_eq (hfind : d.library.find document = .ok c)
    (hother : d.library.find other = .ok c) (h : c.readArgument other = c.readArgument document) :
    d.AnsweredAlike request s document other := by
  have heq : d.handleCommand request other s = d.handleCommand request document s := by
    unfold handleCommand
    rw [hfind, hother]
    simp only [run, h]
  exact ⟨congrArg Prod.fst heq, congrArg (fun p => p.2.calls) heq⟩

/-- A document whose argument is decoded is executed, one whose argument is refused is not. -/
theorem not_answeredAlike_of_ok {argument : Payload} {e : ProtocolError}
    (hfind : d.library.find document = .ok c) (hother : d.library.find other = .ok c)
    (hread : c.readArgument document = .ok argument) (hrefused : c.readArgument other = .error e) :
    ¬ d.AnsweredAlike request s document other := by
  intro halike
  -- equal calls would make the one call of the first document none.
  have hcalls := halike.2
  rw [calls_handleCommand hfind hread, (handleCommand_of_refused hother hrefused).2.1,
    List.self_eq_append_right] at hcalls
  cases hcalls

/-- Refused documents that are answered alike are refused with the same code and the same text. -/
theorem AnsweredAlike.of_errors {e e' : ProtocolError}
    (halike : d.AnsweredAlike request s document other)
    (hfind : d.library.find document = .ok c) (hother : d.library.find other = .ok c)
    (hread : c.readArgument document = .error e) (hread' : c.readArgument other = .error e') :
    e.code = e'.code ∧ e.text = e'.text := by
  apply errorDocument_inj
  calc errorDocument e
    _ = (d.handleCommand request document s).1 := (handleCommand_of_refused hfind hread).2.2.symm
    _ = (d.handleCommand request other s).1 := halike.1.symm
    _ = errorDocument e' := (handleCommand_of_refused hother hread').2.2

/-- Documents that are found as one command are not answered alike if their arguments stand apart.
    -/
theorem not_answeredAlike_of_apart (hfind : d.library.find document = .ok c)
    (hother : d.library.find other = .ok c)
    (h : Apart (c.readArgument document) (c.readArgument other)) :
    ¬ d.AnsweredAlike request s document other := by
  intro halike
  cases hread : c.readArgument document with
  | ok argument =>
    cases hread' : c.readArgument other with
    | ok argument' =>
      rw [hread, hread'] at h
      exact h
    | error e => exact not_answeredAlike_of_ok hfind hother hread hread' halike
  | error e =>
    cases hread' : c.readArgument other with
    | ok argument => exact not_answeredAlike_of_ok hother hfind hread' hread halike.symm
    | error e' =>
      rw [hread, hread'] at h
      obtain ⟨hcode, htext⟩ := halike.of_errors hfind hother hread hread'
      rcases h with h | h
      · exact h hcode
      · exact h htext

/-- **Alike.** Two documents that name one command are answered alike if and only if their arguments
    are the same, as long as they are either the same or apart. -/
theorem answeredAlike_iff_of {P : Prop} (hfind : d.library.find document = .ok c)
    (hother : d.library.find other = .ok c)
    (hsame : P → c.readArgument other = c.readArgument document)
    (hapart : ¬ P → Apart (c.readArgument document) (c.readArgument other)) :
    d.AnsweredAlike request s document other ↔ P := by
  refine ⟨fun halike => ?_, fun hP => answeredAlike_of_eq hfind hother (hsame hP)⟩
  exact Classical.byContradiction fun hP =>
    not_answeredAlike_of_apart hfind hother (hapart hP) halike

end Dispatcher

/-! ### New spellings -/

/-- The token of a document, the first name in it that has a command, and a new spelling for it
    which is not among the names of the document. -/
structure CommandLibrary.Respells (l : CommandLibrary) (document : Document) (before : List String)
    (token new : String) (c : RegisteredCommand) : Prop
    extends CommandLibrary.Finds l document before token c where
  spelling : LowerCase.foldAscii new = LowerCase.foldAscii token
  ne : new ≠ token
  fresh : new ∉ document.keys

namespace CommandLibrary.Respells

variable {l : CommandLibrary} {document : Document} {before : List String} {token new : String}
  {c : RegisteredCommand}

/-- The other spelling has the command's token in lower case. -/
theorem fold_new (h : l.Respells document before token new c) : LowerCase.fold new = c.token := by
  rw [LowerCase.fold_eq_of_foldAscii_eq h.spelling, h.fold_token]

/-- The document in the other spelling is found as the same command. -/
theorem finds_rename (h : l.Respells document before token new c) :
    l.Finds (document.rename token new) before new c :=
  h.toFinds.rename (LowerCase.fold_eq_of_foldAscii_eq h.spelling)

/-- A name with another lower-case form is neither the token nor its new spelling. -/
theorem not_mem (h : l.Respells document before token new c) {names : List String}
    (hnames : ∀ name ∈ names, LowerCase.fold name ≠ c.token) : token ∉ names ∧ new ∉ names :=
  ⟨fun hmem => hnames token hmem h.fold_token, fun hmem => hnames new hmem h.fold_new⟩

/-- At most one spelling of a handshake's token is allowed in it. -/
theorem not_mem_allowedNames (h : l.Respells document before token new Handshake.command.registered)
    (htoken : token ∈ Handshake.allowedNames) : new ∉ Handshake.allowedNames := by
  have hothers : ∀ name ∈ ["config", "member"],
      LowerCase.fold name ≠ Handshake.command.registered.token := by decide +kernel
  obtain ⟨hother, hotherNew⟩ := h.not_mem hothers
  have hname : token = "handshake" := (List.mem_cons.1 htoken).resolve_right hother
  rw [Handshake.allowedNames, List.mem_cons, not_or]
  exact ⟨fun hnew => h.ne (hnew.trans hname.symm), hotherNew⟩

end CommandLibrary.Respells

/-- An argument that requires a name is apart from one that lacks it. -/
theorem Requires.apart {α : Type} {name : String} {read : Document → Checked α}
    (h : Requires name read) {d e : Document} (hd : name ∈ d.keys) (he : name ∉ e.keys) :
    Apart (read d) (read e) := by
  rw [h.of_not_mem e he]
  apply Apart.symm
  apply apart_error
  exact (h.of_mem d hd).mono fun e' he' => .inl fun hcode => he' hcode.symm

namespace Handshake

/-- Handshakes in which different names are not allowed, or none in one of them, are apart. -/
theorem apart_of_firstUnexpected_ne {d e : Document}
    (h : d.firstUnexpected allowedNames ≠ e.firstUnexpected allowedNames) :
    Apart (readArgument d) (readArgument e) := by
  -- a handshake without such a name may still be refused, but in other words.
  have hother : ∀ {e : Document} (key : String), e.firstUnexpected allowedNames = none →
      Apart (.error (unexpectedField key) : Checked Argument) (readArgument e) := by
    intro e key he
    apply apart_error
    refine (errorsIn_readArgument he).mono fun e' hrefusal => ?_
    by_cases hcode : e'.code = .failedToParse
    · exact .inr (text_ne_of_refusal hrefusal hcode key).symm
    · exact .inl fun hsame => hcode hsame.symm
  cases hd : d.firstUnexpected allowedNames with
  | none =>
    cases he : e.firstUnexpected allowedNames with
    | none => exact absurd (hd.trans he.symm) h
    | some key =>
      rw [readArgument_of_unexpected he]
      exact (hother key hd).symm
  | some key =>
    rw [readArgument_of_unexpected hd]
    cases he : e.firstUnexpected allowedNames with
    | none => exact hother key he
    | some key' =>
      rw [readArgument_of_unexpected he]
      refine .inr fun htext => h ?_
      rw [hd, he, Document.unexpectedText_inj htext]

end Handshake

namespace Dispatcher

variable {σ : Type} {d : Dispatcher σ} {document : Document} {before : List String}
  {token new : String} {c : RegisteredCommand}

/-- A command that looks at none of the spellings of its token answers under all of them alike. -/
theorem answeredAlike_rename_of_looksAt (request : Request) (s : Session σ) {names : List String}
    (h : d.library.Respells document before token new c) (hlooks : LooksAt names c.readArgument)
    (hnames : ∀ name ∈ names, LowerCase.fold name ≠ c.token) :
    d.AnsweredAlike request s document (document.rename token new) := by
  obtain ⟨htoken, hnew⟩ := h.not_mem hnames
  apply answeredAlike_of_eq h.find_eq h.finds_rename.find_eq
  exact hlooks _ _ (Document.agreeOn_rename document htoken hnew)

/-- A command that requires its token in one spelling answers alike as long as that spelling is
    neither the old nor the new one. -/
theorem answeredAlike_rename_iff_of_requires (request : Request) (s : Session σ) {name : String}
    {others : List String} (h : d.library.Respells document before token new c)
    (hrequires : Requires name c.readArgument) (hlooks : LooksAt (name :: others) c.readArgument)
    (hothers : ∀ other ∈ others, LowerCase.fold other ≠ c.token) :
    d.AnsweredAlike request s document (document.rename token new) ↔ token ≠ name ∧ new ≠ name := by
  obtain ⟨htoken, hnew⟩ := h.not_mem hothers
  apply answeredAlike_iff_of h.find_eq h.finds_rename.find_eq
  · intro hname
    refine hlooks _ _ (Document.agreeOn_rename document ?_ ?_)
    · exact List.not_mem_cons_of_ne_of_not_mem hname.1 htoken
    · exact List.not_mem_cons_of_ne_of_not_mem hname.2 hnew
  · intro hname
    -- the document that has the required spelling is accepted or refused for something else.
    by_cases htokenName : token = name
    · subst htokenName
      exact hrequires.apart h.mem_keys (Document.not_mem_keys_rename document h.ne)
    · have hnewName : new = name :=
        Classical.byContradiction fun hne => hname ⟨htokenName, hne⟩
      subst hnewName
      exact (hrequires.apart (Document.mem_keys_rename new h.mem_keys) h.fresh).symm

/-- A handshake is answered alike as long as something before its token is refused. -/
theorem answeredAlike_rename_handshake_iff (request : Request) (s : Session σ)
    (h : d.library.Respells document before token new Handshake.command.registered) :
    d.AnsweredAlike request s document (document.rename token new) ↔
      ∃ key ∈ before, key ∉ Handshake.allowedNames := by
  obtain ⟨after, hkeys⟩ := h.keys_eq
  obtain ⟨after', hkeys'⟩ := h.finds_rename.keys_eq
  apply answeredAlike_iff_of h.find_eq h.finds_rename.find_eq
  · intro hbefore
    -- the refused name stands in both documents at the same place.
    obtain ⟨key, hfirst⟩ := Document.exists_firstUnexpected hbefore
    show (Handshake.readArgument _).map _ = (Handshake.readArgument _).map _
    rw [Handshake.readArgument_of_unexpected (hfirst _ _ hkeys),
      Handshake.readArgument_of_unexpected (hfirst _ _ hkeys')]
  · intro hbefore
    have hallowed : ∀ key ∈ before, key ∈ Handshake.allowedNames := fun key hmem =>
      Classical.byContradiction fun hkey => hbefore ⟨key, hmem, hkey⟩
    apply Apart.map
    apply Handshake.apart_of_firstUnexpected_ne
    intro hfirst
    -- one of the two spellings is refused, and the other document does not have it.
    by_cases htoken : token ∈ Handshake.allowedNames
    · have hnew : new ∉ Handshake.allowedNames := h.not_mem_allowedNames htoken
      rw [Document.firstUnexpected_of_forall hkeys' hallowed hnew] at hfirst
      exact h.fresh (Document.mem_keys_of_firstUnexpected hfirst)
    · rw [Document.firstUnexpected_of_forall hkeys hallowed htoken] at hfirst
      exact Document.not_mem_keys_rename document h.ne
        (Document.mem_keys_of_firstUnexpected hfirst.symm)

end Dispatcher

/-! ### The standard commands -/

/-- A new spelling of the token changes nothing: the command looks at no spelling of it, or at one
    that is neither the old nor the new one, or what refuses the command stands before the token. -/
def RegisteredCommand.SpelledFreely (c : RegisteredCommand) (before : List String)
    (token new : String) : Prop :=
  c.name ∈ ["ping", "isMaster", "replSetFresh"] ∨
    (c.name ∈ ["listIndexes", "collStats"] ∧ token ≠ c.name ∧ new ≠ c.name) ∨
    (c.name = "handshake" ∧ ∃ key ∈ before, key ∉ Handshake.allowedNames)

/-- **Spellings.** A document whose token is a standard command and the same document with another
    spelling of the token in its place get the same answer and make the processor execute the same
    if and only if the command is spelled freely. -/
theorem Dispatcher.answeredAlike_rename_iff {σ : Type} (d : Dispatcher σ) (request : Request)
    (s : Session σ) {document : Document} {before : List String} {token new : String}
    {c : RegisteredCommand} (h : d.library.Respells document before token new c)
    (hstandard : c ∈ CommandLibrary.standardCommands) :
    d.AnsweredAlike request s document (document.rename token new) ↔
      c.SpelledFreely before token new := by
  simp only [CommandLibrary.standardCommands, List.mem_cons, List.not_mem_nil, or_false]
    at hstandard
  rcases hstandard with rfl | rfl | rfl | rfl | rfl | rfl
  · rw [answeredAlike_rename_iff_of_requires request s h (ListIndexes.requires_readArgument.map _)
      (ListIndexes.looksAt_readArgument.map _) (by simp)]
    simp [RegisteredCommand.SpelledFreely, Command.registered, ListIndexes.command]
  · rw [answeredAlike_rename_iff_of_requires request s h (CollStats.requires_readArgument.map _)
      (CollStats.looksAt_readArgument.map _) (by decide +kernel)]
    simp [RegisteredCommand.SpelledFreely, Command.registered, CollStats.command]
  · rw [answeredAlike_rename_handshake_iff request s h]
    simp [RegisteredCommand.SpelledFreely, Command.registered, Handshake.command]
  · have halike := answeredAlike_rename_of_looksAt request s h
      (ReplSetFresh.looksAt_readArgument.map _) (by decide +kernel)
    simp [RegisteredCommand.SpelledFreely, Command.registered, ReplSetFresh.command, halike]
  · have halike := answeredAlike_rename_of_looksAt request s h (Ping.looksAt_readArgument.map _)
      (by simp)
    simp [RegisteredCommand.SpelledFreely, Command.registered, Ping.command, halike]
  · have halike := answeredAlike_rename_of_looksAt request s h (IsMaster.looksAt_readArgument.map _)
      (by simp)
    simp [RegisteredCommand.SpelledFreely, Command.registered, IsMaster.command, halike]

/-! ### A request that is not spelled freely -/

/-- A processor that executes nothing. -/
def Processor.refusing : Processor Unit where
  execute _ command _ state := (.error (.commandNotSupported command.name), state)
  query _ _ state := (.error (.commandNotSupported "query"), state)

/-- The standard commands before a processor that executes nothing. -/
def Dispatcher.sample : Dispatcher Unit := ⟨CommandLibrary.standard, Processor.refusing, 10⟩

/-- A request for the indexes of a collection. -/
def Document.sampleRequest : Document := [("listIndexes", .string "users")]

/-- The sample request is spelled anew in lower case. -/
theorem respells_sampleRequest :
    Dispatcher.sample.library.Respells Document.sampleRequest [] "listIndexes" "listindexes"
      ListIndexes.command.registered where
  keys_eq := ⟨[], rfl⟩
  unknown := by simp
  found := by
    unfold CommandLibrary.findByName CommandLibrary.findToken
    exact List.find?_cons_of_pos (by decide +kernel)
  spelling := by decide +kernel
  ne := by decide
  fresh := by decide

/-- The sample request in lower case is not answered alike. -/
theorem answeredAlike_rename_sampleRequest :
    Dispatcher.sample.library.Respells Document.sampleRequest [] "listIndexes" "listindexes"
        ListIndexes.command.registered ∧
      ListIndexes.command.registered ∈ CommandLibrary.standardCommands ∧
      ¬ Dispatcher.sample.AnsweredAlike (.plain 1 42 "db") (.start ()) Document.sampleRequest
        (Document.sampleRequest.rename "listIndexes" "listindexes") := by
  refine ⟨respells_sampleRequest, List.mem_cons_self, ?_⟩
  rw [Dispatcher.answeredAlike_rename_iff _ _ _ respells_sampleRequest List.mem_cons_self]
  simp [RegisteredCommand.SpelledFreely, Command.registered, ListIndexes.command]

/-- Not every standard command gets the same answer under every spelling of its token: one spelling
    of `listIndexes` is executed, and under another one its collection is missing. -/
theorem not_forall_answeredAlike :
    ¬ ∀ (d : Dispatcher Unit) (request : Request) (s : Session Unit) (document : Document)
      (before : List String) (token new : String) (c : RegisteredCommand),
      d.library.Respells document before token new c → c ∈ CommandLibrary.standardCommands →
      d.AnsweredAlike request s document (document.rename token new) := by
  intro h
  have halike := h Dispatcher.sample (.plain 1 42 "db") (.start ()) Document.sampleRequest []
    "listIndexes" "listindexes" _ respells_sampleRequest List.mem_cons_self
  have happart := (ListIndexes.requires_readArgument.map Payload.Carries.pack).apart
    respells_sampleRequest.mem_keys
    (Document.not_mem_keys_rename Document.sampleRequest respells_sampleRequest.ne)
  exact Dispatcher.not_answeredAlike_of_apart respells_sampleRequest.find_eq
    respells_sampleRequest.finds_rename.find_eq happart halike

end CommandWire
