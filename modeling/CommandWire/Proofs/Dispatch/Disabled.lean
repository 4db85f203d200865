import CommandWire.Proofs.Command.Library
import CommandWire.Proofs.Dispatch.Outcome
import CommandWire.Proofs.Text.Ascii
import CommandWire.Settings

namespace CommandWire

/-!
# Commands that are left out

Settings name the commands that the library leaves out.  The names of settings are compared with
those of commands in ASCII, the names of requests under the full rules of lower case, and so what a
disabled name can still reach is decided by the characters that only the full rules fold to ASCII.

* `CommandLibrary.Unreachable` — no spelling of a name reaches a command;
  `CommandLibrary.unreachable_iff` says that one spelling decides for all.
* `CommandLibrary.mem_ofSettings_iff` — the commands that are not left out.
* `CommandLibrary.unreachable_disabled_iff` — the disabled names that are unreachable.
-/

namespace CommandLibrary

variable {l : CommandLibrary} {name other : String}

/-! ### Lookup -/

/-- A document of one name is refused with this name when no command has it. -/
theorem find_singleton_of_none (v : Value) (h : l.findByName name = none) :
    l.find [(name, v)] = .error (.commandNotSupported name) := by
  have hkeys : (Document.keys [(name, v)]).findSome? l.findByName = none := by
    show [name].findSome? l.findByName = none
    rw [List.findSome?_cons, h, List.findSome?_nil]
  unfold find
  rw [hkeys]
  rfl

/-- No spelling of a name reaches a command: the name is not found, a document with no other name is
    refused, no document leads to a command with this token, and the processor does not hear of a
    request with no other name. -/
structure Unreachable (l : CommandLibrary) (name : String) : Prop where
  findByName_eq : ∀ other, LowerCase.fold other = LowerCase.fold name → l.findByName other = none
  find_eq : ∀ other v, LowerCase.fold other = LowerCase.fold name →
    l.find [(other, v)] = .error (.commandNotSupported other)
  token_ne : ∀ d c, l.find d = .ok c → c.token ≠ LowerCase.fold name
  not_called : ∀ {σ : Type} (d : Dispatcher σ) (request : Request) (other : String) (v : Value)
    (s : Session σ), d.library = l → LowerCase.fold other = LowerCase.fold name →
    (d.handleCommand request [(other, v)] s).2.processor = s.processor ∧
      (d.handleCommand request [(other, v)] s).2.calls = s.calls

/-- **Unreachable names.** A name is unreachable in every spelling as soon as it is not found in
    one. -/
theorem unreachable_iff : l.Unreachable name ↔ l.findByName name = none := by
  constructor
  · intro h
    exact h.findByName_eq name rfl
  · intro h
    have hname : ∀ other, LowerCase.fold other = LowerCase.fold name → l.findByName other = none :=
      fun other hother => (findByName_congr hother).trans h
    have hfind : ∀ other v, LowerCase.fold other = LowerCase.fold name →
        l.find [(other, v)] = .error (.commandNotSupported other) :=
      fun other v hother => find_singleton_of_none v (hname other hother)
    refine ⟨hname, hfind, fun d c hc => ?_, ?_⟩
    · exact findByName_eq_none_iff.1 h c (mem_commands_of_find hc)
    · rintro σ d request other v s rfl hother
      have hfares : d.Fares request [(other, v)] s.processor [] s.processor
          (.error (.commandNotSupported other)) := .unknown (hfind other v hother)
      obtain ⟨hprocessor, hcalls, -⟩ := Dispatcher.handleCommand_fares hfares
      refine ⟨hprocessor, ?_⟩
      rw [hcalls, List.append_nil]

/-! ### Settings -/

variable {s : CommandSettings}

/-- The settings keep the standard commands that they do not disable. -/
theorem mem_ofSettings_iff {c : RegisteredCommand} :
    c ∈ (ofSettings s).commands ↔ c ∈ standardCommands ∧ s.isDisabled c.name = false := by
  rw [ofSettings, filter, List.mem_filter, Bool.not_eq_true', standard]

/-- A command is disabled by every name that differs from its own in the case of ASCII letters only.
    -/
theorem isDisabled_of_mem {token : String} (h : name ∈ s.disabled)
    (heq : LowerCase.foldAscii name = LowerCase.foldAscii token) : s.isDisabled token = true := by
  rw [CommandSettings.isDisabled, List.any_eq_true]
  exact ⟨name, h, beq_iff_eq.2 heq⟩

/-- The names of the standard commands are ASCII. -/
theorem ascii_standardNames : ∀ c ∈ standardCommands, ∀ ch ∈ c.name.toList, LowerCase.Ascii ch := by
  have hall : (standardCommands.all fun c =>
      c.name.toList.all fun ch => decide (LowerCase.Ascii ch)) = true := by decide +kernel
  intro c hc ch hch
  have hname := List.all_eq_true.1 hall c hc
  exact of_decide_eq_true (List.all_eq_true.1 hname ch hch)

/-- The names of the standard commands are ASCII, and so both ways of folding give their tokens. -/
theorem token_eq_foldAscii {c : RegisteredCommand} (h : c ∈ standardCommands) :
    c.token = LowerCase.foldAscii c.name :=
  LowerCase.fold_eq_foldAscii (ascii_standardNames c h)

/-- One standard command has a `k` in its token. -/
theorem name_eq_handshake_of_k_mem : ∀ c ∈ standardCommands,
    'k' ∈ (LowerCase.foldAscii c.name).toList → c.name = "handshake" := by
  decide +kernel

/-- Without a Kelvin sign, a disabled name that names a command disables it. -/
theorem isDisabled_of_fold_eq {c : RegisteredCommand} (hc : c ∈ standardCommands)
    (h : name ∈ s.disabled) (htoken : c.token = LowerCase.fold name)
    (hk : LowerCase.kelvin ∉ name.toList) : s.isDisabled c.name = true := by
  have hascii : ∀ ch ∈ (LowerCase.fold name).toList, LowerCase.Ascii ch := by
    rw [← htoken, token_eq_foldAscii hc]
    exact LowerCase.forall_ascii_foldAscii (ascii_standardNames c hc)
  have hname : LowerCase.foldAscii name = LowerCase.fold name :=
    LowerCase.foldAscii_eq_of_fold_ascii hascii hk
  refine isDisabled_of_mem h ?_
  rw [hname, ← htoken, token_eq_foldAscii hc]

/-- A name with a Kelvin sign can name one command only. -/
theorem name_eq_handshake_of_kelvin_mem {c : RegisteredCommand} (hc : c ∈ standardCommands)
    (htoken : c.token = LowerCase.fold name) (hk : LowerCase.kelvin ∈ name.toList) :
    c.name = "handshake" := by
  refine name_eq_handshake_of_k_mem c hc ?_
  rw [← token_eq_foldAscii hc, htoken]
  exact LowerCase.k_mem_fold hk

/-- The command `handshake` is found unless it is disabled itself. -/
theorem isDisabled_handshake_of_findByName (hfold : LowerCase.fold name = "handshake")
    (h : (ofSettings s).findByName name = none) : s.isDisabled "handshake" = true := by
  have hmem : Handshake.command.registered ∈ standardCommands := by
    rw [standardCommands]
    simp only [List.mem_cons, true_or, or_true]
  have htoken : Handshake.command.registered.token = "handshake" :=
    (token_eq_foldAscii hmem).trans (by decide +kernel)
  cases hdisabled : s.isDisabled "handshake" with
  | true => rfl
  | false =>
    exact absurd (htoken.trans hfold.symm)
      (findByName_eq_none_iff.1 h _ (mem_ofSettings_iff.2 ⟨hmem, hdisabled⟩))

/-- **Disabled names.** A name that is disabled is unreachable, unless it spells `handshake` with a
    Kelvin sign and no other name disables that command. -/
theorem unreachable_disabled_iff (s : CommandSettings) {name : String} (h : name ∈ s.disabled) :
    (ofSettings s).Unreachable name ↔
      (LowerCase.fold name = "handshake" → LowerCase.kelvin ∈ name.toList →
        s.isDisabled "handshake" = true) := by
  rw [unreachable_iff]
  constructor
  · intro hnone hfold _
    exact isDisabled_handshake_of_findByName hfold hnone
  · intro hhandshake
    refine findByName_eq_none_iff.2 fun c hc htoken => ?_
    obtain ⟨hstandard, henabled⟩ := mem_ofSettings_iff.1 hc
    have hdisabled : s.isDisabled c.name = true := by
      by_cases hk : LowerCase.kelvin ∈ name.toList
      · have hname : c.name = "handshake" := name_eq_handshake_of_kelvin_mem hstandard htoken hk
        have hfold : LowerCase.fold name = "handshake" := by
          rw [← htoken, token_eq_foldAscii hstandard, hname]
          decide +kernel
        rw [hname]
        exact hhandshake hfold hk
      · exact isDisabled_of_fold_eq hstandard h htoken hk
    rw [hdisabled] at henabled
    cases henabled

/-- A command that is disabled in capitals is unreachable. -/
theorem unreachable_disabled_capitals :
    (ofSettings ⟨["LISTINDEXES", "HANDSHAKE"]⟩).Unreachable "HANDSHAKE" := by
  have hmem : "HANDSHAKE" ∈ (⟨["LISTINDEXES", "HANDSHAKE"]⟩ : CommandSettings).disabled := by decide
  exact (unreachable_disabled_iff _ hmem).2 fun _ _ => by decide +kernel

/-- With a Kelvin sign the name of a command disables nothing, and it is still found. -/
theorem not_forall_unreachable :
    ¬ ∀ (s : CommandSettings), ∀ name ∈ s.disabled, (ofSettings s).Unreachable name := by
  intro h
  have hname := (h ⟨["handsha\u212Ae"]⟩ "handsha\u212Ae" List.mem_cons_self).findByName_eq _ rfl
  have hdisabled := isDisabled_handshake_of_findByName (by decide +kernel) hname
  exact absurd hdisabled (by decide +kernel)

end CommandLibrary

end CommandWire
