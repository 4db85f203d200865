import CommandWire.Command.Library
import Mathlib.Data.List.Nodup
import Mathlib.Data.String.Basic

namespace CommandWire

/-!
# Registration and lookup

Commands are registered one by one, and a name is looked up by its lower-case form.  A library can
be built from some commands exactly when these forms are distinct, and then it does not matter in
which order the commands came.

* `CommandLibrary.add_eq_ok_iff`, `CommandLibrary.add_eq_error_iff` — one registration.
* `CommandLibrary.StopsAt` — the first command whose token is taken, and the command that has it.
* `CommandLibrary.ofCommands_eq_ok_iff`, `CommandLibrary.ofCommands_eq_error_iff` — a sequence of
  registrations.
* `CommandLibrary.Finds` — the first name in a document that has a command.
* `CommandLibrary.Serves` — what a library of some commands answers.
* `CommandLibrary.Alike` — libraries that nobody can tell apart by asking them.
* `CommandLibrary.ofCommands_serves` — registration and lookup together.
-/

namespace CommandLibrary

variable {l l' : CommandLibrary} {name other token : String} {c : RegisteredCommand}
  {commands : List RegisteredCommand} {dup : DuplicateToken}

/-! ### Lookup by name -/

/-- A name is found as any other that differs from it in case. -/
theorem findByName_congr (h : LowerCase.fold other = LowerCase.fold name) :
    l.findByName other = l.findByName name := by
  rw [findByName, findByName, h]

/-- A name is not found when no command has its token. -/
theorem findByName_eq_none_iff :
    l.findByName name = none ↔ ∀ c ∈ l.commands, c.token ≠ LowerCase.fold name := by
  rw [findByName, findToken, List.find?_eq_none]
  simp only [beq_iff_eq, ne_eq]

/-- A library holds one command for a token. -/
theorem eq_of_token_eq {c' : RegisteredCommand} (h : c ∈ l.commands) (h' : c' ∈ l.commands)
    (htoken : c.token = c'.token) : c = c' :=
  List.inj_on_of_nodup_map l.distinct h h' htoken

/-- A token is found as the command of the library that has it. -/
theorem findToken_eq_some_iff :
    l.findToken token = some c ↔ c ∈ l.commands ∧ c.token = token := by
  constructor
  · intro h
    have htoken := List.find?_some h
    rw [beq_iff_eq] at htoken
    exact ⟨List.mem_of_find?_eq_some h, htoken⟩
  · rintro ⟨hmem, rfl⟩
    cases hfound : l.findToken c.token with
    | none => exact absurd (List.mem_map_of_mem hmem) (findToken_eq_none hfound)
    | some c' =>
      have htoken := List.find?_some hfound
      rw [beq_iff_eq] at htoken
      rw [eq_of_token_eq (List.mem_of_find?_eq_some hfound) hmem htoken]

/-- A name is found as the command of the library whose token is its lower-case form. -/
theorem findByName_eq_some_iff :
    l.findByName name = some c ↔ c ∈ l.commands ∧ c.token = LowerCase.fold name :=
  findToken_eq_some_iff

/-! ### Lookup by document -/

/-- The first name in a document that has a command, and the names before it. -/
structure Finds (l : CommandLibrary) (document : Document) (before : List String)
    (token : String) (c : RegisteredCommand) : Prop where
  keys_eq : ∃ after, document.keys = before ++ token :: after
  unknown : ∀ key ∈ before, l.findByName key = none
  found : l.findByName token = some c

namespace Finds

variable {document : Document} {before : List String}

/-- The first name of a document that is that of a command decides. -/
theorem find_eq (h : l.Finds document before token c) : l.find document = .ok c := by
  obtain ⟨after, hkeys⟩ := h.keys_eq
  have hbefore : before.findSome? l.findByName = none := by
    rw [List.findSome?_eq_none_iff]
    exact h.unknown
  unfold CommandLibrary.find
  rw [hkeys, List.findSome?_append, hbefore, List.findSome?_cons, h.found]
  rfl

/-- The name by which a command was found is its token in lower case. -/
theorem fold_token (h : l.Finds document before token c) : LowerCase.fold token = c.token := by
  have htoken := List.find?_some h.found
  rw [beq_iff_eq] at htoken
  exact htoken.symm

/-- The name by which a command was found stands in the document. -/
theorem mem_keys (h : l.Finds document before token c) : token ∈ document.keys := by
  obtain ⟨after, hkeys⟩ := h.keys_eq
  rw [hkeys]
  exact List.mem_append_right _ List.mem_cons_self

/-- The name by which a command was found does not stand before itself. -/
theorem not_mem_before (h : l.Finds document before token c) : token ∉ before := by
  intro hmem
  have hnone := h.unknown token hmem
  rw [h.found] at hnone
  cases hnone

end Finds

/-- A command is found exactly at the first name that is one's. -/
theorem find_eq_ok_iff {d : Document} :
    l.find d = .ok c ↔ ∃ before token, l.Finds d before token c := by
  constructor
  · intro h
    unfold find at h
    split at h
    · next c' hc' =>
      cases h
      obtain ⟨before, token, after, hkeys, hfound, hunknown⟩ := List.findSome?_eq_some_iff.1 hc'
      exact ⟨before, token, ⟨after, hkeys⟩, hunknown, hfound⟩
    · cases h
  · rintro ⟨before, token, h⟩
    exact h.find_eq

/-- A document without the name of a command is refused with its first name. -/
theorem find_eq_error_iff {d : Document} {e : ProtocolError} :
    l.find d = .error e ↔
      (∀ key ∈ d.keys, l.findByName key = none) ∧
        e = .commandNotSupported (d.keys.head?.getD "") := by
  rw [← List.findSome?_eq_none_iff]
  unfold find
  cases d.keys.findSome? l.findByName with
  | none => simp [eq_comm]
  | some c => simp

/-- A command that is found is one of the library. -/
theorem mem_commands_of_find {d : Document} (h : l.find d = .ok c) : c ∈ l.commands := by
  obtain ⟨before, token, hfinds⟩ := find_eq_ok_iff.1 h
  exact (findByName_eq_some_iff.1 hfinds.found).1

/-! ### One registration -/

/-- A command is refused when another has its token, and the refusal names both. -/
theorem add_eq_error_iff :
    l.add c = .error dup ↔
      ∃ other ∈ l.commands, other.token = c.token ∧ dup = ⟨c.name, other.name⟩ := by
  unfold add
  split
  · next other hother =>
    obtain ⟨hmem, htoken⟩ := findToken_eq_some_iff.1 hother
    constructor
    · intro h
      cases h
      exact ⟨other, hmem, htoken, rfl⟩
    · rintro ⟨other', hmem', htoken', rfl⟩
      rw [eq_of_token_eq hmem hmem' (htoken.trans htoken'.symm)]
  · next hnone =>
    constructor
    · intro h
      cases h
    · rintro ⟨other, hmem, htoken, -⟩
      exact absurd (List.mem_map.2 ⟨other, hmem, htoken⟩) (findToken_eq_none hnone)

/-- A library is known by its commands. -/
theorem eq_of_commands_eq (h : l.commands = l'.commands) : l = l' := by
  obtain ⟨commands, hdistinct⟩ := l
  obtain ⟨commands', hdistinct'⟩ := l'
  cases h
  rfl

/-- A command is added at the end. -/
theorem commands_add (h : l.add c = .ok l') : l'.commands = l.commands ++ [c] := by
  unfold add at h
  split at h
  · cases h
  · cases h
    rfl

/-- A command is registered exactly when there is a library with it after the others: that the
    tokens of this library are distinct is what the registration checks. -/
theorem add_eq_ok_iff : l.add c = .ok l' ↔ l'.commands = l.commands ++ [c] := by
  refine ⟨commands_add, fun h => ?_⟩
  cases hadd : l.add c with
  | ok l'' => rw [eq_of_commands_eq ((commands_add hadd).trans h.symm)]
  | error dup =>
    obtain ⟨other, hmem, htoken, -⟩ := add_eq_error_iff.1 hadd
    have hdistinct := l'.distinct
    rw [h, List.map_append, List.nodup_append] at hdistinct
    exact absurd htoken
      (hdistinct.2.2 other.token (List.mem_map_of_mem hmem) c.token List.mem_cons_self)

/-! ### A sequence of registrations -/

/-- Registration gets as far as a command whose token one of the commands before it has.  It names
    both. -/
inductive StopsAt (commands : List RegisteredCommand) : DuplicateToken → Prop
  | taken {before after : List RegisteredCommand} {c other : RegisteredCommand}
      (commands_eq : commands = before ++ c :: after)
      (nodup_before : (before.map RegisteredCommand.token).Nodup) (mem_before : other ∈ before)
      (token_eq : other.token = c.token) : StopsAt commands ⟨c.name, other.name⟩

/-- Any library can be the first part of another one. -/
theorem exists_commands_eq_of_append {after : List RegisteredCommand}
    (h : l'.commands = commands ++ after) : ∃ l : CommandLibrary, l.commands = commands := by
  have hdistinct := l'.distinct
  rw [h, List.map_append, List.nodup_append] at hdistinct
  exact ⟨⟨commands, hdistinct.1⟩, rfl⟩

/-- Commands are added one by one, and stand in the order in which they were added. -/
theorem foldlM_add_eq_ok_iff :
    commands.foldlM add l = .ok l' ↔ l'.commands = l.commands ++ commands := by
  -- the library holds what has been registered so far, the list what is still to come.
  induction commands generalizing l with
  | nil =>
    rw [List.foldlM_nil, List.append_nil]
    constructor
    · intro h
      cases h
      rfl
    · intro h
      rw [eq_of_commands_eq h]
      rfl
  | cons c rest ih =>
    rw [List.foldlM_cons, List.append_cons]
    constructor
    · intro h
      cases hadd : l.add c with
      | error dup =>
        rw [hadd] at h
        cases h
      | ok l'' =>
        rw [hadd] at h
        rw [ih.1 h, commands_add hadd]
    · intro h
      -- the library in between exists because it is the first part of the last one.
      obtain ⟨l'', hl''⟩ := exists_commands_eq_of_append h
      rw [add_eq_ok_iff.2 hl'']
      refine ih.2 ?_
      rw [h, hl'']

/-- A library is built from the commands that it holds and from no others. -/
theorem ofCommands_eq_ok_iff : ofCommands commands = .ok l ↔ l.commands = commands :=
  foldlM_add_eq_ok_iff

/-- Adding commands stops at the first whose token is there. -/
theorem stopsAt_of_foldlM_add (h : commands.foldlM add l = .error dup) :
    StopsAt (l.commands ++ commands) dup := by
  induction commands generalizing l with
  | nil => cases h
  | cons c rest ih =>
    rw [List.foldlM_cons] at h
    cases hadd : l.add c with
    | error dup' =>
      rw [hadd] at h
      -- this is the command that is refused, and all before it are in the library.
      cases h
      obtain ⟨other, hmem, htoken, rfl⟩ := add_eq_error_iff.1 hadd
      exact .taken rfl l.distinct hmem htoken
    | ok l' =>
      rw [hadd] at h
      rw [List.append_cons, ← commands_add hadd]
      exact ih h

/-- Commands make no library when the first whose token is there is the one that is named. -/
theorem ofCommands_eq_error_iff : ofCommands commands = .error dup ↔ StopsAt commands dup := by
  constructor
  · exact stopsAt_of_foldlM_add
  · rintro ⟨rfl, hnodup, hmem, htoken⟩
    next before after c other =>
    have hbefore : before.foldlM add empty = .ok ⟨before, hnodup⟩ := foldlM_add_eq_ok_iff.2 rfl
    have hadd : (⟨before, hnodup⟩ : CommandLibrary).add c = .error ⟨c.name, other.name⟩ :=
      add_eq_error_iff.2 ⟨other, hmem, htoken, rfl⟩
    rw [ofCommands, List.foldlM_append, hbefore]
    show (c :: after).foldlM add ⟨before, hnodup⟩ = _
    rw [List.foldlM_cons, hadd]
    rfl

/-- Commands make a library when no token occurs twice. -/
theorem exists_ofCommands_eq_ok_iff :
    (∃ l, ofCommands commands = .ok l) ↔ (commands.map RegisteredCommand.token).Nodup := by
  constructor
  · rintro ⟨l, h⟩
    rw [← ofCommands_eq_ok_iff.1 h]
    exact l.distinct
  · intro h
    exact ⟨⟨commands, h⟩, ofCommands_eq_ok_iff.2 rfl⟩

/-- Commands are refused when some token occurs twice. -/
theorem exists_ofCommands_eq_error_iff :
    (∃ dup, ofCommands commands = .error dup) ↔
      ¬ (commands.map RegisteredCommand.token).Nodup := by
  rw [← exists_ofCommands_eq_ok_iff]
  cases ofCommands commands <;> simp

/-! ### What a library answers -/

/-- The names of a library are those of its commands, in another order. -/
theorem names_perm (l : CommandLibrary) :
    l.names.Perm (l.commands.map RegisteredCommand.name) :=
  List.mergeSort_perm _ _

/-- The names of a library are in order. -/
theorem pairwise_names (l : CommandLibrary) : l.names.Pairwise (· ≤ ·) := by
  have h : l.names.Pairwise fun a b => decide (a ≤ b) = true := by
    apply List.pairwise_mergeSort
    · intro a b c hab hbc
      rw [decide_eq_true_eq] at hab hbc ⊢
      exact String.le_trans hab hbc
    · intro a b
      rw [Bool.or_eq_true, decide_eq_true_eq, decide_eq_true_eq]
      exact String.le_total a b
  simpa only [decide_eq_true_eq] using h

/-- What a library of some commands answers.  Of the names it says that they are all there, as often
    as there are commands, and in ascending order. -/
structure Serves (l : CommandLibrary) (commands : List RegisteredCommand) : Prop where
  findByName_eq_some : ∀ name c,
    l.findByName name = some c ↔ c ∈ commands ∧ c.token = LowerCase.fold name
  findByName_eq_none : ∀ name,
    l.findByName name = none ↔ ∀ c ∈ commands, c.token ≠ LowerCase.fold name
  find_eq_ok : ∀ d c, l.find d = .ok c ↔ ∃ before token, l.Finds d before token c
  find_eq_error : ∀ d e, l.find d = .error e ↔
    (∀ key ∈ d.keys, l.findByName key = none) ∧ e = .commandNotSupported (d.keys.head?.getD "")
  size_eq : l.size = commands.length
  names_perm : l.names.Perm (commands.map RegisteredCommand.name)
  names_sorted : l.names.Pairwise (· ≤ ·)

/-- A library serves its own commands. -/
theorem serves_commands (l : CommandLibrary) : l.Serves l.commands where
  findByName_eq_some _ _ := findByName_eq_some_iff
  findByName_eq_none _ := findByName_eq_none_iff
  find_eq_ok _ _ := find_eq_ok_iff
  find_eq_error _ _ := find_eq_error_iff
  size_eq := rfl
  names_perm := l.names_perm
  names_sorted := l.pairwise_names

/-! ### The order of registration -/

/-- Libraries that give the same answers. -/
structure Alike (l l' : CommandLibrary) : Prop where
  findByName_eq : l'.findByName = l.findByName
  find_eq : l'.find = l.find
  size_eq : l'.size = l.size
  names_eq : l'.names = l.names

/-- The order of the commands does not matter to what is found. -/
theorem findByName_eq_of_perm (h : l'.commands.Perm l.commands) :
    l'.findByName = l.findByName := by
  funext name
  apply Option.ext
  intro c
  rw [findByName_eq_some_iff, findByName_eq_some_iff, h.mem_iff]

/-- The order of the commands does not matter to the names. -/
theorem names_eq_of_perm (h : l'.commands.Perm l.commands) : l'.names = l.names := by
  have hnames := h.map RegisteredCommand.name
  have hperm : l'.names.Perm l.names := l'.names_perm.trans (hnames.trans l.names_perm.symm)
  exact hperm.eq_of_pairwise (fun _ _ _ _ => String.le_antisymm) l'.pairwise_names l.pairwise_names

/-- Libraries of the same commands are alike, whatever the order. -/
theorem alike_of_perm (h : l'.commands.Perm l.commands) : l.Alike l' where
  findByName_eq := findByName_eq_of_perm h
  find_eq := by
    funext d
    rw [find, find, findByName_eq_of_perm h]
  size_eq := h.length_eq
  names_eq := names_eq_of_perm h

/-- **Registration and lookup.** A library can be built from some commands if and only if their
    lower-case names are distinct; otherwise the first that is taken is refused.  What is built
    finds each command under its name and nothing else, and it is the same for every order of the
    commands. -/
theorem ofCommands_serves (commands : List RegisteredCommand) :
    ((∃ dup, ofCommands commands = .error dup) ↔
      ¬ (commands.map fun c => LowerCase.fold c.name).Nodup) ∧
    (∀ dup, ofCommands commands = .error dup ↔ StopsAt commands dup) ∧
    ∀ l, ofCommands commands = .ok l → l.Serves commands ∧
      ∀ other : List RegisteredCommand, other.Perm commands →
        ∃ l', ofCommands other = .ok l' ∧ l.Alike l' := by
  refine ⟨exists_ofCommands_eq_error_iff, fun dup => ofCommands_eq_error_iff, fun l hl => ?_⟩
  obtain rfl := ofCommands_eq_ok_iff.1 hl
  refine ⟨l.serves_commands, fun other hother => ?_⟩
  have hnodup : (other.map RegisteredCommand.token).Nodup :=
    (hother.map RegisteredCommand.token).nodup_iff.2 l.distinct
  obtain ⟨l', hl'⟩ := exists_ofCommands_eq_ok_iff.2 hnodup
  obtain rfl := ofCommands_eq_ok_iff.1 hl'
  exact ⟨l', hl', alike_of_perm hother⟩

end CommandLibrary

end CommandWire
