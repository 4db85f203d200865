import CommandWire.Proofs.Address
import Mathlib.Data.Nat.Digits.Defs

namespace CommandWire.Address

/-!
# The grammar of addresses

An address is written in one of five forms: with brackets around its host or without them, with a port
or without one, and a host of several colons needs no brackets if no port follows it.

* `decimalValue`, `Decimal`, `PortText` — the texts of numbers and of ports; `port?_eq_some_iff` says
  that these are the ones that are read.
* `Form`, `Written` — the forms, and which address is written in each.
* `exists_written_iff` — the forms are the ways in which host and port may stand.
* `Form.of`, `Written.form_eq`, `Written.unique` — the only form in which a text may be written, and
  the only address that is written in it.
* `Spoils`, `parse_eq_error_iff` — what is wrong with any other text, and that it is refused for it.
* `parse_iff_written` — an address is read from the texts that are written, and from no others.
-/

variable {input : String} {cs : List Char} {a : Address}

/-! ### Texts of ports -/

/-- The number that decimal digits stand for, the ones being last. -/
def decimalValue (digits : List Char) : Nat :=
  Nat.ofDigits 10 (digits.reverse.map fun c => c.toNat - '0'.toNat)

/-- Adding up digits from the left gives the number that they stand for. -/
theorem foldl_eq_decimalValue (digits : List Char) :
    digits.foldl (fun n c => 10 * n + (c.toNat - 48)) 0 = decimalValue digits := by
  rw [decimalValue, Nat.ofDigits_eq_foldr, List.foldr_map, List.foldl_eq_foldr_reverse]
  congr 1
  funext c n
  exact Nat.add_comm _ _

/-- The digits of a number, perhaps after zeros. -/
structure Decimal (digits : List Char) (n : Nat) : Prop where
  ne_nil : digits ≠ []
  isDigit : ∀ c ∈ digits, c.isDigit = true
  value_eq : decimalValue digits = n

/-- A number is read from its decimal digits and from nothing else. -/
theorem digits?_eq_some_iff {n : Nat} : digits? cs = some n ↔ Decimal cs n := by
  constructor
  · intro h
    refine ⟨?_, isDigit_of_digits? h, ?_⟩
    · rintro rfl
      cases h
    · unfold digits? at h
      split at h
      · cases h
      · split at h
        · cases h
          exact (foldl_eq_decimalValue cs).symm
        · cases h
  · rintro ⟨hne, hdigits, rfl⟩
    unfold digits?
    split
    · exact absurd rfl hne
    · rw [if_pos (List.all_eq_true.2 hdigits), foldl_eq_decimalValue]

/-- The texts of a port: digits of its number, and at most one plus sign before them. -/
inductive PortText : List Char → UInt16 → Prop
  | unsigned {digits : List Char} {n : Nat} (hdigits : Decimal digits n) (hn : n ≤ 65535) :
      PortText digits (UInt16.ofNat n)
  | signed {digits : List Char} {n : Nat} (hdigits : Decimal digits n) (hn : n ≤ 65535) :
      PortText ('+' :: digits) (UInt16.ofNat n)

/-- The number of a port fits. -/
theorem bind_digits?_eq_some_iff {port : UInt16} :
    ((digits? cs).bind fun n => if n < 65536 then some (UInt16.ofNat n) else none) = some port ↔
      ∃ n, Decimal cs n ∧ n ≤ 65535 ∧ UInt16.ofNat n = port := by
  rw [Option.bind_eq_some_iff]
  refine exists_congr fun n => ?_
  rw [digits?_eq_some_iff, Option.ite_none_right_eq_some, Option.some.injEq, Nat.lt_succ_iff]

/-- A port is read from the texts of the grammar and from nothing else. -/
theorem port?_eq_some_iff {port : UInt16} : port? cs = some port ↔ PortText cs port := by
  unfold port?
  split
  · next digits =>
    refine bind_digits?_eq_some_iff.trans ⟨?_, ?_⟩
    · rintro ⟨n, hdigits, hn, rfl⟩
      exact .signed hdigits hn
    · intro h
      cases h with
      | signed hdigits hn => exact ⟨_, hdigits, hn, rfl⟩
      | unsigned hdigits =>
        -- a plus sign is no digit.
        cases hdigits.isDigit '+' List.mem_cons_self
  · next hplus =>
    refine bind_digits?_eq_some_iff.trans ⟨?_, ?_⟩
    · rintro ⟨n, hdigits, hn, rfl⟩
      exact .unsigned hdigits hn
    · intro h
      cases h with
      | unsigned hdigits hn => exact ⟨_, hdigits, hn, rfl⟩
      | signed => exact absurd rfl (hplus _)

/-- No colon stands in a port. -/
theorem PortText.not_mem_colon {port : UInt16} (h : PortText cs port) : ':' ∉ cs :=
  not_mem_of_port? (port?_eq_some_iff.2 h) (by decide) rfl

/-! ### Forms of addresses -/

/-- The forms in which an address is written. -/
inductive Form where
  | bracketed
  | bracketedPort
  | plain
  | plainPort
  | colons
deriving DecidableEq, Repr

/-- An address is written in a form. -/
inductive Written : Form → List Char → Address → Prop
  /-- A host in brackets. -/
  | bracketed {host : List Char} (hhost : host ≠ []) (hclosing : ']' ∉ host) :
      Written .bracketed ('[' :: (host ++ [']'])) ⟨String.ofList host, none⟩
  /-- A host in brackets, and a port. -/
  | bracketedPort {host port : List Char} {n : UInt16} (hhost : host ≠ []) (hclosing : ']' ∉ host)
      (hport : PortText port n) :
      Written .bracketedPort ('[' :: (host ++ ']' :: ':' :: port)) ⟨String.ofList host, some n⟩
  /-- A host alone. -/
  | plain {host : List Char} (hhost : host ≠ []) (hcolon : ':' ∉ host)
      (hopening : host.head? ≠ some '[') : Written .plain host ⟨String.ofList host, none⟩
  /-- A host and a port. -/
  | plainPort {host port : List Char} {n : UInt16} (hhost : host ≠ []) (hcolon : ':' ∉ host)
      (hopening : host.head? ≠ some '[') (hport : PortText port n) :
      Written .plainPort (host ++ ':' :: port) ⟨String.ofList host, some n⟩
  /-- A host of several colons. -/
  | colons {host : List Char} (hcolons : 2 ≤ host.count ':') (hopening : host.head? ≠ some '[') :
      Written .colons host ⟨String.ofList host, none⟩

/-- A host that is not empty and the number of its port make an address. -/
theorem names_ofList {host : List Char} {port : Option (List Char)} {number : Option UInt16}
    (hhost : host ≠ []) (hport : port.map port? = number.map some) :
    Parts.Names ⟨host, port⟩ ⟨String.ofList host, number⟩ :=
  ⟨String.toList_ofList.symm, hhost, hport⟩

/-- Host and port stand where the form has them. -/
theorem Written.spells {form : Form} (h : Written form cs a) : ∃ p, Spells cs p ∧ p.Names a := by
  cases h with
  | bracketed hhost hclosing => exact ⟨_, .bracketed hclosing, names_ofList hhost rfl⟩
  | @bracketedPort host port n hhost hclosing hport =>
    have hn : port? port = some n := port?_eq_some_iff.2 hport
    exact ⟨_, .bracketedPort port hclosing, names_ofList hhost (congrArg some hn)⟩
  | plain hhost hcolon hopening =>
    have hcolons : cs.count ':' ≠ 1 := by
      rw [List.count_eq_zero.2 hcolon]
      decide
    exact ⟨_, .alone hcolons hopening, names_ofList hhost rfl⟩
  | @plainPort host port n hhost hcolon hopening hport =>
    have hn : port? port = some n := port?_eq_some_iff.2 hport
    exact ⟨_, .joined hcolon hport.not_mem_colon hopening, names_ofList hhost (congrArg some hn)⟩
  | colons hcolons hopening =>
    have hhost : cs ≠ [] := by
      rintro rfl
      cases hcolons
    exact ⟨_, .alone (by omega) hopening, names_ofList hhost rfl⟩

/-- Where a host alone is read, there is no port. -/
theorem Parts.Names.eq_ofList {host : List Char} (h : Parts.Names ⟨host, none⟩ a) :
    a = ⟨String.ofList host, none⟩ := by
  obtain ⟨text, port⟩ := a
  obtain rfl : host = text.toList := h.host_eq
  obtain rfl : port = none := Option.map_eq_none_iff.1 h.port_eq.symm
  rw [String.ofList_toList]

/-- Where host and port are read, the port has its number. -/
theorem Parts.Names.exists_portText {host port : List Char}
    (h : Parts.Names ⟨host, some port⟩ a) :
    ∃ n, PortText port n ∧ a = ⟨String.ofList host, some n⟩ := by
  obtain ⟨text, number⟩ := a
  obtain rfl : host = text.toList := h.host_eq
  obtain ⟨n, rfl, hn⟩ := Option.map_eq_some_iff.1 h.port_eq.symm
  exact ⟨n, port?_eq_some_iff.1 hn.symm, by rw [String.ofList_toList]⟩

/-- **Forms.** The forms are the ways in which host and port of an address may stand in a text. -/
theorem exists_written_iff :
    (∃ form, Written form cs a) ↔ ∃ p, Spells cs p ∧ p.Names a := by
  constructor
  · rintro ⟨form, h⟩
    exact h.spells
  · rintro ⟨p, hspells, hnames⟩
    have hhost := hnames.host_ne
    cases hspells with
    | bracketed hclosing =>
      rw [hnames.eq_ofList]
      exact ⟨_, .bracketed hhost hclosing⟩
    | bracketedPort port hclosing =>
      obtain ⟨n, hport, rfl⟩ := hnames.exists_portText
      exact ⟨_, .bracketedPort hhost hclosing hport⟩
    | joined hcolon _ hopening =>
      obtain ⟨n, hport, rfl⟩ := hnames.exists_portText
      exact ⟨_, .plainPort hhost hcolon hopening hport⟩
    | alone hcolons hopening =>
      rw [hnames.eq_ofList]
      by_cases hcolon : ':' ∈ cs
      · have hcount : 0 < cs.count ':' := List.count_pos_iff.2 hcolon
        exact ⟨_, .colons (by omega) hopening⟩
      · exact ⟨_, .plain hhost hcolon hopening⟩

/-- The only form in which a text may be written. -/
def Form.of (cs : List Char) : Form :=
  if cs.head? = some '[' then
    if cs.dropWhile (· ≠ ']') = [']'] then .bracketed else .bracketedPort
  else if cs.count ':' = 0 then .plain
  else if cs.count ':' = 1 then .plainPort
  else .colons

/-- Nothing but the host stands before the first closing bracket. -/
theorem dropWhile_bracket {host : List Char} (after : List Char) (hclosing : ']' ∉ host) :
    ('[' :: (host ++ ']' :: after)).dropWhile (· ≠ ']') = ']' :: after := by
  have hopening : ']' ∉ '[' :: host := List.not_mem_cons_of_ne_of_not_mem (by decide) hclosing
  rw [← List.cons_append]
  exact Cut.dropWhile_append after hopening

/-- The form in which an address is written is told by the text alone. -/
theorem Written.form_eq {form : Form} (h : Written form cs a) : form = Form.of cs := by
  unfold Form.of
  cases h with
  | bracketed _ hclosing => rw [if_pos List.head?_cons, if_pos (dropWhile_bracket [] hclosing)]
  | @bracketedPort host port n _ hclosing =>
    have hmore : ('[' :: (host ++ ']' :: ':' :: port)).dropWhile (· ≠ ']') ≠ [']'] := by
      rw [dropWhile_bracket (':' :: port) hclosing]
      nofun
    rw [if_pos List.head?_cons, if_neg hmore]
  | plain _ hcolon hopening => rw [if_neg hopening, if_pos (List.count_eq_zero.2 hcolon)]
  | @plainPort host port n _ hcolon hopening hport =>
    have hcount : (host ++ ':' :: port).count ':' = 1 := by
      rw [List.count_append, List.count_cons_self, List.count_eq_zero.2 hcolon,
        List.count_eq_zero.2 hport.not_mem_colon]
    rw [if_neg ((head?_append_colon_ne host port).2 hopening), if_neg (by omega), if_pos hcount]
  | colons hcolons hopening => rw [if_neg hopening, if_neg (by omega), if_neg (by omega)]

/-- An address is read from a text that is written in some form, and from no other. -/
theorem parse_eq_ok_iff_written : parse input = .ok a ↔ ∃ form, Written form input.toList a :=
  parse_eq_ok_iff.trans exists_written_iff.symm

/-- A text has one form and is read in one way. -/
theorem Written.unique {form form' : Form} {b : Address} (h : Written form cs a)
    (h' : Written form' cs b) : form = form' ∧ a = b := by
  refine ⟨h.form_eq.trans h'.form_eq.symm, ?_⟩
  rw [← String.toList_ofList (l := cs)] at h h'
  have hread : parse (String.ofList cs) = .ok a := parse_eq_ok_iff_written.2 ⟨form, h⟩
  have hread' : parse (String.ofList cs) = .ok b := parse_eq_ok_iff_written.2 ⟨form', h'⟩
  exact Except.ok.inj (hread.symm.trans hread')

/-! ### Texts that are refused -/

/-- What is wrong with a text that is written in no form. -/
inductive Spoils (input : String) : List Char → Fault → Prop
  | unclosed {cs : List Char} (hclosing : ']' ∉ cs) :
      Spoils input ('[' :: cs) (.unclosedBracket input)
  | textAfter {host : List Char} {c : Char} (after : List Char) (hclosing : ']' ∉ host)
      (hcolon : c ≠ ':') :
      Spoils input ('[' :: (host ++ ']' :: c :: after)) (.textAfterBracket input)
  | emptyHost {cs : List Char} {port : Option (List Char)} (hspells : Spells cs ⟨[], port⟩) :
      Spoils input cs (.emptyHost input)
  | badPort {cs host port : List Char} (hspells : Spells cs ⟨host, some port⟩) (hhost : host ≠ [])
      (hport : ∀ n, ¬ PortText port n) :
      Spoils input cs (.badPort (String.ofList port) input)

/-- What is wrong with the parts of a text that begins with a bracket. -/
theorem spoils_of_bracketedParts {fault : Fault} (h : bracketedParts input cs = .error fault) :
    Spoils input ('[' :: cs) fault := by
  by_cases hmem : ']' ∈ cs
  · obtain ⟨host, after, rfl, hhost⟩ := List.eq_append_cons_of_mem hmem
    rw [bracketedParts, Cut.dropWhile_append after hhost] at h
    cases after with
    | nil => cases h
    | cons c after =>
      by_cases hcolon : c = ':'
      · subst hcolon
        cases h
      · split at h
        · next heq => cases heq
        · cases h
        · next heq =>
          cases heq
          exact absurd rfl hcolon
        · cases h
          exact .textAfter after hhost hcolon
  · rw [bracketedParts, Cut.dropWhile_of_not_mem hmem] at h
    cases h
    exact .unclosed hmem

/-- What is wrong with the parts of a text. -/
theorem spoils_of_parts {fault : Fault} (h : parts input = .error fault) :
    Spoils input input.toList fault := by
  by_cases hopening : input.toList.head? = some '['
  · obtain ⟨cs, hcs⟩ := List.head?_eq_some_iff.1 hopening
    rw [parts_of_bracket hcs] at h
    rw [hcs]
    exact spoils_of_bracketedParts h
  · rw [parts_of_head_ne hopening] at h
    cases h

/-- What is wrong with a text that is refused. -/
theorem spoils_of_ofText {fault : Fault} (h : ofText input = .error fault) :
    Spoils input input.toList fault := by
  rw [ofText] at h
  cases hparts : parts input with
  | error fault' =>
    rw [hparts] at h
    cases h
    exact spoils_of_parts hparts
  | ok p =>
    obtain ⟨host, port⟩ := p
    have hspells : Spells input.toList ⟨host, port⟩ := parts_eq_ok_iff.1 hparts
    rw [hparts] at h
    dsimp only [bind, Except.bind] at h
    split at h
    · next hhost =>
      cases h
      cases List.isEmpty_iff.1 hhost
      exact .emptyHost hspells
    next hhost =>
    split at h
    · cases h
    next digits =>
    split at h
    · cases h
    next hnone =>
    cases h
    refine .badPort hspells (mt List.isEmpty_iff.2 hhost) fun n hport => ?_
    rw [port?_eq_some_iff.2 hport] at hnone
    cases hnone

/-- A text with something wrong is refused for it. -/
theorem ofText_of_spoils {fault : Fault} (h : Spoils input input.toList fault) :
    ofText input = .error fault := by
  generalize hcs : input.toList = cs at h
  cases h with
  | unclosed hclosing =>
    rw [ofText, parts_of_bracket hcs, bracketedParts, Cut.dropWhile_of_not_mem hclosing]
    rfl
  | @textAfter host c after hclosing hcolon =>
    rw [ofText, parts_of_bracket hcs, bracketedParts, Cut.dropWhile_append _ hclosing]
    split
    · next heq => cases heq
    · next heq => cases heq
    · next heq =>
      cases heq
      exact absurd rfl hcolon
    · rfl
  | emptyHost hspells =>
    have hparts := parts_eq_ok_iff.2 (hcs ▸ hspells)
    rw [ofText, hparts]
    rfl
  | @badPort _ host port hspells hhost hport =>
    have hparts := parts_eq_ok_iff.2 (hcs ▸ hspells)
    have hnone : port? port = none :=
      Option.eq_none_iff_forall_not_mem.2 fun n hn => hport n (port?_eq_some_iff.1 hn)
    rw [ofText, hparts]
    dsimp only [bind, Except.bind]
    rw [if_neg (mt List.isEmpty_iff.1 hhost), hnone]

/-- **Refusals.** A text is refused for what is wrong with it. -/
theorem parse_eq_error_iff {e : ProtocolError} :
    parse input = .error e ↔
      ∃ fault, Spoils input input.toList fault ∧ e = .badValue fault.message := by
  rw [parse]
  constructor
  · intro h
    cases hread : ofText input with
    | ok a =>
      rw [hread] at h
      cases h
    | error fault =>
      rw [hread] at h
      cases h
      exact ⟨fault, spoils_of_ofText hread, rfl⟩
  · rintro ⟨fault, hspoils, rfl⟩
    rw [ofText_of_spoils hspoils]
    rfl

/-- **Grammar.** An address is read from a text if and only if the text is written in one of the
    forms, and it is the address that is written.  No text is written in two forms or for two
    addresses, and what is not written in any is a bad value, for what is wrong with it. -/
theorem parse_iff_written (input : String) :
    (∀ a, parse input = .ok a ↔ ∃ form, Written form input.toList a) ∧
    (∀ form form' a a', Written form input.toList a → Written form' input.toList a' →
      form = form' ∧ a = a') ∧
    ((∀ form a, ¬ Written form input.toList a) →
      ∃ fault, Spoils input input.toList fault ∧
        parse input = .error (.badValue fault.message)) := by
  refine ⟨fun a => parse_eq_ok_iff_written, fun _ _ _ _ h h' => h.unique h', fun hnone => ?_⟩
  cases hparse : parse input with
  | ok a =>
    obtain ⟨form, h⟩ := parse_eq_ok_iff_written.1 hparse
    exact absurd h (hnone form a)
  | error e =>
    obtain ⟨fault, hspoils, rfl⟩ := parse_eq_error_iff.1 hparse
    exact ⟨fault, hspoils, rfl⟩

/-- A port may have a sign and zeros before its digits. -/
example : parse "db1:+00080" = .ok ⟨"db1", some 80⟩ := rfl

end CommandWire.Address
