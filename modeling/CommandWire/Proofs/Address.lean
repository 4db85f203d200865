import CommandWire.Address
import CommandWire.Proofs.Text.Cut

namespace CommandWire.Address

/-!
# Addresses and their texts

Brackets around the host of a text end at the first closing one, and a host without brackets must not
begin with an opening one.  The text of an address has brackets if the host holds a colon, whatever
else it holds, and so not every text of an address is read back.

* `port?_portChars` — a port is read back from its digits.
* `Spells` — how host and port stand in a text; `parts_eq_ok_iff` says that this is what is found.
* `ofText_eq_ok_iff` — the texts of which an address is read.
* `Legible` — an address whose text has its brackets where they are looked for.
* `parse_text_eq_ok_iff` — the addresses that are read back from their own texts.
* `parse_text_iff_of_parse` — what becomes of an address that was read from some text and is sent
  again.
-/

variable {input : String} {a b : Address}

/-! ### Ports -/

/-- A number is read from its own digits. -/
theorem digits?_toDigits (n : Nat) : digits? (Nat.toDigits 10 n) = some n := by
  have hall : (Nat.toDigits 10 n).all Char.isDigit = true :=
    List.all_eq_true.2 fun c hc => Nat.isDigit_of_mem_toDigits (by decide) (by decide) hc
  have hvalue : (Nat.toDigits 10 n).foldl (fun n c => 10 * n + (c.toNat - 48)) 0 = n :=
    Nat.ofDigitChars_toDigits (by decide) (by decide)
  unfold digits?
  split
  · next hnil => exact absurd hnil Nat.toDigits_ne_nil
  · rw [if_pos hall, hvalue]

/-- The digits of a port. -/
def portChars (n : UInt16) : List Char := Nat.toDigits 10 n.toNat

/-- A port is written in its decimal digits. -/
theorem toList_toString_port (n : UInt16) : (toString n.toNat).toList = portChars n := by
  show (Nat.repr n.toNat).toList = _
  rw [Nat.repr_eq_ofList_toDigits, String.toList_ofList, portChars]

/-- Nothing but digits stands in a port that is written. -/
theorem isDigit_of_mem_portChars {n : UInt16} {c : Char} (h : c ∈ portChars n) :
    c.isDigit = true :=
  Nat.isDigit_of_mem_toDigits (by decide) (by decide) h

/-- What is no digit does not stand in the text of a port. -/
theorem not_mem_portChars {n : UInt16} {c : Char} (hc : c.isDigit = false) : c ∉ portChars n := by
  intro h
  rw [isDigit_of_mem_portChars h] at hc
  cases hc

/-- A port is read from what is written for it. -/
theorem port?_portChars (n : UInt16) : port? (portChars n) = some n := by
  have hn : n.toNat < 65536 := n.toNat_lt
  have hplus : '+' ∉ portChars n := not_mem_portChars (by decide)
  unfold port?
  split
  · next rest heq =>
    rw [heq] at hplus
    exact absurd List.mem_cons_self hplus
  · show (digits? (Nat.toDigits 10 n.toNat)).bind _ = _
    rw [digits?_toDigits, Option.bind_some, if_pos hn, UInt16.ofNat_toNat]

/-- What is read as a number holds digits only. -/
theorem isDigit_of_digits? {cs : List Char} {n : Nat} (h : digits? cs = some n) :
    ∀ c ∈ cs, c.isDigit = true := by
  unfold digits? at h
  split at h
  · cases h
  · split at h
    · next hall => exact List.all_eq_true.1 hall
    · cases h

/-- A port is digits, and a plus sign may precede them. -/
theorem isDigit_of_port? {cs : List Char} {n : UInt16} (h : port? cs = some n) :
    ∀ c ∈ cs, c = '+' ∨ c.isDigit = true := by
  unfold port? at h
  obtain ⟨value, hvalue, -⟩ := Option.bind_eq_some_iff.1 h
  intro c hc
  split at hvalue
  · next rest =>
    rcases List.mem_cons.1 hc with rfl | hc
    · exact .inl rfl
    · exact .inr (isDigit_of_digits? hvalue c hc)
  · exact .inr (isDigit_of_digits? hvalue c hc)

/-- What is read as a port holds digits, and a plus sign at most beside them. -/
theorem not_mem_of_port? {cs : List Char} {n : UInt16} {c : Char} (h : port? cs = some n)
    (hplus : c ≠ '+') (hdigit : c.isDigit = false) : c ∉ cs := by
  intro hmem
  rcases isDigit_of_port? h c hmem with rfl | hc
  · exact hplus rfl
  · rw [hdigit] at hc
    cases hc

/-! ### Parts of a text -/

/-- How host and port stand in a text. -/
inductive Spells : List Char → Parts → Prop
  /-- A host in brackets. -/
  | bracketed {host : List Char} (hclosing : ']' ∉ host) :
      Spells ('[' :: (host ++ [']'])) ⟨host, none⟩
  /-- A host in brackets, and a port. -/
  | bracketedPort {host : List Char} (port : List Char) (hclosing : ']' ∉ host) :
      Spells ('[' :: (host ++ ']' :: ':' :: port)) ⟨host, some port⟩
  /-- A host and a port, with the only colon between them. -/
  | joined {host port : List Char} (hhost : ':' ∉ host) (hport : ':' ∉ port)
      (hopening : host.head? ≠ some '[') : Spells (host ++ ':' :: port) ⟨host, some port⟩
  /-- A host alone, without a colon or with several. -/
  | alone {host : List Char} (hcolons : host.count ':' ≠ 1) (hopening : host.head? ≠ some '[') :
      Spells host ⟨host, none⟩

/-- A text that begins with a bracket is cut at the closing one. -/
theorem parts_of_bracket {cs : List Char} (h : input.toList = '[' :: cs) :
    parts input = bracketedParts input cs := by
  unfold parts
  split
  · next heq =>
    rw [heq] at h
    cases h
    rfl
  · next hne => exact absurd h (hne cs)

/-- Any other text is cut at its colon. -/
theorem parts_of_head_ne (h : input.toList.head? ≠ some '[') :
    parts input = .ok (plainParts input.toList) := by
  unfold parts
  split
  · next heq => exact absurd (congrArg List.head? heq) h
  · rfl

/-- A colon opens no bracket. -/
theorem head?_append_colon_ne (host port : List Char) :
    (host ++ ':' :: port).head? ≠ some '[' ↔ host.head? ≠ some '[' := by
  cases host with
  | nil => simp
  | cons c host => rfl

/-- The host ends at the first closing bracket, and nothing but a port follows. -/
theorem spells_of_bracketedParts {cs : List Char} {p : Parts}
    (h : bracketedParts input cs = .ok p) : Spells ('[' :: cs) p := by
  by_cases hmem : ']' ∈ cs
  · obtain ⟨host, after, rfl, hhost⟩ := List.eq_append_cons_of_mem hmem
    rw [bracketedParts, Cut.takeWhile_append after hhost, Cut.dropWhile_append after hhost] at h
    split at h
    · next heq => cases heq
    · next heq =>
      cases heq
      cases h
      exact .bracketed hhost
    · next port heq =>
      cases heq
      cases h
      exact .bracketedPort port hhost
    · cases h
  · rw [bracketedParts, Cut.dropWhile_of_not_mem hmem] at h
    cases h

/-- Behind the closing bracket and a colon stands the port. -/
theorem bracketedParts_port {host : List Char} (port : List Char) (h : ']' ∉ host) :
    bracketedParts input (host ++ ']' :: ':' :: port) = .ok ⟨host, some port⟩ := by
  rw [bracketedParts, Cut.takeWhile_append _ h, Cut.dropWhile_append _ h]
  rfl

/-- Without anything behind the closing bracket there is no port. -/
theorem bracketedParts_host {host : List Char} (h : ']' ∉ host) :
    bracketedParts input (host ++ [']']) = .ok ⟨host, none⟩ := by
  rw [bracketedParts, Cut.takeWhile_append _ h, Cut.dropWhile_append _ h]

/-- A colon that is the only one stands before the port. -/
theorem spells_plainParts {cs : List Char} (hopening : cs.head? ≠ some '[') :
    Spells cs (plainParts cs) := by
  unfold plainParts
  split
  · next hcount =>
    have hmem : ':' ∈ cs := List.count_pos_iff.1 (by omega)
    obtain ⟨host, port, rfl, hhost⟩ := List.eq_append_cons_of_mem hmem
    rw [Cut.takeWhile_append port hhost, Cut.dropWhile_append port hhost]
    have hport : port.count ':' = 0 := by
      rw [List.count_append, List.count_cons_self] at hcount
      omega
    exact .joined hhost (List.count_eq_zero.1 hport) ((head?_append_colon_ne host port).1 hopening)
  · next hcount => exact .alone hcount hopening

/-- **Parts.** Host and port are found as they stand in the text. -/
theorem parts_eq_ok_iff {p : Parts} : parts input = .ok p ↔ Spells input.toList p := by
  constructor
  · intro h
    by_cases hopening : input.toList.head? = some '['
    · obtain ⟨cs, hcs⟩ := List.head?_eq_some_iff.1 hopening
      rw [parts_of_bracket hcs] at h
      rw [hcs]
      exact spells_of_bracketedParts h
    · rw [parts_of_head_ne hopening] at h
      cases h
      exact spells_plainParts hopening
  · generalize hcs : input.toList = cs
    intro h
    -- each form is found again, because no closing bracket and no colon stands where it would be
    -- taken for the one that is looked for.
    cases h with
    | bracketed hclosing => rw [parts_of_bracket hcs, bracketedParts_host hclosing]
    | bracketedPort port hclosing => rw [parts_of_bracket hcs, bracketedParts_port port hclosing]
    | @joined host port hhost hport hopening =>
      have hopen : input.toList.head? ≠ some '[' := by
        rw [hcs, head?_append_colon_ne]
        exact hopening
      have hcount : (host ++ ':' :: port).count ':' = 1 := by
        rw [List.count_append, List.count_cons_self, List.count_eq_zero.2 hhost,
          List.count_eq_zero.2 hport]
      rw [parts_of_head_ne hopen, hcs, plainParts, if_pos hcount, Cut.takeWhile_append port hhost,
        Cut.dropWhile_append port hhost]
      rfl
    | alone hcolons hopening =>
      rw [parts_of_head_ne (hcs ▸ hopening), hcs, plainParts, if_neg hcolons]

/-! ### Reading an address -/

/-- The address that the parts of a text stand for. -/
structure Parts.Names (p : Parts) (a : Address) : Prop where
  host_eq : p.host = a.host.toList
  host_ne : p.host ≠ []
  port_eq : p.port.map port? = a.port.map some

/-- **Reading.** An address is read when host and port are found, the host is not empty, and the
    port is a number of a port. -/
theorem ofText_eq_ok_iff :
    ofText input = .ok a ↔ ∃ p, Spells input.toList p ∧ p.Names a := by
  simp only [← parts_eq_ok_iff]
  unfold ofText
  cases parts input with
  | error fault => exact ⟨nofun, nofun⟩
  | ok p =>
    dsimp only [bind, Except.bind]
    constructor
    · intro h
      refine ⟨p, rfl, ?_⟩
      split at h
      · cases h
      next hhost =>
      rw [List.isEmpty_iff] at hhost
      split at h
      · next hport =>
        cases h
        exact ⟨String.toList_ofList.symm, hhost, by rw [hport]; rfl⟩
      · next digits hport =>
        split at h
        · next n hn =>
          cases h
          exact ⟨String.toList_ofList.symm, hhost, by rw [hport, Option.map_some, hn]; rfl⟩
        · cases h
    · rintro ⟨q, hq, hhost, hne, hport⟩
      cases hq
      obtain ⟨host, port⟩ := a
      rw [if_neg (mt List.isEmpty_iff.1 hne), hhost, String.ofList_toList]
      cases port with
      | none =>
        rw [Option.map_none, Option.map_eq_none_iff] at hport
        rw [hport]
      | some n =>
        obtain ⟨digits, hdigits, hn⟩ := Option.map_eq_some_iff.1 hport
        rw [hdigits]
        dsimp only
        rw [hn]

/-- An address is read from the texts that spell its parts, and from no others. -/
theorem parse_eq_ok_iff : parse input = .ok a ↔ ∃ p, Spells input.toList p ∧ p.Names a := by
  rw [← ofText_eq_ok_iff, parse]
  cases ofText input with
  | error fault => exact ⟨nofun, nofun⟩
  | ok b =>
    constructor
    · intro h
      cases h
      rfl
    · intro h
      cases h
      rfl

/-- Every refusal is a bad value, and its text is that of a fault. -/
theorem exists_fault_of_parse {e : ProtocolError} (h : parse input = .error e) :
    ∃ fault : Fault, e = .badValue fault.message := by
  unfold parse at h
  cases hread : ofText input with
  | ok b =>
    rw [hread] at h
    cases h
  | error fault =>
    rw [hread] at h
    cases h
    exact ⟨fault, rfl⟩

/-- A host that is read is not empty. -/
theorem host_ne_of_parse (h : parse input = .ok a) : a.host ≠ "" := by
  obtain ⟨p, -, hnames⟩ := parse_eq_ok_iff.1 h
  have hne := hnames.host_ne
  rw [hnames.host_eq] at hne
  exact mt String.toList_eq_nil_iff.2 hne

/-! ### The text of an address -/

/-- What follows the host in the text of an address. -/
def portSuffix (a : Address) : List Char :=
  match a.port with
  | none => []
  | some n => ':' :: portChars n

/-- How an address is written: its host, between brackets if there is a colon in it, and its port.
    -/
theorem toList_text (a : Address) :
    a.text.toList =
      (if ':' ∈ a.host.toList then '[' :: (a.host.toList ++ [']']) else a.host.toList) ++
        a.portSuffix := by
  have hsuffix : a.text.toList =
      (if a.host.toList.contains ':' then "[" ++ a.host ++ "]" else a.host).toList ++
        a.portSuffix := by
    rw [text, String.toList_append]
    congr 1
    unfold portSuffix
    cases a.port with
    | none => rfl
    | some n =>
      dsimp only
      rw [String.toList_append, toList_toString_port]
      rfl
  rw [hsuffix]
  split
  · next h =>
    rw [if_pos (List.contains_iff_mem.1 h), String.toList_append, String.toList_append]
    rfl
  · next h => rw [if_neg (mt List.contains_iff_mem.2 h)]

/-- An address whose text has its brackets where they are looked for: those that are written are not
    closed early, and none is missing around a host that begins with one. -/
structure Legible (a : Address) : Prop where
  not_closed : ':' ∈ a.host.toList → ']' ∉ a.host.toList
  not_opened : ':' ∉ a.host.toList → a.host.toList.head? ≠ some '['

/-- A legible address is written as its host and its port. -/
theorem Legible.spells_text (h : a.Legible) :
    Spells a.text.toList ⟨a.host.toList, a.port.map portChars⟩ := by
  rw [toList_text]
  unfold portSuffix
  by_cases hcolon : ':' ∈ a.host.toList
  · have hclosing : ']' ∉ a.host.toList := h.not_closed hcolon
    rw [if_pos hcolon]
    cases a.port with
    | none =>
      rw [List.append_nil]
      exact .bracketed hclosing
    | some n =>
      rw [List.cons_append, List.append_assoc]
      exact .bracketedPort (portChars n) hclosing
  · have hopening : a.host.toList.head? ≠ some '[' := h.not_opened hcolon
    rw [if_neg hcolon]
    cases a.port with
    | none =>
      have hcount : a.host.toList.count ':' ≠ 1 := by
        rw [List.count_eq_zero.2 hcolon]
        decide
      rw [List.append_nil]
      exact .alone hcount hopening
    | some n => exact .joined hcolon (not_mem_portChars (by decide)) hopening

/-- No bracket stands in the port. -/
theorem not_mem_portSuffix (a : Address) : ']' ∉ a.portSuffix := by
  unfold portSuffix
  cases a.port with
  | none => exact List.not_mem_nil
  | some n =>
    rw [List.mem_cons, not_or]
    exact ⟨by decide, not_mem_portChars (by decide)⟩

/-! ### Reading the text of an address -/

/-- Where an address is read from a text that begins with a bracket, the bracket is closed once. -/
theorem Spells.count_closing {cs : List Char} {p : Parts} (h : Spells cs p) (hp : p.Names b)
    (hopening : cs.head? = some '[') : ']' ∉ b.host.toList ∧ cs.count ']' = 1 := by
  rw [← hp.host_eq]
  cases h with
  | @bracketed host hclosing =>
    refine ⟨hclosing, ?_⟩
    simp [List.count_eq_zero.2 hclosing]
  | @bracketedPort host port hclosing =>
    have hport : ']' ∉ port := by
      obtain ⟨n, -, hn⟩ := Option.map_eq_some_iff.1 hp.port_eq.symm
      exact not_mem_of_port? hn.symm (by decide) rfl
    refine ⟨hclosing, ?_⟩
    simp [List.count_eq_zero.2 hclosing, List.count_eq_zero.2 hport]
  | @joined host port _ _ hhost => exact absurd hopening ((head?_append_colon_ne host port).2 hhost)
  | alone _ hhost => exact absurd hopening hhost

/-- A host that begins with a bracket was in brackets. -/
theorem Spells.not_closing {cs : List Char} {p : Parts} (h : Spells cs p)
    (hopening : p.host.head? = some '[') : ']' ∉ p.host := by
  cases h with
  | bracketed hclosing => exact hclosing
  | bracketedPort _ hclosing => exact hclosing
  | joined _ _ hhost => exact absurd hopening hhost
  | alone _ hhost => exact absurd hopening hhost

/-- Brackets that are written must not be closed by the host. -/
theorem not_closed_of_parse_text (h : parse a.text = .ok b) (hcolon : ':' ∈ a.host.toList) :
    ']' ∉ a.host.toList := by
  obtain ⟨p, hp, hnames⟩ := parse_eq_ok_iff.1 h
  rw [toList_text, if_pos hcolon] at hp
  -- the text ends with a closing bracket and a port, and so the host cannot hold another one.
  have hcount := (hp.count_closing hnames rfl).2
  rw [List.count_append, List.count_eq_zero.2 a.not_mem_portSuffix, List.count_cons_of_ne (by decide),
    List.count_append, List.count_singleton_self] at hcount
  exact List.count_eq_zero.1 (by omega)

/-- Brackets that are not written are not missed only if the host closes one, and then another host
    is read. -/
theorem closing_of_parse_text (h : parse a.text = .ok b) (hcolon : ':' ∉ a.host.toList)
    (hopening : a.host.toList.head? = some '[') : ']' ∈ a.host.toList ∧ ']' ∉ b.host.toList := by
  obtain ⟨p, hp, hnames⟩ := parse_eq_ok_iff.1 h
  rw [toList_text, if_neg hcolon] at hp
  have hfirst : (a.host.toList ++ a.portSuffix).head? = some '[' := by
    rw [List.head?_append, hopening, Option.some_or]
  obtain ⟨hhost, hcount⟩ := hp.count_closing hnames hfirst
  rw [List.count_append, List.count_eq_zero.2 a.not_mem_portSuffix] at hcount
  exact ⟨List.count_pos_iff.1 (by omega), hhost⟩

/-- **Round trip.** An address is read back from its text if and only if its host is not empty and
    its brackets stand where they are looked for. -/
theorem parse_text_eq_ok_iff : parse a.text = .ok a ↔ a.host ≠ "" ∧ a.Legible := by
  constructor
  · intro h
    refine ⟨host_ne_of_parse h, not_closed_of_parse_text h, fun hcolon hopening => ?_⟩
    obtain ⟨hclosing, hnot⟩ := closing_of_parse_text h hcolon hopening
    exact hnot hclosing
  · rintro ⟨hhost, hlegible⟩
    refine parse_eq_ok_iff.2 ⟨_, hlegible.spells_text, rfl, mt String.toList_eq_nil_iff.1 hhost, ?_⟩
    show (a.port.map portChars).map port? = a.port.map some
    rw [Option.map_map]
    exact congrArg (fun f => a.port.map f) (funext port?_portChars)

/-- What was read from some text is read from its own in no other way, if at all. -/
theorem legible_of_parse_text (h : parse input = .ok a) (hb : parse a.text = .ok b) :
    a.Legible where
  not_closed := not_closed_of_parse_text hb
  not_opened hcolon hopening := by
    obtain ⟨p, hp, hnames⟩ := parse_eq_ok_iff.1 h
    rw [← hnames.host_eq] at hopening
    have hnot := hp.not_closing hopening
    rw [hnames.host_eq] at hopening hnot
    exact hnot (closing_of_parse_text hb hcolon hopening).1

/-- **Addresses that are sent again.** An address that was read from some text is read back from its
    own text if and only if that has its brackets where they are looked for: the host holds no closing
    bracket if it holds a colon, and does not begin with an opening one if it holds none.  Otherwise
    the text is refused; it is never read as another address. -/
theorem parse_text_iff_of_parse (h : parse input = .ok a) :
    (parse a.text = .ok a ↔ a.Legible) ∧
    (¬ a.Legible → ∃ fault : Fault, parse a.text = .error (.badValue fault.message)) := by
  have hhost : a.host ≠ "" := host_ne_of_parse h
  refine ⟨⟨fun hread => (parse_text_eq_ok_iff.1 hread).2, fun hlegible => ?_⟩, fun hnot => ?_⟩
  · exact parse_text_eq_ok_iff.2 ⟨hhost, hlegible⟩
  · cases hread : parse a.text with
    | ok b => exact absurd (legible_of_parse_text h hread) hnot
    | error e =>
      obtain ⟨fault, rfl⟩ := exists_fault_of_parse hread
      exact ⟨fault, rfl⟩

/-- The text of the address has brackets, as the text that it was read from. -/
theorem parse_text_iff_of_parse_brackets :
    parse "[fe80::1]:27018" = .ok ⟨"fe80::1", some 27018⟩ ∧
      parse (text ⟨"fe80::1", some 27018⟩) = .ok ⟨"fe80::1", some 27018⟩ := by
  have hread : parse "[fe80::1]:27018" = .ok ⟨"fe80::1", some 27018⟩ := rfl
  exact ⟨hread, (parse_text_iff_of_parse hread).1.2 ⟨by decide, by decide⟩⟩

/-- The closing bracket of a host without brackets closes those of its text. -/
theorem not_forall_parse_text : ¬ ∀ input a, parse input = .ok a → parse a.text = .ok a := by
  intro h
  have hread : parse "::1]" = .ok ⟨"::1]", none⟩ := rfl
  have hsent := (parse_text_eq_ok_iff.1 (h _ _ hread)).2
  exact hsent.not_closed (by decide) (by decide)

end CommandWire.Address
