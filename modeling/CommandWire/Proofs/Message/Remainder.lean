import CommandWire.Proofs.Field.Read
import CommandWire.Proofs.Message.Query

namespace CommandWire.Query

/-!
# What a query is read from

Every part of a query is read from its own octets and from no others, and so a body that is read is
flags, a name up to a zero octet, two numbers, a document and at most one more, side by side.  The
reader stops there: when there is a selector, nothing looks at what follows it.

* `takeNumber_eq_ok_iff`, `takeFullName_eq_ok_iff`, `takeDocument_eq_ok_iff` — a part is read from
  octets that begin with its own, and what follows them is left.
* `readSelector_eq_ok_iff` — a selector is read from its octets and anything after them, and none is
  read from no octets.
* `Consumed` — a body that is the parts of a query and nothing else.
* `Spells` — a body as the parts of a query and what is left after them; `Spells.consumed_iff` says
  when it is consumed.
* `decode_spells_iff` — the bodies that a query is read from.
-/

variable {bytes rest : List UInt8}

/-! ### Parts of a body -/

/-- A word is read from its own four octets. -/
theorem takeNumber_eq_ok_iff {part : Part} {n : Int32} :
    takeNumber part bytes = .ok (n, rest) ↔ bytes = LittleEndian.ofInt32 n ++ rest := by
  rw [← Octets.takeInt32?_eq_some_iff, takeNumber]
  cases Octets.takeInt32? bytes with
  | none =>
    constructor
    · intro h
      cases h
    · intro h
      cases h
  | some found => rw [Except.ok.injEq, Option.some.injEq]

/-- **Names.** A name is read from its octets before a zero octet, and it holds no NUL. -/
theorem takeFullName_eq_ok_iff {name : String} :
    takeFullName bytes = .ok (name, rest) ↔
      '\x00' ∉ name.toList ∧ bytes = Utf8.encode name ++ 0 :: rest := by
  constructor
  · intro h
    unfold takeFullName at h
    split at h
    · cases h
    next content rest' hcontent =>
    split at h
    next name' hname =>
      cases h
      obtain ⟨hzero, rfl⟩ := Octets.takeUntilNul?_eq_some_iff.1 hcontent
      obtain rfl := Utf8.decode_eq_ok_iff.1 hname
      exact ⟨fun hmem => hzero ((Utf8.zero_mem_encode_iff name).2 hmem), rfl⟩
    · cases h
  · rintro ⟨hname, rfl⟩
    exact takeFullName_append hname rest

/-- **Documents.** A document is read from octets of its own. -/
theorem takeDocument_eq_ok_iff {part : Part} {d : Document} :
    takeDocument part bytes = .ok (d, rest) ↔
      ∃ octets, bytes = octets ++ rest ∧ Bson.decode octets = some d := by
  constructor
  · intro h
    unfold takeDocument at h
    split at h
    · cases h
    split at h
    · cases h
    split at h
    · cases h
    split at h
    · cases h
    next front rest' htake =>
    split at h
    next d' hdecode =>
      cases h
      obtain ⟨rfl, -⟩ := Octets.eq_append_of_take? htake
      exact ⟨front, rfl, hdecode⟩
    · cases h
  · rintro ⟨octets, rfl, hdecode⟩
    exact takeDocument_append part (Batch.whole_of_decode hdecode) hdecode rest

/-- **Selectors.** There is none when nothing is left, and else what follows it is not looked at. -/
theorem readSelector_eq_ok_iff {selector : Option Document} :
    readSelector bytes = .ok selector ↔
      selector = none ∧ bytes = [] ∨
        ∃ d octets left, selector = some d ∧ bytes = octets ++ left ∧
          Bson.decode octets = some d := by
  constructor
  · intro h
    unfold readSelector at h
    split at h
    next hempty =>
      cases h
      exact .inl ⟨rfl, List.isEmpty_iff.1 hempty⟩
    · cases htake : takeDocument .selector bytes with
      | error e =>
        rw [htake] at h
        cases h
      | ok found =>
        obtain ⟨octets, hbytes, hdecode⟩ := takeDocument_eq_ok_iff.1 htake
        rw [htake] at h
        cases h
        exact .inr ⟨found.1, octets, found.2, rfl, hbytes, hdecode⟩
  · rintro (⟨rfl, rfl⟩ | ⟨d, octets, left, rfl, rfl, hdecode⟩)
    · rfl
    · have hwhole := Batch.whole_of_decode hdecode
      have hleft : (octets ++ left).isEmpty = false := by
        rw [List.isEmpty_eq_false_iff, ← List.length_pos_iff, List.length_append]
        exact Nat.add_pos_left hwhole.length_pos _
      rw [readSelector, hleft, takeDocument_append .selector hwhole hdecode]
      rfl

/-! ### Bodies -/

/-- A body that is the parts of a query side by side and nothing else: flags, a name before a zero
    octet, two numbers, and one or two documents, each of which begins with its own length. -/
def Consumed (body : List UInt8) : Prop :=
  ∃ flags name skip count query selector,
    body = bodyOctets flags name skip count query selector ∧ '\x00' ∉ name.toList ∧
      Batch.Whole query ∧ (selector = [] ∨ Batch.Whole selector)

/-- A body is the parts of a query, with the octets of its documents, and then `left`.  There is
    neither a second document nor anything after it if the query has no selector. -/
structure Spells (q : Query) (query selector left body : List UInt8) : Prop where
  body_eq : body = bodyOctets q.flags q.fullName q.skip q.count query selector ++ left
  splittable : q.ns.Splittable
  name_noNul : '\x00' ∉ q.fullName.toList
  query_whole : Batch.Whole query
  query_eq : Bson.decode query = some q.query
  without_selector : q.selector = none → selector = [] ∧ left = []
  with_selector : ∀ d, q.selector = some d →
    Batch.Whole selector ∧ Bson.decode selector = some d

variable {q : Query} {query selector left body : List UInt8}

/-- What follows a body follows its selector. -/
theorem bodyOctets_append (flags skip count : Int32) (name : String) :
    bodyOctets flags name skip count query selector ++ left =
      bodyOctets flags name skip count query (selector ++ left) := by
  simp only [bodyOctets, List.append_assoc]

/-- What follows the first document of a body is determined by the body. -/
theorem bodyOctets_inj {flags flags' skip skip' count count' : Int32} {name name' : String}
    {query' selector' : List UInt8} (hname : '\x00' ∉ name.toList) (hname' : '\x00' ∉ name'.toList)
    (hquery : Batch.Whole query) (hquery' : Batch.Whole query')
    (h : bodyOctets flags name skip count query selector =
      bodyOctets flags' name' skip' count' query' selector') : selector = selector' := by
  have hwords : ∀ n n' : Int32,
      (LittleEndian.ofInt32 n).length = (LittleEndian.ofInt32 n').length := fun n n' => by
    rw [LittleEndian.length_ofInt32, LittleEndian.length_ofInt32]
  simp only [bodyOctets, List.append_assoc, List.cons_append, List.nil_append] at h
  -- the parts before it are taken away from both sides, one after another.
  have hafterFlags := List.append_inj_right h (hwords flags flags')
  have hafterName := congrArg takeFullName hafterFlags
  rw [takeFullName_append hname, takeFullName_append hname', Except.ok.injEq, Prod.mk.injEq]
    at hafterName
  have hafterSkip := List.append_inj_right hafterName.2 (hwords skip skip')
  have hafterCount := List.append_inj_right hafterSkip (hwords count count')
  exact (hquery.append_inj hquery' hafterCount).2

/-- **What is consumed.** A body that spells a query is consumed if and only if nothing is left. -/
theorem Spells.consumed_iff (h : Spells q query selector left body) :
    Consumed body ↔ left = [] := by
  constructor
  · rintro ⟨flags, name, skip, count, query', selector', hbody, hname, hquery, hselector⟩
    rw [h.body_eq, bodyOctets_append] at hbody
    have hrest : selector ++ left = selector' :=
      bodyOctets_inj h.name_noNul hname h.query_whole hquery hbody
    cases hfound : q.selector with
    | none => exact (h.without_selector hfound).2
    | some d =>
      obtain ⟨hwhole, -⟩ := h.with_selector d hfound
      rcases hselector with rfl | hwhole'
      · exact (List.append_eq_nil_iff.1 hrest).2
      · -- a second document ends where its length says, and so it is the selector.
        exact (hwhole.append_inj hwhole' (hrest.trans (List.append_nil selector').symm)).2
  · rintro rfl
    refine ⟨q.flags, q.fullName, q.skip, q.count, query, selector, ?_, h.name_noNul, h.query_whole,
      ?_⟩
    · rw [h.body_eq, List.append_nil]
    · cases hfound : q.selector with
      | none => exact .inl (h.without_selector hfound).1
      | some d => exact .inr (h.with_selector d hfound).1

/-- What follows the selector makes no difference to what is read. -/
theorem Spells.readSelector_eq (h : Spells q query selector left body) :
    readSelector (selector ++ left) = .ok q.selector := by
  rw [readSelector_eq_ok_iff]
  cases hfound : q.selector with
  | none =>
    obtain ⟨rfl, rfl⟩ := h.without_selector hfound
    exact .inl ⟨rfl, rfl⟩
  | some d => exact .inr ⟨d, selector, left, rfl, rfl, (h.with_selector d hfound).2⟩

/-- A body that spells a query is read as it. -/
theorem Spells.decode_eq (h : Spells q query selector left body) : decode body = .ok q := by
  rw [h.body_eq, bodyOctets_append]
  exact decode_bodyOctets h.splittable h.name_noNul h.query_whole h.query_eq h.readSelector_eq

/-- Each part is read from what the part before it left. -/
theorem exists_spells_of_decode (h : decode body = .ok q) :
    ∃ query selector left, Spells q query selector left body := by
  obtain ⟨⟨flags, afterFlags⟩, hflags, h⟩ := bind_eq_ok.1 h
  obtain ⟨⟨name, afterName⟩, hname, h⟩ := bind_eq_ok.1 h
  obtain ⟨ns, hns, h⟩ := bind_eq_ok.1 h
  obtain ⟨⟨skip, afterSkip⟩, hskip, h⟩ := bind_eq_ok.1 h
  obtain ⟨⟨count, afterCount⟩, hcount, h⟩ := bind_eq_ok.1 h
  obtain ⟨⟨document, afterQuery⟩, hquery, h⟩ := bind_eq_ok.1 h
  obtain ⟨found, hselector, h⟩ := bind_eq_ok.1 h
  cases h
  obtain rfl := takeNumber_eq_ok_iff.1 hflags
  obtain ⟨hnul, rfl⟩ := takeFullName_eq_ok_iff.1 hname
  obtain ⟨hsplittable, rfl⟩ := Namespace.parse_eq_ok_iff.1 hns
  obtain rfl := takeNumber_eq_ok_iff.1 hskip
  obtain rfl := takeNumber_eq_ok_iff.1 hcount
  obtain ⟨query, rfl, hdecode⟩ := takeDocument_eq_ok_iff.1 hquery
  have hwhole := Batch.whole_of_decode hdecode
  -- what follows the query is the selector and what is left, or nothing at all.
  rcases readSelector_eq_ok_iff.1 hselector with
    ⟨rfl, rfl⟩ | ⟨d, selector, left, rfl, rfl, hselected⟩
  · refine ⟨query, [], [], ⟨?_, hsplittable, hnul, hwhole, hdecode, fun _ => ⟨rfl, rfl⟩, ?_⟩⟩
    · simp only [bodyOctets, fullName, List.append_assoc, List.cons_append, List.nil_append,
        List.append_nil]
    · rintro d ⟨⟩
  · refine ⟨query, selector, left, ⟨?_, hsplittable, hnul, hwhole, hdecode, ?_, ?_⟩⟩
    · simp only [bodyOctets, fullName, List.append_assoc, List.cons_append, List.nil_append]
    · rintro ⟨⟩
    · rintro _ ⟨⟩
      exact ⟨Batch.whole_of_decode hselected, hselected⟩

/-- **Exactness.** A query is read from a body if and only if the body is flags, the name of the
    query before a zero octet, two numbers, the document of the query and, if there is a selector,
    its document and anything after it.  The whole body is consumed if and only if nothing is
    there. -/
theorem decode_spells_iff (body : List UInt8) (q : Query) :
    decode body = .ok q ↔ ∃ query selector left, Spells q query selector left body ∧
      (Consumed body ↔ left = []) := by
  constructor
  · intro h
    obtain ⟨query, selector, left, hspells⟩ := exists_spells_of_decode h
    exact ⟨query, selector, left, hspells, hspells.consumed_iff⟩
  · rintro ⟨query, selector, left, hspells, -⟩
    exact hspells.decode_eq

/-- A query for everything in a database, with an empty selector. -/
def selecting : Query := ⟨0, ⟨"db", none⟩, 0, -1, [], some []⟩

/-- The octets of a document without fields. -/
def emptyOctets : List UInt8 := [5, 0, 0, 0, 0]

/-- The octets of the empty document are read as it. -/
theorem decode_emptyOctets : Bson.decode emptyOctets = some [] := by decide

/-- One octet after the selector is left over, and the query is read all the same. -/
theorem spells_selecting :
    Spells selecting emptyOctets emptyOctets [0]
      (bodyOctets 0 "db" 0 (-1) emptyOctets emptyOctets ++ [0]) where
  body_eq := rfl
  splittable := ⟨by decide, nofun⟩
  name_noNul := by decide
  query_whole := Batch.whole_of_decode decode_emptyOctets
  query_eq := decode_emptyOctets
  without_selector := nofun
  with_selector := by
    rintro _ ⟨⟩
    exact ⟨Batch.whole_of_decode decode_emptyOctets, decode_emptyOctets⟩

/-- A body with an octet after the selector is read, and it is not consumed. -/
theorem not_forall_consumed :
    ¬ ∀ (body : List UInt8) (q : Query), decode body = .ok q → Consumed body := by
  intro h
  have hleft := spells_selecting.consumed_iff.1 (h _ _ spells_selecting.decode_eq)
  cases hleft

end CommandWire.Query
