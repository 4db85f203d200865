import CommandWire.Member
import CommandWire.Proofs.Address
import CommandWire.Proofs.Field.Read
import CommandWire.Proofs.Number.Order

namespace CommandWire.Member

/-!
# Members that are read from documents

A member is read from a document field by field, and then it has to obey the rules for combinations
of options.  Both can be said without the reader, and together they say which members are read.

* `Valid` — the rules; `validated_eq_ok_iff` says that they are what is checked.
* `Describes` — what a document says about a member, which then is checked; `ofDocument_eq_ok_iff`
  says that a member is read if and only if the document describes it and it is valid.
* `Readable` — a document whose fields can be read; `Readable.exists_describes` and
  `Describes.unique` say that it describes one member.
* `ofDocument_valid` — which members are read, and which documents are accepted.
-/

variable {m n : Member} {d : Document}

/-! ### Valid members -/

/-- The greatest priority is a thousand. -/
theorem value?_maxPriority : maxPriority.value? = some 1000 := by
  have hview : maxPriority.view = .finite false (1000 * 2 ^ 43) (-43) := by decide
  rw [Binary64.value?, hview]
  norm_num

/-- The rules for combinations of options. -/
structure Valid (m : Member) : Prop where
  priority : ∃ q, m.priority.value? = some q ∧ 0 ≤ q ∧ q ≤ 1000
  votes : m.votes = 0 ∨ m.votes = 1
  delay : 0 ≤ m.delaySeconds
  passive : m.hidden ∨ 0 < m.delaySeconds ∨ m.arbiterOnly → m.priority.value? = some 0
  untagged : m.arbiterOnly → m.tags = []

/-- A number of votes in range is zero or one. -/
theorem votes_in_range_iff (n : Int32) : ¬ (n < 0 ∨ 1 < n) ↔ n = 0 ∨ n = 1 := by
  have hzero : (0 : Int32).toInt = 0 := by decide
  have hone : (1 : Int32).toInt = 1 := by decide
  rw [Int32.lt_iff_toInt_lt, Int32.lt_iff_toInt_lt, ← Int32.toInt_inj, ← Int32.toInt_inj, hzero,
    hone]
  omega

/-- A rule is passed by if its fault is not found. -/
theorem ite_some_eq_none {α : Type} {c : Prop} [Decidable c] {x : α} {rest : Option α} :
    (if c then some x else rest) = none ↔ ¬ c ∧ rest = none := by
  split
  · next h => exact iff_of_false nofun fun hnot => hnot.1 h
  · next h => exact ⟨fun hrest => ⟨h, hrest⟩, And.right⟩

/-- A priority in range is a number from zero to a thousand. -/
theorem priority_in_range_iff (x : Binary64) :
    (Binary64.zero.le x && x.le maxPriority) = true ↔ ∃ q, x.value? = some q ∧ 0 ≤ q ∧ q ≤ 1000 := by
  rw [Bool.and_eq_true, Binary64.between_iff Binary64.value?_zero value?_maxPriority]

/-- **Rules.** A configuration breaks no rule if and only if it is valid. -/
theorem fault?_eq_none_iff : m.fault? = none ↔ m.Valid := by
  -- the two rules that join flags, as they are checked and as they are meant.
  have hpassive :
      (!m.priority.isZero && (m.hidden || decide (0 < m.delaySeconds) || m.arbiterOnly)) = false ↔
        (m.hidden ∨ 0 < m.delaySeconds ∨ m.arbiterOnly → m.priority.value? = some 0) := by
    rw [← Binary64.isZero_iff]
    cases m.priority.isZero <;> cases m.hidden <;> cases m.arbiterOnly <;> simp
  have huntagged : (m.arbiterOnly && !m.tags.isEmpty) = false ↔ (m.arbiterOnly → m.tags = []) := by
    cases m.arbiterOnly <;> simp
  unfold fault?
  rw [ite_some_eq_none, ite_some_eq_none, ite_some_eq_none, ite_some_eq_none, ite_some_eq_none,
    Bool.not_eq_true', Bool.not_eq_false, priority_in_range_iff, votes_in_range_iff, Int64.not_lt,
    Bool.not_eq_true, hpassive, Bool.not_eq_true, huntagged]
  constructor
  · rintro ⟨hpriority, hvotes, hdelay, hpassive, huntagged, -⟩
    exact ⟨hpriority, hvotes, hdelay, hpassive, huntagged⟩
  · intro h
    exact ⟨h.priority, h.votes, h.delay, h.passive, h.untagged, rfl⟩

/-- A member is valid when its check gives it back. -/
theorem validated_eq_ok_iff : m.validated = .ok n ↔ m.Valid ∧ n = m := by
  rw [← fault?_eq_none_iff, validated]
  cases m.fault? <;> simp [eq_comm]

/-- Priority 0 is never elected. -/
theorem isElectable_of_value? (h : m.priority.value? = some 0) : m.isElectable = false := by
  have hrank : m.priority.rank = 0 :=
    (Binary64.ofRank_eq_zero_iff _).1 (Binary64.value?_eq_some_iff.1 h).2
  have hlt : Binary64.zero.lt m.priority = false := by
    rw [Bool.eq_false_iff, ne_eq, Binary64.lt_iff, hrank, Binary64.rank_zero]
    exact fun hlt => lt_irrefl _ hlt.2.2
  rw [isElectable, hlt, Bool.and_false]

/-! ### What a document says -/

/-- A tag as a named value. -/
def tagPair (t : String × String) : String × Value := (t.1, .string t.2)

/-- A tag is read from a text under its name. -/
theorem readTag_eq_ok_iff {p : String × Value} {t : String × String} :
    readTag p.1 p.2 = .ok t ↔ p = tagPair t := by
  obtain ⟨name, v⟩ := p
  obtain ⟨key, text⟩ := t
  unfold readTag tagPair
  split <;> simp_all

/-- Tags are read from texts only, all of them and in their order. -/
theorem mapM_readTag_eq_ok_iff {fields : Document} {tags : List (String × String)} :
    (fields.mapM fun p => readTag p.1 p.2) = .ok tags ↔ fields = tags.map tagPair := by
  rw [mapM_eq_ok_iff]
  simp only [readTag_eq_ok_iff]
  rw [← List.forall₂_map_right_iff, List.forall₂_eq_eq_eq]

/-- What a document says about the tags of a member. -/
def HoldsTags (d : Document) (tags : List (String × String)) : Prop :=
  d.get? "tags" = some (.document (tags.map tagPair)) ∨ d.get? "tags" = none ∧ tags = []

/-- What a document says about a member. -/
structure Describes (d : Document) (m : Member) : Prop where
  allowed : ∀ key ∈ d.keys, key ∈ allowedNames
  id : d.get? "_id" = some (.int32 m.id)
  host : ∃ text, d.get? "host" = some (.string text) ∧ Address.parse text = .ok m.host
  arbiterOnly : d.HoldsFlag "arbiterOnly" false m.arbiterOnly
  buildIndexes : d.HoldsFlag "buildIndexes" true m.buildIndexes
  hidden : d.HoldsFlag "hidden" false m.hidden
  priority : ∃ n, d.HoldsNumber "priority" (.double Binary64.one) n ∧ n.toDouble = m.priority
  delay : ∃ n, d.HoldsNumber "slaveDelay" (.int32 0) n ∧ n.toInt64 = m.delaySeconds
  votes : ∃ n, d.HoldsNumber "votes" (.int32 1) n ∧ n.toInt32 = m.votes
  tags : HoldsTags d m.tags

/-- Tags that are missing are no tags. -/
theorem readTags_eq_ok_iff {tags : List (String × String)} :
    (∃ fields, d.readOptional tagsField = .ok fields ∧
      ((fields.getD Document.empty).mapM fun p => readTag p.1 p.2) = .ok tags) ↔
      HoldsTags d tags := by
  simp only [Document.readOptional_document_eq_ok_iff, mapM_readTag_eq_ok_iff]
  constructor
  · rintro ⟨fields, hget, htags⟩
    cases fields with
    | none => exact .inr ⟨hget, List.map_eq_nil_iff.1 htags.symm⟩
    | some fields =>
      rw [Option.getD_some] at htags
      rw [htags] at hget
      exact .inl hget
  · rintro (hget | ⟨hget, rfl⟩)
    · exact ⟨some _, hget, rfl⟩
    · exact ⟨none, hget, rfl⟩

/-- A document holds one list of tags. -/
theorem HoldsTags.unique {tags others : List (String × String)} (h : HoldsTags d tags)
    (hothers : HoldsTags d others) : tags = others := by
  obtain ⟨fields, hfields, htags⟩ := readTags_eq_ok_iff.2 h
  obtain ⟨fields', hfields', hothers⟩ := readTags_eq_ok_iff.2 hothers
  rw [hfields, Except.ok.injEq] at hfields'
  rw [← hfields', htags] at hothers
  exact Except.ok.inj hothers

/-- A document describes one member. -/
theorem Describes.unique (hm : Describes d m) (hn : Describes d n) : m = n := by
  obtain ⟨text, htext, hhost⟩ := hm.host
  obtain ⟨text', htext', hhost'⟩ := hn.host
  obtain ⟨priority, hpriority, hpriority_eq⟩ := hm.priority
  obtain ⟨priority', hpriority', hpriority_eq'⟩ := hn.priority
  obtain ⟨delay, hdelay, hdelay_eq⟩ := hm.delay
  obtain ⟨delay', hdelay', hdelay_eq'⟩ := hn.delay
  obtain ⟨votes, hvotes, hvotes_eq⟩ := hm.votes
  obtain ⟨votes', hvotes', hvotes_eq'⟩ := hn.votes
  -- whatever a field says, it says one thing; what is made of it is the same then.
  have hid := hm.id
  rw [hn.id, Option.some.injEq, Value.int32.injEq] at hid
  rw [htext, Option.some.injEq, Value.string.injEq] at htext'
  rw [← htext', hhost, Except.ok.injEq] at hhost'
  rw [hpriority.unique hpriority', hpriority_eq'] at hpriority_eq
  rw [hdelay.unique hdelay', hdelay_eq'] at hdelay_eq
  rw [hvotes.unique hvotes', hvotes_eq'] at hvotes_eq
  have harbiter := hm.arbiterOnly.unique hn.arbiterOnly
  have hbuild := hm.buildIndexes.unique hn.buildIndexes
  have hhidden := hm.hidden.unique hn.hidden
  have htags := hm.tags.unique hn.tags
  cases m
  cases n
  simp_all

/-- A member that a document describes is checked. -/
theorem Describes.ofDocument_eq (h : Describes d m) : ofDocument d = m.validated := by
  obtain ⟨text, htext, hhost⟩ := h.host
  obtain ⟨priority, hpriority, hpriority_eq⟩ := h.priority
  obtain ⟨delay, hdelay, hdelay_eq⟩ := h.delay
  obtain ⟨votes, hvotes, hvotes_eq⟩ := h.votes
  obtain ⟨fields, hfields, htags⟩ := readTags_eq_ok_iff.2 h.tags
  have hallowed : d.onlyHas "MemberConfig" allowedNames = .ok () :=
    Document.onlyHas_eq_ok_iff.2 h.allowed
  have htext : d.read hostField = .ok text := Document.read_text_eq_ok_iff.2 htext
  have hid : d.read idField = .ok m.id := Document.read_int32_eq_ok_iff.2 h.id
  have harbiter : d.readFlag arbiterOnlyField false = .ok m.arbiterOnly :=
    Document.readFlag_eq_ok_iff.2 h.arbiterOnly
  have hbuild : d.readFlag buildIndexesField true = .ok m.buildIndexes :=
    Document.readFlag_eq_ok_iff.2 h.buildIndexes
  have hhidden : d.readFlag hiddenField false = .ok m.hidden :=
    Document.readFlag_eq_ok_iff.2 h.hidden
  have hpriority : d.readOr priorityField (.double Binary64.one) = .ok priority :=
    Document.readOr_number_eq_ok_iff.2 hpriority
  have hdelay : d.readOr delayField (.int32 0) = .ok delay :=
    Document.readOr_number_eq_ok_iff.2 hdelay
  have hvotes : d.readOr votesField (.int32 1) = .ok votes :=
    Document.readOr_number_eq_ok_iff.2 hvotes
  rw [ofDocument, hallowed, ok_bind, htext, ok_bind, hhost, ok_bind, hid, ok_bind, harbiter, ok_bind,
    hbuild, ok_bind, hhidden, ok_bind, hpriority, ok_bind, hdelay, ok_bind, hvotes, ok_bind, hfields,
    ok_bind, htags, ok_bind, hpriority_eq, hdelay_eq, hvotes_eq]

/-- **Reading.** A member is read if and only if the document describes it and it is valid. -/
theorem ofDocument_eq_ok_iff : ofDocument d = .ok m ↔ Describes d m ∧ m.Valid := by
  constructor
  · intro h
    unfold ofDocument at h
    simp only [bind_eq_ok] at h
    obtain ⟨_, hallowed, text, htext, host, hhost, id, hid, arbiterOnly, harbiter, buildIndexes,
      hbuild, hidden, hhidden, priority, hpriority, delay, hdelay, votes, hvotes, fields, hfields,
      tags, htags, h⟩ := h
    -- the last step is the check, which changes nothing.
    obtain ⟨hvalid, rfl⟩ := validated_eq_ok_iff.1 h
    exact ⟨⟨Document.onlyHas_eq_ok_iff.1 hallowed, Document.read_int32_eq_ok_iff.1 hid,
      ⟨text, Document.read_text_eq_ok_iff.1 htext, hhost⟩, Document.readFlag_eq_ok_iff.1 harbiter,
      Document.readFlag_eq_ok_iff.1 hbuild, Document.readFlag_eq_ok_iff.1 hhidden,
      ⟨priority, Document.readOr_number_eq_ok_iff.1 hpriority, rfl⟩,
      ⟨delay, Document.readOr_number_eq_ok_iff.1 hdelay, rfl⟩,
      ⟨votes, Document.readOr_number_eq_ok_iff.1 hvotes, rfl⟩,
      readTags_eq_ok_iff.1 ⟨fields, hfields, htags⟩⟩, hvalid⟩
  · rintro ⟨h, hvalid⟩
    rw [h.ofDocument_eq]
    exact validated_eq_ok_iff.2 ⟨hvalid, rfl⟩

/-! ### Documents whose fields can be read -/

/-- Every field that is there holds a value of a kind that it is read from, and those are there
    without which no member is read. -/
structure Readable (d : Document) : Prop where
  allowed : ∀ key ∈ d.keys, key ∈ allowedNames
  id : ∃ id, d.get? "_id" = some (.int32 id)
  host : ∃ text host, d.get? "host" = some (.string text) ∧ Address.parse text = .ok host
  flags : ∀ name ∈ ["arbiterOnly", "buildIndexes", "hidden"], ∀ v, d.get? name = some v →
    v.kind ∈ .boolean :: Document.numericKinds
  numbers : ∀ name ∈ ["priority", "slaveDelay", "votes"], ∀ v, d.get? name = some v →
    v.kind ∈ Document.numericKinds
  tags : ∀ v, d.get? "tags" = some v → ∃ fields : Document, v = .document fields ∧
    ∀ p ∈ fields, p.2.kind = .string

/-- Texts under names are tags. -/
theorem exists_tagPair {fields : Document} (h : ∀ p ∈ fields, p.2.kind = .string) :
    ∃ tags : List (String × String), fields = tags.map tagPair := by
  induction fields with
  | nil => exact ⟨[], rfl⟩
  | cons p fields ih =>
    rw [List.forall_mem_cons] at h
    obtain ⟨name, v⟩ := p
    obtain ⟨tags, rfl⟩ := ih h.2
    cases v with
    | string text => exact ⟨(name, text) :: tags, rfl⟩
    | _ => cases h.1

/-- What can be read describes a member, valid or not. -/
theorem Readable.exists_describes (h : Readable d) : ∃ m, Describes d m := by
  have hflags := h.flags
  have hnumbers := h.numbers
  simp only [List.forall_mem_cons] at hflags hnumbers
  obtain ⟨harbiter, hbuild, hhidden, -⟩ := hflags
  obtain ⟨hpriority, hdelay, hvotes, -⟩ := hnumbers
  obtain ⟨id, hid⟩ := h.id
  obtain ⟨text, host, htext, hhost⟩ := h.host
  obtain ⟨arbiterOnly, harbiter⟩ := Document.exists_holdsFlag false harbiter
  obtain ⟨buildIndexes, hbuild⟩ := Document.exists_holdsFlag true hbuild
  obtain ⟨hidden, hhidden⟩ := Document.exists_holdsFlag false hhidden
  obtain ⟨priority, hpriority⟩ := Document.exists_holdsNumber (.double Binary64.one) hpriority
  obtain ⟨delay, hdelay⟩ := Document.exists_holdsNumber (.int32 0) hdelay
  obtain ⟨votes, hvotes⟩ := Document.exists_holdsNumber (.int32 1) hvotes
  have htags : ∃ tags, HoldsTags d tags := by
    cases hget : d.get? "tags" with
    | none => exact ⟨[], .inr ⟨hget, rfl⟩⟩
    | some v =>
      obtain ⟨fields, rfl, hfields⟩ := h.tags v hget
      obtain ⟨tags, rfl⟩ := exists_tagPair hfields
      exact ⟨tags, .inl hget⟩
  obtain ⟨tags, htags⟩ := htags
  exact ⟨⟨id, host, arbiterOnly, buildIndexes, hidden, priority.toDouble, delay.toInt64,
    votes.toInt32, tags⟩, h.allowed, hid, ⟨text, htext, hhost⟩, harbiter, hbuild, hhidden,
    ⟨priority, hpriority, rfl⟩, ⟨delay, hdelay, rfl⟩, ⟨votes, hvotes, rfl⟩, htags⟩

/-- **Members from documents.** A member that is read is the one that the document describes, obeys
    every rule and passes the check again: its host is not empty, its priority is a number, and it is
    never elected while it is hidden, delayed or an arbiter.  Conversely, a document whose fields can
    be read describes one member, which is read if and only if it is valid. -/
theorem ofDocument_valid (d : Document) :
    (∀ m, ofDocument d = .ok m → Describes d m ∧ m.Valid ∧ m.validated = .ok m ∧
      m.host.host ≠ "" ∧ m.priority.isNaN = false ∧
      (m.hidden ∨ 0 < m.delaySeconds ∨ m.arbiterOnly → m.isElectable = false)) ∧
    (Readable d → ∃ m, (∀ n, Describes d n ↔ n = m) ∧ (ofDocument d = .ok m ↔ m.Valid)) := by
  constructor
  · intro m h
    obtain ⟨hdescribes, hvalid⟩ := ofDocument_eq_ok_iff.1 h
    obtain ⟨text, -, hhost⟩ := hdescribes.host
    obtain ⟨q, hq, -⟩ := hvalid.priority
    exact ⟨hdescribes, hvalid, validated_eq_ok_iff.2 ⟨hvalid, rfl⟩, Address.host_ne_of_parse hhost,
      Binary64.isNaN_of_value? hq, fun hpassive => isElectable_of_value? (hvalid.passive hpassive)⟩
  · intro h
    obtain ⟨m, hm⟩ := h.exists_describes
    refine ⟨m, fun n => ⟨fun hn => hn.unique hm, fun hn => hn ▸ hm⟩, ?_⟩
    rw [ofDocument_eq_ok_iff]
    exact and_iff_right hm

/-- A delayed member that names neither its votes nor its tags. -/
def delayedDocument : Document :=
  [("_id", .int32 2), ("host", .string "db2"), ("priority", .double Binary64.zero),
    ("slaveDelay", .int64 3600), ("hidden", .int32 1)]

/-- The document of the delayed member can be read. -/
theorem readable_delayedDocument : Readable delayedDocument where
  allowed := by decide
  id := ⟨2, rfl⟩
  host := ⟨"db2", ⟨"db2", none⟩, rfl, rfl⟩
  flags := by
    simp only [List.forall_mem_cons]
    refine ⟨nofun, nofun, ?_, List.forall_mem_nil _⟩
    rintro v ⟨⟩
    decide
  numbers := by
    simp only [List.forall_mem_cons]
    refine ⟨?_, ?_, nofun, List.forall_mem_nil _⟩
    · rintro v ⟨⟩
      decide
    · rintro v ⟨⟩
      decide
  tags := nofun

/-- A delayed member is valid and cannot become primary. -/
theorem ofDocument_valid_delayed :
    ∃ m, ofDocument delayedDocument = .ok m ∧ m.Valid ∧ m.isElectable = false := by
  have hread : ofDocument delayedDocument =
      .ok ⟨2, ⟨"db2", none⟩, false, true, true, Binary64.zero, 3600, 1, []⟩ := rfl
  obtain ⟨m, hdescribes, haccepted⟩ :=
    (ofDocument_valid delayedDocument).2 readable_delayedDocument
  obtain ⟨hdescribed, hvalid, -, -, -, hpassive⟩ := (ofDocument_valid delayedDocument).1 _ hread
  obtain rfl := (hdescribes _).1 hdescribed
  exact ⟨_, haccepted.2 hvalid, hvalid, hpassive (.inl rfl)⟩

end CommandWire.Member
