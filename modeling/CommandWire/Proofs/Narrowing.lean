import CommandWire.Proofs.Index
import CommandWire.Proofs.Member
import CommandWire.Proofs.Number.Count

namespace CommandWire

/-!
# Integers that lose their upper halves

The votes of a member and the version of an index have 32 bits, but the integer that a document holds
for them may have 64.  Only its lower half is looked at, by the rules for votes too, and so it is
read as it stands if and only if it fits.

* `Number.toInt32_of_integer?` — what is left in 32 bits of the integer that a number is.
* `bmod_eq_self_iff` — the integers of which nothing is lost.
* `Member.Describes.withVotes`, `Member.validated_withVotes` — a document with other votes, and which
  votes pass the check.
* `Index.Describes.withVersion` — a document with another version.
* `integers_narrowed` — what becomes of the integers.
-/

/-! ### Integers in 32 bits -/

/-- An integer loses its upper half. -/
theorem Number.toInt32_of_integer? {n : Number} {i : Int} (h : n.integer? = some i) :
    n.toInt32 = Int32.ofInt i := by
  cases n with
  | int32 x =>
    cases h
    exact (Int32.ofInt_toInt x).symm
  | int64 x =>
    cases h
    rw [← Int64.toInt32_ofInt, Int64.ofInt_toInt]
    rfl
  | double x => cases h

/-- The integers that 32 bits hold. -/
def FitsInt32 (i : Int) : Prop := -2 ^ 31 ≤ i ∧ i < 2 ^ 31

/-- The low 32 bits of an integer are the integer when it fits a word. -/
theorem bmod_eq_self_iff {i : Int} : i.bmod (2 ^ 32) = i ↔ FitsInt32 i := by
  unfold FitsInt32
  constructor
  · intro h
    have hlow : -((2 ^ 32 : Nat) / 2 : Int) ≤ i.bmod (2 ^ 32) := Int.le_bmod (by decide)
    have hhigh : i.bmod (2 ^ 32) < ((2 ^ 32 : Nat) + 1) / 2 := Int.bmod_lt (by decide)
    omega
  · rintro ⟨hlow, hhigh⟩
    exact Int.bmod_eq_of_le_mul_two (by omega) (by omega)

/-! ### Votes -/

namespace Member

variable {d : Document} {m : Member} {n : Number}

/-- The votes of a document decide the votes of the member and nothing else. -/
theorem Describes.withVotes (h : Describes d m) (n : Number) :
    Describes (d.insert "votes" n.toValue) (m.withVotes n.toInt32) where
  allowed := Document.forall_keys_insert _ h.allowed (by decide)
  id := (Document.get?_insert_of_ne d _ (by decide)).trans h.id
  host := by
    rw [Document.get?_insert_of_ne d _ (by decide)]
    exact h.host
  arbiterOnly := h.arbiterOnly.congr (Document.get?_insert_of_ne d _ (by decide))
  buildIndexes := h.buildIndexes.congr (Document.get?_insert_of_ne d _ (by decide))
  hidden := h.hidden.congr (Document.get?_insert_of_ne d _ (by decide))
  priority := by
    obtain ⟨priority, hpriority, hpriority_eq⟩ := h.priority
    exact ⟨priority, hpriority.congr (Document.get?_insert_of_ne d _ (by decide)), hpriority_eq⟩
  delay := by
    obtain ⟨delay, hdelay, hdelay_eq⟩ := h.delay
    exact ⟨delay, hdelay.congr (Document.get?_insert_of_ne d _ (by decide)), hdelay_eq⟩
  votes := ⟨n, .inl (Document.get?_insert_self d _ _), rfl⟩
  tags := by
    rw [HoldsTags, Document.get?_insert_of_ne d _ (by decide)]
    exact h.tags

/-- The rule for votes is the only one that looks at them, and it looks at what is left of them. -/
theorem Valid.validated_withVotes (h : m.Valid) (i : Int) :
    (m.withVotes (Int32.ofInt i)).validated =
      if i.bmod (2 ^ 32) = 0 ∨ i.bmod (2 ^ 32) = 1 then .ok (m.withVotes (Int32.ofInt i))
      else .error (.badValue (Fault.votesOutOfRange (Int32.ofInt i)).message) := by
  have hrange : Int32.ofInt i = 0 ∨ Int32.ofInt i = 1 ↔
      i.bmod (2 ^ 32) = 0 ∨ i.bmod (2 ^ 32) = 1 := by
    rw [← Int32.toInt_inj, ← Int32.toInt_inj, Int32.toInt_ofInt]
    rfl
  split
  · next hvotes =>
    exact validated_eq_ok_iff.2 ⟨⟨h.priority, hrange.2 hvotes, h.delay, h.passive, h.untagged⟩, rfl⟩
  · next hvotes =>
    have hfault : (m.withVotes (Int32.ofInt i)).fault? =
        some (.votesOutOfRange (Int32.ofInt i)) := by
      -- the rule for the priority comes first, and it is kept.
      have hpriority := (priority_in_range_iff m.priority).2 h.priority
      have hout : Int32.ofInt i < 0 ∨ 1 < Int32.ofInt i :=
        not_not.1 fun hin => hvotes (hrange.1 ((votes_in_range_iff _).1 hin))
      rw [fault?, withVotes, hpriority]
      exact if_pos hout
    rw [validated, hfault]

end Member

/-! ### Versions -/

namespace Index

variable {d : Document} {x : Index}

/-- A name that is known is not kept among the others, whatever its value. -/
theorem filter_insert (d : Document) {name : String} (v : Value) (h : name ∈ knownNames) :
    (d.insert name v).filter (fun p => !knownNames.contains p.1) =
      d.filter fun p => !knownNames.contains p.1 := by
  have hknown : knownNames.contains name = true := List.contains_iff_mem.2 h
  induction d with
  | nil => rw [Document.insert_nil, List.filter_cons, hknown]; rfl
  | cons p rest ih =>
    obtain ⟨key, w⟩ := p
    rw [Document.insert]
    split
    · next hkey =>
      subst hkey
      rw [List.filter_cons, List.filter_cons, hknown]
      rfl
    · rw [List.filter_cons, List.filter_cons, ih]

/-- The version of a document decides the version of the index and nothing else. -/
theorem Describes.withVersion (h : Describes d x) (n : Number) :
    Describes (d.insert "v" n.toValue) (x.withVersion n.toInt32) := by
  have hother : ∀ name, name ≠ "v" → (d.insert "v" n.toValue).get? name = d.get? name :=
    fun name hname => Document.get?_insert_of_ne d _ hname
  refine ⟨?key, h.key_ne, ⟨n, ?version, rfl⟩, ?name, ?ns, ?unique, ?sparse, ?background,
    ?expireAfterSeconds, ?other⟩
  case key => exact (Document.read_congr _ (hother _ (by decide))).trans h.key
  case version => exact Document.readOr_number_eq_ok_iff.2 (.inl (Document.get?_insert_self d _ _))
  case name => exact (Document.read_congr _ (hother _ (by decide))).trans h.name
  case ns => exact (Document.read_congr _ (hother _ (by decide))).trans h.ns
  case unique => exact (Document.readFlag_congr _ _ (hother _ (by decide))).trans h.unique
  case sparse => exact (Document.readFlag_congr _ _ (hother _ (by decide))).trans h.sparse
  case background => exact (Document.readFlag_congr _ _ (hother _ (by decide))).trans h.background
  case expireAfterSeconds =>
    rw [Document.readOptional_congr _ (hother _ (by decide))]
    exact h.expireAfterSeconds
  case other => exact (congrArg _ (filter_insert d _ (by decide))).trans h.other

end Index

/-! ### Integers on the wire -/

/-- What is left of an integer is the integer if and only if it fits. -/
theorem Number.toInt_toInt32 {n : Number} {i : Int} (h : n.integer? = some i) :
    n.toInt32.toInt = i.bmod (2 ^ 32) ∧ (n.toInt32.toInt = i ↔ FitsInt32 i) := by
  have hleft : n.toInt32.toInt = i.bmod (2 ^ 32) := by
    rw [n.toInt32_of_integer? h, Int32.toInt_ofInt]
    rfl
  rw [hleft]
  exact ⟨rfl, bmod_eq_self_iff⟩

/-- Votes are read as the low 32 bits of the number that is there. -/
theorem Member.Describes.votes_eq {d : Document} {m : Member} {n : Number} (h : Describes d m)
    (hn : d.get? "votes" = some n.toValue) : m.votes = n.toInt32 := by
  obtain ⟨votes, hvotes, hvotes_eq⟩ := h.votes
  have hholds : d.HoldsNumber "votes" (.int32 1) n := .inl hn
  rw [← hvotes_eq, hvotes.unique hholds]

/-- A version is read as the low 32 bits of the number that is there. -/
theorem Index.Describes.version_eq {d : Document} {x : Index} {n : Number} (h : Describes d x)
    (hn : d.get? "v" = some n.toValue) : x.version = n.toInt32 := by
  obtain ⟨version, hversion, hversion_eq⟩ := h.version
  have hholds : d.HoldsNumber "v" (.int32 defaultVersion) n := .inl hn
  have hread : d.HoldsNumber "v" (.int32 defaultVersion) version :=
    Document.readOr_number_eq_ok_iff.1 hversion
  rw [← hversion_eq, hread.unique hholds]

/-- **Lost halves.** Votes and versions that are integers on the wire are read without their upper
    halves, and so they are read as they stand if and only if they fit into 32 bits.  An integer that
    does not fit is no reason to refuse a document: with any votes, a document is accepted if and only
    if what is left of them is 0 or 1, and with any version it is accepted. -/
theorem integers_narrowed (d : Document) {n : Number} {i : Int} (hn : n.integer? = some i) :
    (∀ m, Member.ofDocument d = .ok m → d.get? "votes" = some n.toValue →
      m.votes.toInt = i.bmod (2 ^ 32) ∧ (m.votes.toInt = i ↔ FitsInt32 i)) ∧
    (∀ m, Member.ofDocument d = .ok m → Member.ofDocument (d.insert "votes" n.toValue) =
      if i.bmod (2 ^ 32) = 0 ∨ i.bmod (2 ^ 32) = 1 then .ok (m.withVotes (Int32.ofInt i))
      else .error (.badValue (Member.Fault.votesOutOfRange (Int32.ofInt i)).message)) ∧
    (∀ x, Index.ofValue (.document d) = .ok x → d.get? "v" = some n.toValue →
      x.version.toInt = i.bmod (2 ^ 32) ∧ (x.version.toInt = i ↔ FitsInt32 i)) ∧
    (∀ x, Index.ofValue (.document d) = .ok x →
      Index.ofValue (.document (d.insert "v" n.toValue)) =
        .ok (x.withVersion (Int32.ofInt i))) := by
  refine ⟨fun m h hget => ?_, fun m h => ?_, fun x h hget => ?_, fun x h => ?_⟩
  · obtain ⟨hm, -⟩ := Member.ofDocument_eq_ok_iff.1 h
    rw [hm.votes_eq hget]
    exact n.toInt_toInt32 hn
  · obtain ⟨hm, hvalid⟩ := Member.ofDocument_eq_ok_iff.1 h
    rw [(hm.withVotes n).ofDocument_eq, n.toInt32_of_integer? hn, hvalid.validated_withVotes]
  · have hx : Index.Describes d x := Index.ofDocument_eq_ok_iff.1 h
    rw [hx.version_eq hget]
    exact n.toInt_toInt32 hn
  · have hx : Index.Describes d x := Index.ofDocument_eq_ok_iff.1 h
    rw [← n.toInt32_of_integer? hn]
    exact Index.ofDocument_eq_ok_iff.2 (hx.withVersion n)

/-- A member whose votes are one more than 32 bits hold. -/
def excessDocument : Document :=
  [("_id", .int32 1), ("host", .string "db1"), ("votes", .int64 4294967297)]

/-- The votes that are not lost are 1, and so are those of the document if they are given again. -/
theorem integers_narrowed_excess :
    ∃ m, Member.ofDocument excessDocument = .ok m ∧ m.votes.toInt = 1 ∧
      Member.ofDocument (excessDocument.insert "votes" (.int64 4294967297)) =
        .ok (m.withVotes 1) := by
  have hread : Member.ofDocument excessDocument =
      .ok ⟨1, ⟨"db1", none⟩, false, true, false, Binary64.one, 0, 1, []⟩ := rfl
  have hvotes : (Number.int64 4294967297).integer? = some 4294967297 := rfl
  obtain ⟨hleft, hagain, -, -⟩ := integers_narrowed excessDocument hvotes
  exact ⟨_, hread, (hleft _ hread rfl).1, hagain _ hread⟩

/-- Votes that do not fit are read as votes that do. -/
theorem not_forall_votes_exact :
    ¬ ∀ d m (n : Number) i, Member.ofDocument d = .ok m → d.get? "votes" = some n.toValue →
      n.integer? = some i → m.votes.toInt = i := by
  intro h
  have hread : Member.ofDocument excessDocument =
      .ok ⟨1, ⟨"db1", none⟩, false, true, false, Binary64.one, 0, 1, []⟩ := rfl
  have hvotes : (1 : Int32).toInt = 4294967297 :=
    h excessDocument _ (.int64 4294967297) _ hread rfl rfl
  exact absurd hvotes (by decide)

end CommandWire
