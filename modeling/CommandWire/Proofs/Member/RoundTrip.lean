import CommandWire.Proofs.Field.Write
import CommandWire.Proofs.Member

namespace CommandWire.Member

/-!
# Members that are sent again

A member is written field by field and read back the same way.  Two things can be lost on the way:
the host, whose text has to be read again, and tags, because a document keeps one tag for each name.

* `Setting`, `configured` — one option that is set, and a member after many.
* `configured_fixed`, `tags_configured` — what settings leave.
* `get?_toDocument` — what is written.
* `describes_toDocument` — what it says, once the host and the tags are known.
* `Valid.ofDocument_toDocument` — what is read back from a valid member.
* `Restored` — which members are read back as they were, and what becomes of the others;
  `roundTrip_configured` says it of every member that is given options and passes the check.
-/

variable {m n : Member} {host : Address} {tags : List (String × String)}

/-! ### Settings -/

/-- One option that is set. -/
inductive Setting where
  | arbiterOnly (b : Bool)
  | buildIndexes (b : Bool)
  | hidden (b : Bool)
  | priority (x : Binary64)
  | delaySeconds (seconds : Int64)
  | votes (n : Int32)
  | tag (name value : String)

/-- The tag that a setting adds. -/
def Setting.tag? : Setting → Option (String × String)
  | tag name value => some (name, value)
  | _ => none

/-- Sets one option. -/
def set (m : Member) : Setting → Member
  | .arbiterOnly b => m.withArbiterOnly b
  | .buildIndexes b => m.withBuildIndexes b
  | .hidden b => m.withHidden b
  | .priority x => m.withPriority x
  | .delaySeconds seconds => m.withDelaySeconds seconds
  | .votes n => m.withVotes n
  | .tag name value => m.withTag name value

/-- Sets some options, one after another. -/
def configured (m : Member) (settings : List Setting) : Member := settings.foldl set m

/-- Settings leave the name and the place of a member alone. -/
theorem configured_fixed (m : Member) (settings : List Setting) :
    (m.configured settings).id = m.id ∧ (m.configured settings).host = m.host := by
  induction settings generalizing m with
  | nil => exact ⟨rfl, rfl⟩
  | cons setting rest ih =>
    obtain ⟨hid, hhost⟩ := ih (m.set setting)
    have hset : (m.set setting).id = m.id ∧ (m.set setting).host = m.host := by
      cases setting <;> exact ⟨rfl, rfl⟩
    exact ⟨hid.trans hset.1, hhost.trans hset.2⟩

/-- Every tag that is set is kept, after those that were there and in the order of the settings. -/
theorem tags_configured (m : Member) (settings : List Setting) :
    (m.configured settings).tags = m.tags ++ settings.filterMap Setting.tag? := by
  induction settings generalizing m with
  | nil => rw [List.filterMap_nil, List.append_nil]; rfl
  | cons setting rest ih =>
    have hrest : ((m.set setting).configured rest).tags =
        (m.set setting).tags ++ rest.filterMap Setting.tag? := ih (m.set setting)
    rw [List.filterMap_cons]
    cases setting with
    | tag name value =>
      show _ = m.tags ++ (name, value) :: rest.filterMap Setting.tag?
      rw [List.append_cons]
      exact hrest
    | _ => exact hrest

/-! ### What is written -/

/-- A tag is known by its name and its text. -/
theorem tagPair_injective : Function.Injective tagPair := by
  rintro ⟨name, value⟩ ⟨name', value'⟩ h
  cases h
  rfl

/-- Tags are written under their names. -/
theorem keys_map_tagPair (tags : List (String × String)) :
    Document.keys (tags.map tagPair) = tags.map Prod.fst := by
  rw [Document.keys, List.map_map]
  rfl

/-- The tags that are left in a document: one for each name. -/
theorem exists_tags_ofPairs (tags : List (String × String)) :
    ∃ kept : List (String × String), kept.map tagPair = Document.ofPairs (tags.map tagPair) := by
  have htexts : ∀ p ∈ Document.ofPairs (tags.map tagPair), p.2.kind = .string := by
    refine @Document.forall_ofPairs (fun v => v.kind = .string) _ ?_
    rw [List.forall_mem_map]
    intro t _
    rfl
  obtain ⟨kept, hkept⟩ := exists_tagPair htexts
  exact ⟨kept, hkept.symm⟩

/-- No tag is lost if and only if no name stands twice. -/
theorem ofPairs_tags_eq_iff :
    tags.map tagPair = Document.ofPairs (tags.map tagPair) ↔ (tags.map Prod.fst).Nodup := by
  rw [← keys_map_tagPair]
  constructor
  · intro h
    rw [h]
    exact Document.nodup_keys_ofPairs _
  · intro h
    exact (Document.ofPairs_eq_self h).symm

/-- A member's document holds allowed names only. -/
theorem keys_toDocument (m : Member) : ∀ key ∈ m.toDocument.keys, key ∈ allowedNames := by
  unfold toDocument
  refine Document.forall_keys_put _ ?_ (by decide)
  refine Document.forall_keys_put _ ?_ (by decide)
  refine Document.forall_keys_put _ ?_ (by decide)
  refine Document.forall_keys_put _ ?_ (by decide)
  refine Document.forall_keys_put _ ?_ (by decide)
  refine Document.forall_keys_put _ ?_ (by decide)
  refine Document.forall_keys_put _ ?_ (by decide)
  refine Document.forall_keys_put _ ?_ (by decide)
  exact Document.forall_keys_put _ (List.forall_mem_nil _) (by decide)

/-- Each field has the content that it was given: the fields after it have other names. -/
theorem get?_toDocument (m : Member) :
    m.toDocument.get? idField.name = some (.int32 m.id) ∧
    m.toDocument.get? hostField.name = some (.string m.host.text) ∧
    m.toDocument.get? arbiterOnlyField.name = some (.boolean m.arbiterOnly) ∧
    m.toDocument.get? buildIndexesField.name = some (.boolean m.buildIndexes) ∧
    m.toDocument.get? hiddenField.name = some (.boolean m.hidden) ∧
    m.toDocument.get? priorityField.name = some (.double m.priority) ∧
    m.toDocument.get? delayField.name = some (.int64 m.delaySeconds) ∧
    m.toDocument.get? votesField.name = some (.int32 m.votes) ∧
    m.toDocument.get? tagsField.name =
      some (.document (Document.ofPairs (m.tags.map tagPair))) := by
  unfold toDocument
  refine ⟨?_, ?_, ?_, ?_, ?_, ?_, ?_, ?_, ?_⟩ <;>
    simp (disch := decide) only [Document.get?_put_of_ne, Document.get?_put_self]
  all_goals rfl

/-- **Writing.** What is written for a member says all about it but its host and its tags. -/
theorem describes_toDocument (hhost : Address.parse m.host.text = .ok host)
    (htags : tags.map tagPair = Document.ofPairs (m.tags.map tagPair)) :
    Describes m.toDocument { m with host, tags } := by
  obtain ⟨hid, htext, harbiter, hbuild, hhidden, hpriority, hdelay, hvotes, hpairs⟩ :=
    get?_toDocument m
  rw [← htags] at hpairs
  exact ⟨keys_toDocument m, hid, ⟨_, htext, hhost⟩, .inl harbiter, .inl hbuild, .inl hhidden,
    ⟨.double m.priority, .inl hpriority, rfl⟩, ⟨.int64 m.delaySeconds, .inl hdelay, rfl⟩,
    ⟨.int32 m.votes, .inl hvotes, rfl⟩, .inl hpairs⟩

/-! ### What is read back -/

/-- A host that cannot be read is what a document is refused for, whatever else it says. -/
theorem ofDocument_of_parse_error {d : Document} {text : String} {e : ProtocolError}
    (hallowed : ∀ key ∈ d.keys, key ∈ allowedNames) (htext : d.get? "host" = some (.string text))
    (he : Address.parse text = .error e) : ofDocument d = .error e := by
  have hallowed : d.onlyHas "MemberConfig" allowedNames = .ok () :=
    Document.onlyHas_eq_ok_iff.2 hallowed
  have htext : d.read hostField = .ok text := Document.read_text_eq_ok_iff.2 htext
  rw [ofDocument, hallowed, ok_bind, htext, ok_bind, he]
  rfl

/-- The host and the tags decide nothing about the rules, unless there are tags to begin with. -/
theorem Valid.restored (h : m.Valid)
    (htags : tags.map tagPair = Document.ofPairs (m.tags.map tagPair)) :
    Valid { m with host, tags } where
  priority := h.priority
  votes := h.votes
  delay := h.delay
  passive := h.passive
  untagged harbiter := by
    rw [h.untagged harbiter] at htags
    exact List.map_eq_nil_iff.1 htags

/-- **Reading back.** Whether a valid member is read back is decided by the text of its host, and
    only the host and the tags can change. -/
theorem Valid.ofDocument_toDocument (h : m.Valid)
    (htags : tags.map tagPair = Document.ofPairs (m.tags.map tagPair)) :
    ofDocument m.toDocument = (Address.parse m.host.text).map fun host => { m with host, tags } := by
  cases hhost : Address.parse m.host.text with
  | error e => exact ofDocument_of_parse_error (keys_toDocument m) (get?_toDocument m).2.1 hhost
  | ok host =>
    rw [(describes_toDocument hhost htags).ofDocument_eq]
    exact validated_eq_ok_iff.2 ⟨h.restored htags, rfl⟩

/-- A valid member is the same as itself: its priority is a number. -/
theorem Valid.same_self (h : m.Valid) : m.same m = true := by
  obtain ⟨q, hq, -⟩ := h.priority
  have hpriority : m.priority.same m.priority = true := by
    rw [Binary64.same_iff]
    exact ⟨Binary64.isNaN_of_value? hq, Binary64.isNaN_of_value? hq, rfl⟩
  simp [same, hpriority]

/-- Members that are the same have the same host and the same tags, in order. -/
theorem host_and_tags_of_same (h : n.same m = true) : n.host = m.host ∧ n.tags = m.tags := by
  simp only [same, Bool.and_eq_true, beq_iff_eq] at h
  exact ⟨h.1.1.1.1.1.1.1.2, h.2⟩

/-- A member that is read back as it was if and only if no two of its tags have one name and its host
    is read from its own text.  Nothing else of it is changed, not even the sign of a zero, and it is
    refused for nothing but its host. -/
structure Restored (m : Member) : Prop where
  exact_iff : ofDocument m.toDocument = .ok m ↔
    (m.tags.map Prod.fst).Nodup ∧ Address.parse m.host.text = .ok m.host
  same_iff : (∃ n, ofDocument m.toDocument = .ok n ∧ n.same m = true) ↔
    ofDocument m.toDocument = .ok m
  otherwise : ∃ tags : List (String × String),
    tags.map tagPair = Document.ofPairs (m.tags.map tagPair) ∧
    ofDocument m.toDocument = (Address.parse m.host.text).map fun host => { m with host, tags }

/-- A valid member is restored from its document. -/
theorem Valid.restored_toDocument (h : m.Valid) : m.Restored := by
  obtain ⟨tags, htags⟩ := exists_tags_ofPairs m.tags
  have hread := h.ofDocument_toDocument htags
  have hkept : tags = m.tags ↔ (m.tags.map Prod.fst).Nodup := by
    rw [← ofPairs_tags_eq_iff, ← htags, (List.map_injective_iff.2 tagPair_injective).eq_iff, eq_comm]
  -- the fields that are not lost are the same on both sides.
  have hexact : ofDocument m.toDocument = .ok m ↔
      tags = m.tags ∧ Address.parse m.host.text = .ok m.host := by
    rw [hread]
    cases Address.parse m.host.text with
    | error e => exact iff_of_false nofun fun hnot => nomatch hnot.2
    | ok host =>
      show (Except.ok { m with host, tags } : Checked Member) = .ok m ↔ _
      rw [Except.ok.injEq, Except.ok.injEq]
      constructor
      · intro heq
        exact ⟨congrArg Member.tags heq, congrArg Member.host heq⟩
      · rintro ⟨rfl, rfl⟩
        rfl
  refine ⟨by rw [hexact, hkept], ⟨?_, fun heq => ⟨m, heq, h.same_self⟩⟩, tags, htags, hread⟩
  rintro ⟨n, hn, hsame⟩
  obtain ⟨hhost, htags_eq⟩ := host_and_tags_of_same hsame
  rw [hread] at hn
  rw [hexact]
  cases hparse : Address.parse m.host.text with
  | error e =>
    rw [hparse] at hn
    cases hn
  | ok host =>
    rw [hparse] at hn
    cases hn
    exact ⟨htags_eq, congrArg Except.ok hhost⟩

/-- **Round trip.** A member that is given any options and then passes the check has the tags that it
    was given, and it is read back from its document as it was if and only if these have distinct
    names and the host is read back from its text. -/
theorem roundTrip_configured {id : Int32} {settings : List Setting}
    (h : ((plain id host).configured settings).validated = .ok m) :
    m.id = id ∧ m.host = host ∧ m.tags = settings.filterMap Setting.tag? ∧ m.Restored := by
  obtain ⟨hvalid, rfl⟩ := validated_eq_ok_iff.1 h
  obtain ⟨hid, hhost⟩ := configured_fixed (plain id host) settings
  exact ⟨hid, hhost, tags_configured _ settings, hvalid.restored_toDocument⟩

/-- A hidden member with a delay and a tag. -/
theorem roundTrip_configured_hidden :
    ∃ m, ((plain 3 ⟨"db3", some 27019⟩).configured
        [.tag "dc" "east", .hidden true, .priority Binary64.zero, .delaySeconds 60]).validated =
        .ok m ∧ ofDocument m.toDocument = .ok m := by
  have h : ((plain 3 ⟨"db3", some 27019⟩).configured
      [.tag "dc" "east", .hidden true, .priority Binary64.zero, .delaySeconds 60]).validated =
      .ok ⟨3, ⟨"db3", some 27019⟩, false, true, true, Binary64.zero, 60, 1, [("dc", "east")]⟩ := rfl
  obtain ⟨-, -, -, hrestored⟩ := roundTrip_configured h
  exact ⟨_, h, hrestored.exact_iff.2 ⟨by decide, rfl⟩⟩

/-- Of tags with one name the last one is left, in the place of the first. -/
example : Document.ofPairs ([("dc", "east"), ("use", "test"), ("dc", "west")].map tagPair) =
    [("dc", "west"), ("use", "test")].map tagPair := by decide

end CommandWire.Member
