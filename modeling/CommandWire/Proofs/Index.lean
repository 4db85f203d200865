import CommandWire.Index
import CommandWire.Proofs.Field.Write

namespace CommandWire.Index

/-!
# Descriptions of indexes as documents

The document of an index is its fields followed by its other options.  It can be read back because
the two never share a name, whichever way the description was made.

* `Index.Built` — the descriptions that can be made.
* `Index.Proper` — the key and the other options are documents with distinct names, and no other
  option has a field of its own; `Index.Built.proper` says that this is always so.
* `Index.Separate` — the part of it that tells the other options from the fields.
* `Index.Describes` — what a document says about an index; `Index.ofDocument_eq_ok_iff` says that
  this is what is read.
* `Index.Separate.toDocument_eq_append` — the fields, and then the other options.
* `Index.Separate.ofValue_toValue` — a description is read back.
* `Index.sortOptions`, `Index.toValue_sortOptions` — the same description with sorted options.
-/

variable {x : Index} {d : Document}

/-! ### Descriptions that can be made -/

/-- The descriptions that can be made: from a name, a namespace and a key, by setting options, or by
    reading.  No name stands twice in a document that is put in. -/
inductive Built : Index → Prop
  | plain (name ns : String) {key : Document} (hkey : Document.Distinct key) :
      Built (plain name ns key)
  | withVersion {x : Index} (h : Built x) (version : Int32) : Built (x.withVersion version)
  | withUnique {x : Index} (h : Built x) (unique : Bool) : Built (x.withUnique unique)
  | withSparse {x : Index} (h : Built x) (sparse : Bool) : Built (x.withSparse sparse)
  | withBackground {x : Index} (h : Built x) (background : Bool) :
      Built (x.withBackground background)
  | withExpireAfterSeconds {x : Index} (h : Built x) (seconds : Int64) :
      Built (x.withExpireAfterSeconds seconds)
  | withOther {x : Index} (h : Built x) (name : String) {value : Value} (hvalue : value.Distinct) :
      Built (x.withOther name value)
  | ofValue {v : Value} {x : Index} (hv : v.Distinct) (h : ofValue v = .ok x) : Built x

/-- No name stands twice in the key or among the other options, and none of these has a field of its
    own. -/
structure Proper (x : Index) : Prop where
  key_distinct : Document.Distinct x.key
  other_distinct : Document.Distinct x.other
  other_unknown : ∀ name ∈ x.other.keys, name ∉ knownNames

/-- No name stands twice among the other options, and none of these has a field of its own: all that
    is needed to tell them from the fields. -/
structure Separate (x : Index) : Prop where
  other_nodup : x.other.keys.Nodup
  other_unknown : ∀ name ∈ x.other.keys, name ∉ knownNames

/-- A proper index keeps its other options apart from the fields. -/
theorem Proper.separate (h : x.Proper) : x.Separate :=
  ⟨((Document.distinct_iff _).1 h.other_distinct).1, h.other_unknown⟩

/-! ### Reading -/

/-- What a document says about an index. -/
structure Describes (d : Document) (x : Index) : Prop where
  key : d.read keyField = .ok x.key
  key_ne : x.key ≠ []
  version : ∃ n, d.readOr versionField (.int32 defaultVersion) = .ok n ∧ n.toInt32 = x.version
  name : d.read nameField = .ok x.name
  ns : d.read nsField = .ok x.ns
  unique : d.readFlag uniqueField false = .ok x.unique
  sparse : d.readFlag sparseField false = .ok x.sparse
  background : d.readFlag backgroundField false = .ok x.background
  expireAfterSeconds : ∃ n, d.readOptional expireAfterSecondsField = .ok n ∧
    n.map Number.toInt64 = x.expireAfterSeconds
  other : Document.ofPairs (d.filter fun p => !knownNames.contains p.1) = x.other

/-- An index is read from the documents that describe it, and from no others. -/
theorem ofDocument_eq_ok_iff : ofDocument d = .ok x ↔ Describes d x := by
  unfold ofDocument
  rw [bind_eq_ok]
  constructor
  · rintro ⟨key, hkey, h⟩
    split at h
    · cases h
    next hne =>
    obtain ⟨version, hversion, h⟩ := bind_eq_ok.1 h
    obtain ⟨name, hname, h⟩ := bind_eq_ok.1 h
    obtain ⟨ns, hns, h⟩ := bind_eq_ok.1 h
    obtain ⟨unique, hunique, h⟩ := bind_eq_ok.1 h
    obtain ⟨sparse, hsparse, h⟩ := bind_eq_ok.1 h
    obtain ⟨background, hbackground, h⟩ := bind_eq_ok.1 h
    obtain ⟨seconds, hseconds, h⟩ := bind_eq_ok.1 h
    cases h
    refine ⟨hkey, ?_, ⟨version, hversion, rfl⟩, hname, hns, hunique, hsparse, hbackground,
      ⟨seconds, hseconds, rfl⟩, rfl⟩
    rintro rfl
    exact hne rfl
  · intro h
    obtain ⟨version, hversion, hversion_eq⟩ := h.version
    obtain ⟨seconds, hseconds, hseconds_eq⟩ := h.expireAfterSeconds
    refine ⟨x.key, h.key, ?_⟩
    have hne : x.key.isEmpty = false := List.isEmpty_eq_false_iff.2 h.key_ne
    rw [hne]
    refine bind_eq_ok.2 ⟨version, hversion, bind_eq_ok.2 ⟨x.name, h.name, bind_eq_ok.2 ⟨x.ns, h.ns,
      bind_eq_ok.2 ⟨x.unique, h.unique, bind_eq_ok.2 ⟨x.sparse, h.sparse, bind_eq_ok.2
      ⟨x.background, h.background, bind_eq_ok.2 ⟨seconds, hseconds, ?_⟩⟩⟩⟩⟩⟩⟩
    rw [hversion_eq, hseconds_eq, h.other]
    rfl

/-- An index is read from the value of a document that describes it. -/
theorem ofValue_eq_ok_iff {v : Value} :
    ofValue v = .ok x ↔ ∃ d, v = .document d ∧ Describes d x := by
  constructor
  · intro h
    cases v with
    | document d => exact ⟨d, rfl, ofDocument_eq_ok_iff.1 h⟩
    | _ => cases h
  · rintro ⟨d, rfl, h⟩
    exact ofDocument_eq_ok_iff.2 h

/-! ### Every description is proper -/

/-- Whatever document is read, the other options are told from the fields by their names. -/
theorem Describes.separate (h : Describes d x) : x.Separate := by
  have hother := h.other
  refine ⟨hother ▸ Document.nodup_keys_ofPairs _, ?_⟩
  rw [← hother]
  apply Document.forall_keys_ofPairs
  intro name hname
  obtain ⟨p, hp, rfl⟩ := List.mem_map.1 hname
  simpa using (List.mem_filter.1 hp).2

/-- An index that is read from a document without repeated names is proper. -/
theorem Describes.proper (h : Describes d x) (hd : Document.Distinct d) : x.Proper := by
  have hfilter := Document.distinct_filter (fun p => !knownNames.contains p.1) hd
  -- the pairs that are kept have distinct names, and so they are the other options as they stand.
  have hother := h.other
  rw [Document.ofPairs_eq_self ((Document.distinct_iff _).1 hfilter).1] at hother
  refine ⟨?_, hother ▸ hfilter, h.separate.other_unknown⟩
  obtain ⟨v, hget, hv⟩ := Document.read_eq_ok_iff.1 h.key
  have hdistinct : v.Distinct := ((Document.distinct_iff d).1 hd).2 _ (Document.mem_of_get? hget)
  cases v <;> cases hv
  exact hdistinct

/-- An option that has a field of its own is not among the others afterwards either. -/
theorem Separate.withOther (h : x.Separate) (name : String) (value : Value) :
    (x.withOther name value).Separate := by
  unfold Index.withOther
  split
  · exact h
  next hname =>
  exact ⟨Document.nodup_keys_insert name value h.other_nodup,
    Document.forall_keys_insert value h.other_unknown hname⟩

/-- A proper index stays so when it is given another option. -/
theorem Proper.withOther (h : x.Proper) (name : String) {value : Value} (hvalue : value.Distinct) :
    (x.withOther name value).Proper := by
  unfold Index.withOther
  split
  · exact h
  next hname =>
  exact ⟨h.key_distinct, Document.distinct_insert name h.other_distinct hvalue,
    Document.forall_keys_insert value h.other_unknown hname⟩

/-- An index that is made by setting options is proper. -/
theorem Built.proper (h : Built x) : x.Proper := by
  induction h with
  | plain name ns hkey => exact ⟨hkey, trivial, List.forall_mem_nil _⟩
  | withVersion h version ih => exact ⟨ih.key_distinct, ih.other_distinct, ih.other_unknown⟩
  | withUnique h unique ih => exact ⟨ih.key_distinct, ih.other_distinct, ih.other_unknown⟩
  | withSparse h sparse ih => exact ⟨ih.key_distinct, ih.other_distinct, ih.other_unknown⟩
  | withBackground h background ih =>
    exact ⟨ih.key_distinct, ih.other_distinct, ih.other_unknown⟩
  | withExpireAfterSeconds h seconds ih =>
    exact ⟨ih.key_distinct, ih.other_distinct, ih.other_unknown⟩
  | withOther h name hvalue ih => exact ih.withOther name hvalue
  | ofValue hv h =>
    obtain ⟨d, rfl, hd⟩ := ofValue_eq_ok_iff.1 h
    exact hd.proper hv

/-! ### Writing -/

/-- The fields of an index. -/
def typedFields (x : Index) : Document :=
  (putIfSet (putIfSet (putIfSet
      (Document.empty
        |>.put versionField (.int32 x.version)
        |>.put keyField x.key
        |>.put nameField x.name
        |>.put nsField x.ns)
      uniqueField x.unique) sparseField x.sparse) backgroundField x.background).putOptional
    expireAfterSecondsField (x.expireAfterSeconds.map Number.int64)

/-- The other options are inserted after the fields, one by one. -/
theorem toDocument_eq_foldl (x : Index) :
    x.toDocument = x.other.foldl (fun d p => Document.insert d p.1 p.2) x.typedFields := rfl

/-- A flag puts no name twice. -/
theorem distinct_putIfSet (field : Field Bool) (b : Bool) (hd : Document.Distinct d) :
    Document.Distinct (putIfSet d field b) :=
  Document.distinct_putOptional field hd fun _ _ => trivial

/-- The fields put no name twice, unless the key does. -/
theorem distinct_typedFields (h : Document.Distinct x.key) : Document.Distinct x.typedFields := by
  have hplain : Document.Distinct (Document.empty
      |>.put versionField (.int32 x.version)
      |>.put keyField x.key
      |>.put nameField x.name
      |>.put nsField x.ns) :=
    Document.distinct_put _ (Document.distinct_put _ (Document.distinct_put _
      (Document.distinct_put _ trivial trivial) h) trivial) trivial
  refine Document.distinct_putOptional _ (distinct_putIfSet _ _ (distinct_putIfSet _ _
    (distinct_putIfSet _ _ hplain))) ?_
  intro n hn
  cases n <;> trivial

/-- No two fields have one name. -/
theorem nodup_keys_typedFields (x : Index) : x.typedFields.keys.Nodup := by
  unfold typedFields putIfSet
  refine Document.nodup_keys_putOptional _ _ (Document.nodup_keys_putOptional _ _
    (Document.nodup_keys_putOptional _ _ (Document.nodup_keys_putOptional _ _ ?_)))
  exact Document.nodup_keys_put _ _ (Document.nodup_keys_put _ _ (Document.nodup_keys_put _ _
    (Document.nodup_keys_put _ _ List.nodup_nil)))

/-- The fields have names that no other option may have. -/
theorem known_typedFields (x : Index) : ∀ name ∈ x.typedFields.keys, name ∈ knownNames := by
  unfold typedFields putIfSet
  refine Document.forall_keys_putOptional _ ?_ (by decide)
  refine Document.forall_keys_putOptional _ ?_ (by decide)
  refine Document.forall_keys_putOptional _ ?_ (by decide)
  refine Document.forall_keys_putOptional _ ?_ (by decide)
  refine Document.forall_keys_put _ ?_ (by decide)
  refine Document.forall_keys_put _ ?_ (by decide)
  refine Document.forall_keys_put _ ?_ (by decide)
  exact Document.forall_keys_put _ (List.forall_mem_nil _) (by decide)

namespace Separate

/-- Fields and other options have distinct names. -/
theorem nodup_keys_append (h : x.Separate) : (Document.keys (x.typedFields ++ x.other)).Nodup :=
  Document.nodup_keys_append x.nodup_keys_typedFields h.other_nodup
    fun name hname hother => h.other_unknown name hother (known_typedFields x name hname)

/-- The other options come after the fields. -/
theorem toDocument_eq_append (h : x.Separate) : x.toDocument = x.typedFields ++ x.other := by
  rw [toDocument_eq_foldl]
  exact Document.foldl_insert_eq_append h.nodup_keys_append

/-- The fields are found behind no other option. -/
theorem get?_toDocument (h : x.Separate) {name : String} (hname : name ∈ knownNames) :
    x.toDocument.get? name = x.typedFields.get? name := by
  rw [h.toDocument_eq_append]
  exact Document.get?_append_of_not_mem _ fun hother => h.other_unknown name hother hname

/-- Without the fields' names the document holds the other options. -/
theorem filter_toDocument (h : x.Separate) :
    x.toDocument.filter (fun p => !knownNames.contains p.1) = x.other := by
  have htyped : x.typedFields.filter (fun p => !knownNames.contains p.1) = [] := by
    rw [List.filter_eq_nil_iff]
    intro p hp
    simpa using known_typedFields x p.1 (List.mem_map_of_mem hp)
  have hother : x.other.filter (fun p => !knownNames.contains p.1) = x.other := by
    rw [List.filter_eq_self]
    intro p hp
    simpa using h.other_unknown p.1 (List.mem_map_of_mem hp)
  rw [h.toDocument_eq_append, List.filter_append, htyped, hother, List.nil_append]

end Separate

/-- The document of a proper index has no name twice. -/
theorem Proper.distinct_toDocument (h : x.Proper) : Document.Distinct x.toDocument := by
  rw [h.separate.toDocument_eq_append]
  exact Document.distinct_append (distinct_typedFields h.key_distinct) h.other_distinct
    fun name hname hother => h.other_unknown name hother (known_typedFields x name hname)

/-! ### Reading what was written -/

/-- A flag is written as true or not at all. -/
theorem get?_putIfSet_self (d : Document) (field : Field Bool) (b : Bool) :
    Document.get? (putIfSet d field b) field.name =
      if b then some (.boolean true) else d.get? field.name := by
  rw [putIfSet, Document.get?_putOptional_self]
  cases b <;> rfl

/-- A flag leaves what stands under other names. -/
theorem get?_putIfSet_of_ne (d : Document) {field : Field Bool} (b : Bool) {name : String}
    (h : name ≠ field.name) : Document.get? (putIfSet d field b) name = d.get? name :=
  Document.get?_putOptional_of_ne d _ h

/-- A flag that is written only if it is set is read back. -/
theorem readFlag_of_get? {field : Field Bool} {b : Bool}
    (h : d.get? field.name = if b then some (.boolean true) else none) :
    d.readFlag field false = .ok b := by
  rw [Document.readFlag, h]
  cases b <;> rfl

/-- Each field has the content that it was given: the fields after it have other names. -/
theorem get?_typedFields (x : Index) :
    x.typedFields.get? versionField.name = some (.int32 x.version) ∧
    x.typedFields.get? keyField.name = some (.document x.key) ∧
    x.typedFields.get? nameField.name = some (.string x.name) ∧
    x.typedFields.get? nsField.name = some (.string x.ns) ∧
    x.typedFields.get? uniqueField.name = (if x.unique then some (.boolean true) else none) ∧
    x.typedFields.get? sparseField.name = (if x.sparse then some (.boolean true) else none) ∧
    x.typedFields.get? backgroundField.name =
      (if x.background then some (.boolean true) else none) ∧
    x.typedFields.get? expireAfterSecondsField.name = x.expireAfterSeconds.map .int64 := by
  unfold typedFields
  refine ⟨?_, ?_, ?_, ?_, ?_, ?_, ?_, ?_⟩ <;>
    simp (disch := decide) only [Document.get?_putOptional_of_ne, Document.get?_putOptional_self,
      get?_putIfSet_of_ne, get?_putIfSet_self, Document.get?_put_of_ne, Document.get?_put_self]
  case refine_8 => cases x.expireAfterSeconds <;> rfl
  all_goals rfl

/-- **Indexes.** What is written for an index describes it. -/
theorem Separate.describes (h : x.Separate) (hkey : x.key ≠ []) : Describes x.toDocument x := by
  obtain ⟨hversion, hpattern, hname, hns, hunique, hsparse, hbackground, hexpire⟩ :=
    get?_typedFields x
  -- a known name is looked up among the fields, whatever the other options are.
  have hread : ∀ {α : Type} [FieldType α] {field : Field α} {y : α} {v : Value},
      field.name ∈ knownNames → x.typedFields.get? field.name = some v →
      FieldType.ofValue? v = some y → x.toDocument.read field = .ok y :=
    fun hknown hget hv => Document.read_eq_ok_iff.2 ⟨_, (h.get?_toDocument hknown).trans hget, hv⟩
  have hflag : ∀ {field : Field Bool} {b : Bool}, field.name ∈ knownNames →
      x.typedFields.get? field.name = (if b then some (.boolean true) else none) →
      x.toDocument.readFlag field false = .ok b :=
    fun hknown hget => readFlag_of_get? ((h.get?_toDocument hknown).trans hget)
  refine ⟨hread (by decide) hpattern rfl, hkey, ⟨.int32 x.version, ?_, rfl⟩,
    hread (by decide) hname rfl, hread (by decide) hns rfl, hflag (by decide) hunique,
    hflag (by decide) hsparse, hflag (by decide) hbackground,
    ⟨x.expireAfterSeconds.map .int64, ?_, ?_⟩, ?_⟩
  · rw [Document.readOr, Document.readOptional, h.get?_toDocument (by decide), hversion]
    rfl
  · rw [Document.readOptional, h.get?_toDocument (by decide), hexpire]
    cases x.expireAfterSeconds <;> rfl
  · cases x.expireAfterSeconds <;> rfl
  · rw [h.filter_toDocument]
    exact Document.ofPairs_eq_self h.other_nodup

/-- An index is written when it has a key. -/
theorem toValue_eq_ok_iff {v : Value} :
    x.toValue = .ok v ↔ x.key ≠ [] ∧ v = .document x.toDocument := by
  unfold toValue
  cases x.key with
  | nil => simp
  | cons p rest => simp [eq_comm]

/-- An index without a key is not written. -/
theorem toValue_of_key_eq_nil (h : x.key = []) :
    x.toValue = .error (.badValue (Fault.writtenWithoutKey x.name).message) := by
  rw [toValue, h]
  rfl

/-- An index without a key is refused by name. -/
theorem toValue_eq_error_iff {e : ProtocolError} : x.toValue = .error e ↔
    x.key = [] ∧ e = .badValue (Fault.writtenWithoutKey x.name).message := by
  constructor
  · intro h
    by_cases hkey : x.key = []
    · rw [toValue_of_key_eq_nil hkey] at h
      cases h
      exact ⟨hkey, rfl⟩
    · rw [toValue_eq_ok_iff.2 ⟨hkey, rfl⟩] at h
      cases h
  · rintro ⟨hkey, rfl⟩
    exact toValue_of_key_eq_nil hkey

/-- **Round trip.** An index that is written is read back. -/
theorem Separate.ofValue_toValue (h : x.Separate) {v : Value} (hv : x.toValue = .ok v) :
    ofValue v = .ok x := by
  obtain ⟨hkey, rfl⟩ := toValue_eq_ok_iff.1 hv
  exact ofValue_eq_ok_iff.2 ⟨_, rfl, h.describes hkey⟩

/-! ### Sorted options -/

/-- The same index with the options of every regular expression in ascending order. -/
def sortOptions (x : Index) : Index :=
  { x with key := Document.sortOptions x.key, other := Document.sortOptions x.other }

/-- A proper index stays so when its options are sorted. -/
theorem Proper.sortOptions (h : x.Proper) : x.sortOptions.Proper where
  key_distinct := Document.distinct_sortOptions _ h.key_distinct
  other_distinct := Document.distinct_sortOptions _ h.other_distinct
  other_unknown := by
    show ∀ name ∈ Document.keys (Document.sortOptions x.other), name ∉ knownNames
    rw [Document.keys_sortOptions]
    exact h.other_unknown

/-- Sorting the options of the fields sorts those of the key. -/
theorem sortOptions_typedFields (x : Index) :
    Document.sortOptions x.typedFields = x.sortOptions.typedFields := by
  unfold typedFields putIfSet
  rw [Document.sortOptions_putOptional _ _ fun n _ => by cases n <;> rfl,
    Document.sortOptions_putOptional _ _ fun _ _ => rfl,
    Document.sortOptions_putOptional _ _ fun _ _ => rfl,
    Document.sortOptions_putOptional _ _ fun _ _ => rfl,
    Document.sortOptions_put _ nsField x.ns x.ns rfl,
    Document.sortOptions_put _ nameField x.name x.name rfl,
    Document.sortOptions_put _ keyField x.key (Document.sortOptions x.key) rfl,
    Document.sortOptions_put _ versionField (.int32 x.version) (.int32 x.version) rfl]
  rfl

/-- An index with sorted options is written as its document with sorted options. -/
theorem toDocument_sortOptions (x : Index) :
    x.sortOptions.toDocument = Document.sortOptions x.toDocument := by
  rw [toDocument_eq_foldl, toDocument_eq_foldl, Document.sortOptions_foldl_insert,
    sortOptions_typedFields]
  rfl

/-- What is written for an index with sorted options is what is written for it, sorted. -/
theorem toValue_sortOptions {v : Value} (h : x.toValue = .ok v) :
    x.sortOptions.toValue = .ok v.sortOptions := by
  obtain ⟨hkey, rfl⟩ := toValue_eq_ok_iff.1 h
  rw [toValue_eq_ok_iff, toDocument_sortOptions]
  exact ⟨fun hnil => hkey (Document.sortOptions_eq_nil_iff.1 hnil), rfl⟩

end CommandWire.Index
