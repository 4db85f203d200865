import CommandWire.Bson.Encode

namespace CommandWire

/-!
# Documents in which no name stands twice

Whoever builds a document inserts one name after another, and so no name stands in it twice.  The
type of documents does not say so; the predicates of this file do.

* `Document.Distinct`, `Value.Distinct` — no name stands twice, at any depth.
* `Document.sortOptions`, `Value.sortOptions` — the value with the options of every regular
  expression in ascending order, which is all that writing and reading change.
* `Document.ofPairs_eq_self` — pairs with distinct names are the document that they make up.
* `Document.nodup_keys_ofPairs`, `Document.forall_ofPairs`, `Document.forall_keys_ofPairs` — whatever
  pairs make up a document, its names are distinct, and its names and values are among theirs.
* `Document.distinct_insert`, `Document.sortOptions_insert` — both notions and one more name.
-/

/-! ### Distinct names -/

mutual

/-- No name stands twice in any document inside the value. -/
def Value.Distinct : Value → Prop
  | .document fields => Document.Distinct fields
  | .array items => Value.AllDistinct items
  | .codeWithScope _ scope => Document.Distinct scope
  | _ => True

/-- The same for every value of a sequence. -/
def Value.AllDistinct : List Value → Prop
  | [] => True
  | v :: rest => Value.Distinct v ∧ Value.AllDistinct rest

/-- No name stands twice in the document or in any document inside it. -/
def Document.Distinct : List (String × Value) → Prop
  | [] => True
  | (key, v) :: rest =>
    key ∉ rest.map Prod.fst ∧ Value.Distinct v ∧ Document.Distinct rest

end

/-- Items are distinct when each of them is. -/
theorem Value.allDistinct_iff (items : List Value) :
    Value.AllDistinct items ↔ ∀ v ∈ items, v.Distinct := by
  induction items with
  | nil => simp [Value.AllDistinct]
  | cons v rest ih => rw [Value.AllDistinct, ih, List.forall_mem_cons]

/-- A document is distinct when its names are and each of its values is. -/
theorem Document.distinct_iff (d : Document) :
    Document.Distinct d ↔ d.keys.Nodup ∧ ∀ p ∈ d, p.2.Distinct := by
  induction d with
  | nil => simp [Document.Distinct, Document.keys]
  | cons p rest ih =>
    obtain ⟨key, v⟩ := p
    rw [Document.Distinct, ih, Document.keys, Document.keys, List.map_cons, List.nodup_cons,
      List.forall_mem_cons]
    constructor
    · rintro ⟨hkey, hv, hnodup, hrest⟩
      exact ⟨⟨hkey, hnodup⟩, hv, hrest⟩
    · rintro ⟨⟨hkey, hnodup⟩, hv, hrest⟩
      exact ⟨hkey, hv, hnodup, hrest⟩

/-! ### Sorted options -/

mutual

/-- The value with the options of every regular expression in ascending order. -/
def Value.sortOptions : Value → Value
  | .document fields => .document (Document.sortOptions fields)
  | .array items => .array (Value.sortAllOptions items)
  | .codeWithScope text scope => .codeWithScope text (Document.sortOptions scope)
  | .regex pattern options => .regex pattern (Bson.sortedOptions options)
  | v => v

/-- The same for every value of a sequence. -/
def Value.sortAllOptions : List Value → List Value
  | [] => []
  | v :: rest => Value.sortOptions v :: Value.sortAllOptions rest

/-- The document with the options of every regular expression in ascending order. -/
def Document.sortOptions : List (String × Value) → List (String × Value)
  | [] => []
  | (key, v) :: rest => (key, Value.sortOptions v) :: Document.sortOptions rest

end

/-- Sorting options leaves the names. -/
@[simp] theorem Document.keys_sortOptions (d : Document) :
    Document.keys (Document.sortOptions d) = d.keys := by
  induction d with
  | nil => rfl
  | cons p rest ih =>
    obtain ⟨key, v⟩ := p
    rw [Document.keys] at ih ⊢
    rw [Document.sortOptions, List.map_cons, ih]
    rfl

/-- Sorting options leaves no document empty that was not. -/
theorem Document.sortOptions_eq_nil_iff {d : Document} : Document.sortOptions d = [] ↔ d = [] := by
  cases d with
  | nil => exact Iff.rfl
  | cons p rest =>
    obtain ⟨key, v⟩ := p
    rw [Document.sortOptions]
    exact iff_of_false (List.cons_ne_nil _ _) (List.cons_ne_nil _ _)

/-- The options of items are sorted item by item. -/
theorem Value.sortAllOptions_eq_map (items : List Value) :
    Value.sortAllOptions items = items.map Value.sortOptions := by
  induction items with
  | nil => rfl
  | cons v rest ih => rw [Value.sortAllOptions, ih, List.map_cons]

mutual

/-- Sorting options leaves the names as they are, at every depth. -/
theorem Value.distinct_sortOptions (v : Value) (h : v.Distinct) : v.sortOptions.Distinct := by
  match v with
  | .document fields => exact Document.distinct_sortOptions fields h
  | .array items => exact Value.allDistinct_sortAllOptions items h
  | .codeWithScope _ scope => exact Document.distinct_sortOptions scope h
  | .double _ | .string _ | .binary _ _ | .undefined | .objectId _ | .boolean _ | .dateTime _
  | .null | .regex _ _ | .dbPointer _ _ | .code _ | .symbol _ | .int32 _ | .timestamp _ | .int64 _
  | .decimal128 _ | .minKey | .maxKey => trivial

/-- Distinct items stay so when options are sorted. -/
theorem Value.allDistinct_sortAllOptions (items : List Value) (h : Value.AllDistinct items) :
    Value.AllDistinct (Value.sortAllOptions items) := by
  match items with
  | [] => trivial
  | v :: rest =>
    exact ⟨Value.distinct_sortOptions v h.1, Value.allDistinct_sortAllOptions rest h.2⟩

/-- A distinct document stays so when options are sorted. -/
theorem Document.distinct_sortOptions (d : List (String × Value)) (h : Document.Distinct d) :
    Document.Distinct (Document.sortOptions d) := by
  match d with
  | [] => trivial
  | (key, v) :: rest =>
    refine ⟨?_, Value.distinct_sortOptions v h.2.1, Document.distinct_sortOptions rest h.2.2⟩
    have hkeys := Document.keys_sortOptions rest
    rw [Document.keys, Document.keys] at hkeys
    rw [hkeys]
    exact h.1

end

/-- Items whose options are sorted stay as they are. -/
theorem Value.sortAllOptions_eq_self {items : List Value}
    (h : ∀ v ∈ items, v.sortOptions = v) : Value.sortAllOptions items = items := by
  induction items with
  | nil => rfl
  | cons v rest ih =>
    rw [List.forall_mem_cons] at h
    rw [Value.sortAllOptions, h.1, ih h.2]

/-- A document whose options are sorted stays as it is. -/
theorem Document.sortOptions_eq_self {d : Document}
    (h : ∀ p ∈ d, p.2.sortOptions = p.2) : Document.sortOptions d = d := by
  induction d with
  | nil => rfl
  | cons p rest ih =>
    obtain ⟨key, v⟩ := p
    rw [List.forall_mem_cons] at h
    rw [Document.sortOptions, h.1, ih h.2]

/-! ### Documents from pairs -/

namespace Document

/-- A new name comes last. -/
theorem insert_of_not_mem {d : Document} {key : String} (value : Value) (h : key ∉ d.keys) :
    d.insert key value = d ++ [(key, value)] := by
  induction d with
  | nil => rfl
  | cons p rest ih =>
    obtain ⟨k, v⟩ := p
    rw [keys, List.map_cons, List.mem_cons, not_or] at h
    rw [insert, if_neg (fun hk => h.1 hk.symm), ih h.2, List.cons_append]

/-- Inserting a known name replaces its value in its place. -/
theorem insert_append_cons {before : Document} {key : String} (after : Document)
    (old value : Value) (h : key ∉ before.keys) :
    insert (before ++ (key, old) :: after) key value = before ++ (key, value) :: after := by
  induction before with
  | nil => rw [List.nil_append, insert, if_pos rfl, List.nil_append]
  | cons p rest ih =>
    obtain ⟨k, v⟩ := p
    rw [keys, List.map_cons, List.mem_cons, not_or] at h
    rw [List.cons_append, insert, if_neg (fun hk => h.1 hk.symm), ih h.2, List.cons_append]

/-- Inserting a name keeps what holds of all values, if it holds of the new one. -/
theorem forall_insert {P : Value → Prop} {d : Document} (key : String) {value : Value}
    (hd : ∀ p ∈ d, P p.2) (hvalue : P value) : ∀ p ∈ d.insert key value, P p.2 := by
  induction d with
  | nil =>
    intro p hp
    rw [insert_nil, List.mem_singleton] at hp
    subst hp
    exact hvalue
  | cons q rest ih =>
    obtain ⟨k, v⟩ := q
    rw [List.forall_mem_cons] at hd
    rw [insert]
    split
    · exact List.forall_mem_cons.2 ⟨hvalue, hd.2⟩
    · exact List.forall_mem_cons.2 ⟨hd.1, ih hd.2⟩

/-- Inserting a name keeps what holds of all names, if it holds of the new one. -/
theorem forall_keys_insert {P : String → Prop} {d : Document} {key : String} (value : Value)
    (hd : ∀ k ∈ d.keys, P k) (hkey : P key) : ∀ k ∈ (d.insert key value).keys, P k := by
  intro k hk
  rw [keys_insert] at hk
  split at hk
  · exact hd k hk
  · rcases List.mem_append.1 hk with hk | hk
    · exact hd k hk
    · rw [List.mem_singleton.1 hk]
      exact hkey

/-- Inserting a name keeps the names distinct. -/
theorem nodup_keys_insert {d : Document} (key : String) (value : Value) (h : d.keys.Nodup) :
    (d.insert key value).keys.Nodup := by
  rw [keys_insert]
  split
  · exact h
  · next hmem =>
    rw [List.nodup_append]
    refine ⟨h, by simp, ?_⟩
    intro a ha b hb hab
    rw [List.mem_singleton] at hb
    subst hb
    subst hab
    exact hmem ha

/-- The names of a document made up from pairs are distinct. -/
theorem nodup_keys_ofPairs (pairs : List (String × Value)) : (ofPairs pairs).keys.Nodup := by
  -- the induction needs any document to start from that has distinct names.
  have hfold : ∀ d : Document, d.keys.Nodup →
      (keys (pairs.foldl (fun (d : Document) p => d.insert p.1 p.2) d)).Nodup := by
    induction pairs with
    | nil => intro d hd; exact hd
    | cons p rest ih => intro d hd; exact ih _ (nodup_keys_insert p.1 p.2 hd)
  exact hfold empty List.nodup_nil

/-- What holds of the values of some pairs holds of the document that they make up. -/
theorem forall_ofPairs {P : Value → Prop} {pairs : List (String × Value)}
    (h : ∀ p ∈ pairs, P p.2) : ∀ p ∈ ofPairs pairs, P p.2 := by
  have hfold : ∀ d : Document, (∀ p ∈ d, P p.2) →
      ∀ p ∈ pairs.foldl (fun (d : Document) p => d.insert p.1 p.2) d, P p.2 := by
    induction pairs with
    | nil => intro d hd; exact hd
    | cons p rest ih =>
      rw [List.forall_mem_cons] at h
      intro d hd
      exact ih h.2 _ (forall_insert p.1 hd h.1)
  exact hfold empty (List.forall_mem_nil _)

/-- What holds of the names of some pairs holds of those of the document that they make up. -/
theorem forall_keys_ofPairs {P : String → Prop} {pairs : List (String × Value)}
    (h : ∀ key ∈ keys pairs, P key) : ∀ key ∈ (ofPairs pairs).keys, P key := by
  have hfold : ∀ d : Document, (∀ key ∈ d.keys, P key) →
      ∀ key ∈ keys (pairs.foldl (fun (d : Document) p => d.insert p.1 p.2) d), P key := by
    induction pairs with
    | nil => intro d hd; exact hd
    | cons p rest ih =>
      rw [keys, List.map_cons, List.forall_mem_cons] at h
      intro d hd
      exact ih h.2 _ (forall_keys_insert p.2 hd h.1)
  exact hfold empty (List.forall_mem_nil _)

/-- Pairs whose names are new and distinct come after what is there. -/
theorem foldl_insert_eq_append {front : Document} {pairs : List (String × Value)}
    (h : (keys (front ++ pairs)).Nodup) :
    pairs.foldl (fun (d : Document) p => d.insert p.1 p.2) front = front ++ pairs := by
  induction pairs generalizing front with
  | nil => rw [List.foldl_nil, List.append_nil]
  | cons p rest ih =>
    have hp : p.1 ∉ front.keys := by
      rw [keys, List.map_append, List.map_cons, List.nodup_append] at h
      intro hmem
      exact h.2.2 p.1 hmem p.1 (List.mem_cons_self) rfl
    rw [List.append_cons] at h
    rw [List.foldl_cons, insert_of_not_mem p.2 hp, ih h, ← List.append_cons]

/-- Pairs with distinct names are the document that they make up. -/
theorem ofPairs_eq_self {pairs : List (String × Value)} (h : (keys pairs).Nodup) :
    ofPairs pairs = pairs :=
  @foldl_insert_eq_append empty pairs h

/-- Documents without a name in common, one after another, have distinct names. -/
theorem nodup_keys_append {d e : Document} (hd : d.keys.Nodup) (he : e.keys.Nodup)
    (h : ∀ key ∈ d.keys, key ∉ e.keys) : (keys (d ++ e)).Nodup := by
  rw [keys, List.map_append, List.nodup_append]
  refine ⟨hd, he, ?_⟩
  rintro key hkey other hother rfl
  exact h key hkey hother

/-- Distinct documents without a name in common make a distinct one. -/
theorem distinct_append {d e : Document} (hd : Document.Distinct d) (he : Document.Distinct e)
    (h : ∀ key ∈ d.keys, key ∉ e.keys) : Document.Distinct (d ++ e) := by
  rw [distinct_iff] at hd he ⊢
  exact ⟨nodup_keys_append hd.1 he.1 h, List.forall_mem_append.2 ⟨hd.2, he.2⟩⟩

/-- A distinct document stays so when a distinct value is inserted. -/
theorem distinct_insert {d : Document} {value : Value} (key : String) (hd : Document.Distinct d)
    (hvalue : value.Distinct) : Document.Distinct (d.insert key value) := by
  rw [distinct_iff] at hd ⊢
  exact ⟨nodup_keys_insert key value hd.1, forall_insert key hd.2 hvalue⟩

/-- A part of a distinct document is distinct. -/
theorem distinct_filter {d : Document} (p : String × Value → Bool) (hd : Document.Distinct d) :
    Document.Distinct (d.filter p) := by
  rw [distinct_iff] at hd ⊢
  refine ⟨(List.filter_sublist.map Prod.fst).nodup hd.1, ?_⟩
  intro q hq
  exact hd.2 q (List.mem_filter.1 hq).1

/-- Options can be sorted before an insertion as well as after it. -/
theorem sortOptions_insert (d : Document) (key : String) (value : Value) :
    Document.sortOptions (d.insert key value) =
      insert (Document.sortOptions d) key value.sortOptions := by
  induction d with
  | nil => rfl
  | cons p rest ih =>
    obtain ⟨k, v⟩ := p
    rw [insert, Document.sortOptions, insert]
    by_cases hk : k = key
    · rw [if_pos hk, if_pos hk, Document.sortOptions]
    · rw [if_neg hk, if_neg hk, Document.sortOptions, ih]

/-- Sorting options passes through the insertion of pairs. -/
theorem sortOptions_foldl_insert (pairs : List (String × Value)) (d : Document) :
    Document.sortOptions (pairs.foldl (fun (d : Document) p => d.insert p.1 p.2) d) =
      (Document.sortOptions pairs).foldl (fun (d : Document) p => d.insert p.1 p.2)
        (Document.sortOptions d) := by
  induction pairs generalizing d with
  | nil => rfl
  | cons p rest ih =>
    obtain ⟨key, v⟩ := p
    rw [List.foldl_cons, ih, sortOptions_insert, Document.sortOptions, List.foldl_cons]

/-- Sorting options leaves the names as they are, and so the document is made up of its own
    pairs. -/
theorem ofPairs_sortOptions {d : Document} (h : Document.Distinct d) :
    ofPairs (Document.sortOptions d) = Document.sortOptions d := by
  apply ofPairs_eq_self
  rw [keys_sortOptions]
  exact ((distinct_iff d).1 h).1

end Document

end CommandWire
