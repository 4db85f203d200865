import CommandWire.Value.Basic

namespace CommandWire.Document

/-!
# Names in a document

* `get?_eq_none_iff`, `mem_of_get?` — a document has no value for a name that it lacks, and for no
  other; what it has is among its pairs.
* `rename` — the document in which a name has been replaced by another one, in its place.
* `get?_rename_of_ne`, `not_mem_keys_rename`, `mem_keys_rename` — the values of other names are the
  same, the old name is gone, and the new one is there.
* `AgreeOn` — documents that have the same values for some names.
-/

/-! ### Values -/

/-- A name holds nothing when it is not there. -/
theorem get?_eq_none_iff (d : Document) (key : String) : get? d key = none ↔ key ∉ d.keys := by
  induction d with
  | nil => simp [keys]
  | cons p rest ih =>
    obtain ⟨k, v⟩ := p
    rw [keys, List.map_cons, List.mem_cons, not_or, get?]
    by_cases h : k = key
    · simp [h]
    · rw [if_neg h, ih]
      exact ⟨fun hrest => ⟨fun hkey => h hkey.symm, hrest⟩, fun hkey => hkey.2⟩

/-- A name that is there holds something. -/
theorem exists_get? {d : Document} {key : String} (h : key ∈ d.keys) :
    ∃ value, get? d key = some value := by
  cases hvalue : get? d key with
  | none => exact absurd h ((get?_eq_none_iff d key).1 hvalue)
  | some value => exact ⟨value, rfl⟩

/-- What a name holds stands in the document under it. -/
theorem mem_of_get? {d : Document} {key : String} {value : Value} (h : get? d key = some value) :
    (key, value) ∈ d := by
  induction d with
  | nil => cases h
  | cons p rest ih =>
    obtain ⟨k, v⟩ := p
    rw [get?] at h
    split at h
    · next hk =>
      cases h
      rw [hk]
      exact List.mem_cons_self
    · exact List.mem_cons_of_mem _ (ih h)

/-- The values of other names come from the front. -/
theorem get?_append_of_not_mem {e : Document} {key : String} (d : Document) (h : key ∉ e.keys) :
    get? (d ++ e) key = get? d key := by
  induction d with
  | nil => exact (get?_eq_none_iff e key).2 h
  | cons p rest ih =>
    obtain ⟨k, v⟩ := p
    rw [List.cons_append, get?, get?, ih]

/-! ### Renaming -/

/-- Replaces a name by another one, in its place. -/
def rename (d : Document) (old new : String) : Document :=
  d.map fun p => (if p.1 = old then new else p.1, p.2)

variable {d : Document} {old new key : String}

/-- Renaming changes one name in its place. -/
theorem keys_rename (d : Document) (old new : String) :
    keys (d.rename old new) = d.keys.map fun key => if key = old then new else key := by
  simp [keys, rename, Function.comp_def]

/-- Renaming leaves what stands under other names. -/
theorem get?_rename_of_ne (d : Document) (hold : key ≠ old) (hnew : key ≠ new) :
    get? (d.rename old new) key = get? d key := by
  induction d with
  | nil => rfl
  | cons p rest ih =>
    obtain ⟨k, v⟩ := p
    show (if (if k = old then new else k) = key then some v else get? (rename rest old new) key) = _
    rw [ih, get?]
    -- `key` is neither the name that the pair had nor the one that it has got.
    by_cases h : k = old
    · rw [if_pos h, if_neg hnew.symm, if_neg (h ▸ hold.symm)]
    · rw [if_neg h]

/-- The old name is gone. -/
theorem not_mem_keys_rename (d : Document) (h : new ≠ old) : old ∉ keys (d.rename old new) := by
  rw [keys_rename]
  intro hmem
  obtain ⟨key, -, hkey⟩ := List.mem_map.1 hmem
  split at hkey
  · exact h hkey
  · contradiction

/-- The new name is there if the old one was. -/
theorem mem_keys_rename {old : String} (new : String) (h : old ∈ d.keys) :
    new ∈ keys (d.rename old new) := by
  rw [keys_rename]
  exact List.mem_map.2 ⟨old, h, if_pos rfl⟩

/-! ### Agreement -/

/-- Documents that have the same values for some names. -/
def AgreeOn (names : List String) (d e : Document) : Prop := ∀ key ∈ names, get? d key = get? e key

/-- Inserting another name leaves the values as they are. -/
theorem agreeOn_insert {names : List String} (d : Document) (value : Value) (h : key ∉ names) :
    AgreeOn names (d.insert key value) d := by
  intro name hname
  exact get?_insert_of_ne d value fun heq => h (heq ▸ hname)

/-- Documents agree on names that have no part in the renaming. -/
theorem agreeOn_rename {names : List String} (d : Document) (hold : old ∉ names)
    (hnew : new ∉ names) : AgreeOn names (d.rename old new) d := by
  intro key hkey
  exact get?_rename_of_ne d (fun h => hold (h ▸ hkey)) (fun h => hnew (h ▸ hkey))

end CommandWire.Document
