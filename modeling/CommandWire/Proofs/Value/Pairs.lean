import CommandWire.Proofs.Value.Distinct
import CommandWire.Proofs.Value.Rename
import Mathlib.Data.List.Induction

namespace CommandWire.Document

/-!
# What pairs leave in a document

A document that is made up from pairs has each name where it came first, with the value that came
last.  Pairs with other values are overridden on the way.

* `latest`, `overridden` — the pairs whose name does not come again, and the others;
  `latest_append_overridden_perm` says that these are all, and `overridden_eq_nil_iff` when there are
  no others.
* `mem_latest_iff` — where a latest pair stands among the others.
* `ofPairs_perm_latest` — the latest pairs are the pairs of the document, in another order.
* `keys_ofPairs` — the names of the document, in its order.
* `get?_ofPairs_eq_some_iff`, `get?_ofPairs` — the value of a name is the one that it was given last.
* `get?_of_perm_append` — neither their order nor other names make a difference to pairs of distinct
  names.
-/

variable {α β : Type}

/-! ### Pairs that come again -/

/-- The pairs whose name does not come again. -/
def latest : List (String × α) → List (String × α)
  | [] => []
  | p :: rest => if p.1 ∈ rest.map Prod.fst then latest rest else p :: latest rest

/-- The pairs whose name comes again. -/
def overridden : List (String × α) → List (String × α)
  | [] => []
  | p :: rest => if p.1 ∈ rest.map Prod.fst then p :: overridden rest else overridden rest

/-- Every pair is left or overridden. -/
theorem latest_append_overridden_perm (pairs : List (String × α)) :
    (latest pairs ++ overridden pairs).Perm pairs := by
  induction pairs with
  | nil => exact List.Perm.nil
  | cons p rest ih =>
    rw [latest, overridden]
    split
    · exact List.perm_middle.trans (ih.cons p)
    · exact ih.cons p

/-- A pair is left when its name is not given again. -/
theorem mem_latest_of_eq {pairs before after : List (String × α)} {p : String × α}
    (h : pairs = before ++ p :: after) (hlast : p.1 ∉ after.map Prod.fst) : p ∈ latest pairs := by
  subst h
  induction before with
  | nil =>
    rw [List.nil_append, latest, if_neg hlast]
    exact List.mem_cons_self
  | cons q before ih =>
    rw [List.cons_append, latest]
    split
    · exact ih
    · exact List.mem_cons_of_mem q ih

/-- A pair is among the latest if and only if it comes somewhere and its name does not come again. -/
theorem mem_latest_iff {pairs : List (String × α)} {p : String × α} :
    p ∈ latest pairs ↔ ∃ before after, pairs = before ++ p :: after ∧ p.1 ∉ after.map Prod.fst := by
  constructor
  · intro h
    induction pairs with
    | nil => cases h
    | cons q rest ih =>
      rw [latest] at h
      split at h
      · obtain ⟨before, after, rfl, hlast⟩ := ih h
        exact ⟨q :: before, after, rfl, hlast⟩
      · next hlast =>
        rcases List.mem_cons.1 h with rfl | hrest
        · exact ⟨[], rest, rfl, hlast⟩
        · obtain ⟨before, after, rfl, hafter⟩ := ih hrest
          exact ⟨q :: before, after, rfl, hafter⟩
  · rintro ⟨before, after, hpairs, hlast⟩
    exact mem_latest_of_eq hpairs hlast

/-- No pair is overridden if and only if no name stands twice. -/
theorem overridden_eq_nil_iff {pairs : List (String × α)} :
    overridden pairs = [] ↔ (pairs.map Prod.fst).Nodup := by
  induction pairs with
  | nil => exact iff_of_true rfl List.nodup_nil
  | cons p rest ih =>
    rw [overridden, List.map_cons, List.nodup_cons]
    split
    · next hagain => exact iff_of_false (List.cons_ne_nil _ _) fun h => h.1 hagain
    · next hlast => rw [ih, and_iff_right hlast]

/-- Names decide which pairs are overridden, whatever the pairs hold. -/
theorem latest_map (f : α → β) (pairs : List (String × α)) :
    latest (pairs.map fun p => (p.1, f p.2)) = (latest pairs).map fun p => (p.1, f p.2) := by
  induction pairs with
  | nil => rfl
  | cons p rest ih =>
    have hnames : (rest.map fun p => (p.1, f p.2)).map Prod.fst = rest.map Prod.fst := by
      rw [List.map_map]
      rfl
    rw [List.map_cons, latest, latest, hnames, ih]
    split <;> rfl

/-- One more pair overrides those of its name. -/
theorem latest_concat (pairs : List (String × α)) (p : String × α) :
    latest (pairs ++ [p]) = (latest pairs).filter (fun q => q.1 ≠ p.1) ++ [p] := by
  induction pairs with
  | nil => rfl
  | cons q rest ih =>
    have hnames : q.1 ∈ (rest ++ [p]).map Prod.fst ↔ q.1 ∈ rest.map Prod.fst ∨ q.1 = p.1 := by
      rw [List.map_append, List.mem_append, List.map_singleton, List.mem_singleton]
    rw [List.cons_append, latest, latest, ih]
    by_cases hrest : q.1 ∈ rest.map Prod.fst
    · rw [if_pos (hnames.2 (.inl hrest)), if_pos hrest]
    · rw [if_neg hrest]
      by_cases hp : q.1 = p.1
      · rw [if_pos (hnames.2 (.inr hp)), List.filter_cons_of_neg (by simpa using hp)]
      · rw [if_neg (fun h => (hnames.1 h).elim hrest hp),
          List.filter_cons_of_pos (by simpa using hp), List.cons_append]

/-! ### The document -/

/-- The last pair is inserted into what the others built. -/
theorem ofPairs_concat (pairs : Document) (p : String × Value) :
    ofPairs (pairs ++ [p]) = (ofPairs pairs).insert p.1 p.2 := by
  rw [ofPairs, List.foldl_append]
  rfl

/-- An insertion, but for its place. -/
theorem insert_perm {d : Document} (key : String) (value : Value) (h : d.keys.Nodup) :
    (d.insert key value).Perm (d.filter (fun p => p.1 ≠ key) ++ [(key, value)]) := by
  induction d with
  | nil => exact List.Perm.refl _
  | cons p rest ih =>
    obtain ⟨k, v⟩ := p
    rw [keys, List.map_cons, List.nodup_cons] at h
    rw [insert]
    split
    · next hk =>
      subst hk
      -- no other pair has the name, and so no other one is dropped.
      have hrest : rest.filter (fun p => p.1 ≠ k) = rest := by
        rw [List.filter_eq_self]
        intro p hp
        have hname : p.1 ∈ rest.map Prod.fst := List.mem_map_of_mem hp
        have hne : p.1 ≠ k := fun hk => h.1 (hk ▸ hname)
        simpa using hne
      rw [List.filter_cons_of_neg (by simp), hrest]
      exact (List.perm_append_singleton _ _).symm
    · next hk =>
      rw [List.filter_cons_of_pos (by simpa using hk), List.cons_append]
      exact (ih h.2).cons (k, v)

/-- **Pairs of a document.** They are the latest ones of those that make it up. -/
theorem ofPairs_perm_latest (pairs : Document) : (ofPairs pairs).Perm (latest pairs) := by
  induction pairs using List.reverseRecOn with
  | nil => exact List.Perm.nil
  | append_singleton pairs p ih =>
    rw [ofPairs_concat, latest_concat]
    have hinsert := insert_perm p.1 p.2 (nodup_keys_ofPairs pairs)
    exact hinsert.trans ((ih.filter _).append_right [p])

/-- A name at the end stays only if it is new. -/
theorem eraseDups_concat (names : List String) (name : String) :
    (names ++ [name]).eraseDups =
      if name ∈ names then names.eraseDups else names.eraseDups ++ [name] := by
  rw [List.eraseDups_append, List.removeAll]
  split
  · next hmem => simp [hmem]
  · next hmem => simp [hmem, List.eraseDups_cons]

/-- **Names of a document.** Each stands where it came first. -/
theorem keys_ofPairs (pairs : Document) : (ofPairs pairs).keys = (keys pairs).eraseDups := by
  induction pairs using List.reverseRecOn with
  | nil => rfl
  | append_singleton pairs p ih =>
    have hnames : keys (pairs ++ [p]) = keys pairs ++ [p.1] := List.map_append
    rw [ofPairs_concat, keys_insert, ih, hnames, eraseDups_concat]
    simp only [List.mem_eraseDups]

/-- Under distinct names each pair is found. -/
theorem get?_of_mem {d : Document} {key : String} {value : Value} (h : d.keys.Nodup)
    (hmem : (key, value) ∈ d) : d.get? key = some value := by
  induction d with
  | nil => cases hmem
  | cons p rest ih =>
    obtain ⟨k, v⟩ := p
    rw [keys, List.map_cons, List.nodup_cons] at h
    rw [get?]
    rcases List.mem_cons.1 hmem with heq | hrest
    · cases heq
      exact if_pos rfl
    · have hname : key ∈ rest.map Prod.fst := List.mem_map_of_mem hrest
      have hne : k ≠ key := fun hk => h.1 (hk ▸ hname)
      rw [if_neg hne]
      exact ih h.2 hrest

/-- A value is found in any order, and among pairs of other names. -/
theorem get?_of_perm_append {d e others : Document} {key : String} {value : Value}
    (h : d.keys.Nodup) (hmem : (key, value) ∈ d) (hothers : key ∉ others.keys)
    (hperm : e.Perm (d ++ others)) : e.get? key = some value := by
  have hkey : key ∈ e.keys :=
    List.mem_map_of_mem (hperm.mem_iff.2 (List.mem_append_left others hmem))
  obtain ⟨found, hfound⟩ := exists_get? hkey
  have hvalue : d.get? key = some found := by
    rcases List.mem_append.1 (hperm.subset (mem_of_get? hfound)) with hd | hother
    · exact get?_of_mem h hd
    · exact absurd (List.mem_map_of_mem hother) hothers
  rw [hfound, ← hvalue, get?_of_mem h hmem]

/-- Of pairs that are inserted one by one, those that are left are found. -/
theorem get?_ofPairs_eq_some_iff {pairs : Document} {key : String} {value : Value} :
    (ofPairs pairs).get? key = some value ↔ (key, value) ∈ latest pairs := by
  have hmem := (ofPairs_perm_latest pairs).mem_iff (a := (key, value))
  exact ⟨fun h => hmem.1 (mem_of_get? h),
    fun h => get?_of_mem (nodup_keys_ofPairs pairs) (hmem.2 h)⟩

/-- **Values of a document.** Each name has the value that it was given last. -/
theorem get?_ofPairs {pairs before after : Document} {key : String} {value : Value}
    (h : pairs = before ++ (key, value) :: after) (hlast : key ∉ after.keys) :
    (ofPairs pairs).get? key = some value :=
  get?_ofPairs_eq_some_iff.2 (mem_latest_of_eq h hlast)

end CommandWire.Document
