import CommandWire.Namespace
import CommandWire.Proofs.Text.Cut

namespace CommandWire.Namespace

/-!
# Namespaces and their texts

The text of a namespace is split at its first dot.  That gives the namespace back when the first dot
is the one that joins: the database holds none, and what a dot joins is not empty.

* `Splittable` — a namespace that can be told from its text.
* `splitChars_of_not_mem`, `splitChars_append`, `eq_of_splitChars` — what the first dot does.
* `parse_text` — such a namespace is read back from its text.
* `parse_eq_ok_iff` — and from no other text.
* `FirstDotInside`, `exists_splittable_iff` — the texts of such namespaces, by their first dots.
* `splittable_ofCollection_iff` — the namespaces of collections among them.
* `parse_inverts_text` — splitting and joining undo each other, and where they do not.
-/

/-- The first dot of the text is the one that joins database and collection, and neither of them is
    empty then. -/
structure Splittable (ns : Namespace) : Prop where
  noDot : '.' ∉ ns.database.toList
  joined : ∀ collection, ns.collection = some collection → ns.database ≠ "" ∧ collection ≠ ""

/-! ### The first dot -/

/-- Characters without a dot are all database. -/
theorem splitChars_of_not_mem {cs : List Char} (h : '.' ∉ cs) : splitChars cs = (cs, none) := by
  rw [splitChars, Cut.takeWhile_of_not_mem h, Cut.dropWhile_of_not_mem h]

/-- Characters are split at their first dot. -/
theorem splitChars_append {before : List Char} (after : List Char) (h : '.' ∉ before) :
    splitChars (before ++ '.' :: after) = (before, some after) := by
  rw [splitChars, Cut.takeWhile_append after h, Cut.dropWhile_append after h]

/-- What comes before the first dot holds none, and what comes after it follows the dot. -/
theorem eq_of_splitChars {cs before : List Char} {after : Option (List Char)}
    (h : splitChars cs = (before, after)) :
    '.' ∉ before ∧ cs = before ++ after.elim [] ('.' :: ·) := by
  by_cases hdot : '.' ∈ cs
  · obtain ⟨front, back, rfl, hfront⟩ := List.eq_append_cons_of_mem hdot
    rw [splitChars_append back hfront] at h
    cases h
    exact ⟨hfront, rfl⟩
  · rw [splitChars_of_not_mem hdot] at h
    cases h
    exact ⟨hdot, (List.append_nil _).symm⟩

/-! ### Reading a text -/

/-- A text with a first character is not empty. -/
theorem ofList_cons_ne_empty (c : Char) (cs : List Char) : String.ofList (c :: cs) ≠ "" :=
  mt String.ofList_eq_empty_iff.1 (List.cons_ne_nil c cs)

/-- Database and collection with the dot between them, as characters. -/
theorem toList_join (database collection : String) :
    (database ++ "." ++ collection).toList = database.toList ++ '.' :: collection.toList := by
  rw [String.toList_append, String.toList_append, List.append_assoc]
  rfl

/-- A text without a dot is a database. -/
theorem splitText_of_not_mem {text : String} (h : '.' ∉ text.toList) :
    splitText text = .ok (text, none) := by
  rw [splitText, splitChars_of_not_mem h]

/-- A text with a dot is a database and a collection, as long as neither is empty. -/
theorem splitText_join {database collection : String} (hdot : '.' ∉ database.toList)
    (hdatabase : database ≠ "") (hcollection : collection ≠ "") :
    splitText (database ++ "." ++ collection) = .ok (database, some collection) := by
  have hbefore : database.toList ≠ [] := fun h => hdatabase (String.toList_eq_nil_iff.1 h)
  have hafter : collection.toList ≠ [] := fun h => hcollection (String.toList_eq_nil_iff.1 h)
  rw [splitText, toList_join, splitChars_append _ hdot]
  split
  · next h => cases h
  · next h => exact absurd (congrArg Prod.fst h) hbefore
  · next h => exact absurd (Option.some.inj (congrArg Prod.snd h)) hafter
  · next h =>
    cases h
    rw [String.ofList_toList, String.ofList_toList]

/-- **Round trip.** A namespace that can be told from its text is read back from it. -/
theorem parse_text {ns : Namespace} (h : ns.Splittable) : parse ns.text = .ok ns := by
  obtain ⟨database, collection⟩ := ns
  cases collection with
  | none =>
    have hsplit : splitText database = .ok (database, none) := splitText_of_not_mem h.noDot
    show parse database = _
    rw [parse, split, hsplit]
    rfl
  | some collection =>
    obtain ⟨hdatabase, hcollection⟩ := h.joined collection rfl
    have hsplit := splitText_join h.noDot hdatabase hcollection
    show parse (database ++ "." ++ collection) = _
    rw [parse, split, hsplit]
    rfl

/-- The parts of a text that is split are those of a namespace that can be told from its text. -/
theorem splittable_of_splitText {text database : String} {collection : Option String}
    (h : splitText text = .ok (database, collection)) :
    Splittable ⟨database, collection⟩ ∧ Namespace.text ⟨database, collection⟩ = text := by
  cases hsplit : splitChars text.toList with
  | mk before after =>
    obtain ⟨hdot, hchars⟩ := eq_of_splitChars hsplit
    rw [splitText, hsplit] at h
    cases after with
    | none =>
      cases h
      have hbefore : text.toList = before := by rw [hchars, Option.elim_none, List.append_nil]
      exact ⟨⟨by rwa [hbefore], nofun⟩, rfl⟩
    | some after =>
      -- what the dot joins is not empty, or the text is refused.
      cases before with
      | nil => cases h
      | cons b before =>
        cases after with
        | nil => cases h
        | cons a after =>
          cases h
          refine ⟨⟨by rwa [String.toList_ofList], ?_⟩, ?_⟩
          · rintro _ ⟨⟩
            exact ⟨ofList_cons_ne_empty b before, ofList_cons_ne_empty a after⟩
          · rw [← String.toList_inj, Namespace.text, toList_join, String.toList_ofList,
              String.toList_ofList, hchars, Option.elim_some]

/-- **Exactness.** A namespace is read from its own text, if it can be told from it, and from no
    other text. -/
theorem parse_eq_ok_iff {text : String} {ns : Namespace} :
    parse text = .ok ns ↔ ns.Splittable ∧ ns.text = text := by
  constructor
  · intro h
    rw [parse, split] at h
    cases hsplit : splitText text with
    | error fault =>
      rw [hsplit] at h
      cases h
    | ok parts =>
      rw [hsplit] at h
      cases h
      exact splittable_of_splitText hsplit
  · rintro ⟨h, rfl⟩
    exact parse_text h

/-- A namespace has the parts of its text. -/
theorem split_eq_ok_iff {text database : String} {collection : Option String} :
    split text = .ok (database, collection) ↔ parse text = .ok ⟨database, collection⟩ := by
  rw [parse]
  cases split text with
  | error e => exact ⟨nofun, nofun⟩
  | ok parts =>
    constructor
    · rintro ⟨⟩
      rfl
    · rintro ⟨⟩
      rfl

/-! ### Where the first dot stands -/

/-- If there is a dot in the text, the first one is neither its first character nor its last. -/
def FirstDotInside (text : String) : Prop :=
  '.' ∈ text.toList →
    text.toList.idxOf '.' ≠ 0 ∧ text.toList.idxOf '.' + 1 ≠ text.toList.length

/-- The first dot stands behind the characters without one. -/
theorem idxOf_append_dot {before : List Char} (after : List Char) (h : '.' ∉ before) :
    (before ++ '.' :: after).idxOf '.' = before.length := by
  rw [List.idxOf_append, if_neg h, List.idxOf_cons_self, Nat.zero_add]

/-- The first dot is inside where there is something on both sides of it. -/
theorem firstDotInside_of_eq_append {text : String} {before after : List Char}
    (htext : text.toList = before ++ '.' :: after) (h : '.' ∉ before) :
    FirstDotInside text ↔ before ≠ [] ∧ after ≠ [] := by
  have hmem : '.' ∈ text.toList := by
    rw [htext]
    exact List.mem_append_right _ List.mem_cons_self
  have hlength : text.toList.length = before.length + (after.length + 1) := by
    rw [htext, List.length_append, List.length_cons]
  rw [FirstDotInside, forall_prop_of_true hmem, hlength, htext, idxOf_append_dot after h,
    ← List.length_pos_iff, ← List.length_pos_iff]
  omega

/-- **Texts of namespaces.** The first dot is inside in the texts of the namespaces that can be told
    from their texts, and only in these. -/
theorem exists_splittable_iff {text : String} :
    (∃ ns : Namespace, ns.Splittable ∧ ns.text = text) ↔ FirstDotInside text := by
  constructor
  · rintro ⟨⟨database, collection⟩, hsplittable, rfl⟩
    cases collection with
    | none => exact fun hdot => absurd hdot hsplittable.noDot
    | some collection =>
      obtain ⟨hdatabase, hcollection⟩ := hsplittable.joined collection rfl
      refine (firstDotInside_of_eq_append (toList_join _ _) hsplittable.noDot).2 ⟨?_, ?_⟩
      · exact mt String.toList_eq_nil_iff.1 hdatabase
      · exact mt String.toList_eq_nil_iff.1 hcollection
  · intro hinside
    by_cases hdot : '.' ∈ text.toList
    · obtain ⟨before, after, htext, hbefore⟩ := List.eq_append_cons_of_mem hdot
      obtain ⟨hne, hne'⟩ := (firstDotInside_of_eq_append htext hbefore).1 hinside
      refine ⟨⟨String.ofList before, some (String.ofList after)⟩, ⟨?_, ?_⟩, ?_⟩
      · rwa [String.toList_ofList]
      · rintro _ ⟨⟩
        exact ⟨mt String.ofList_eq_empty_iff.1 hne, mt String.ofList_eq_empty_iff.1 hne'⟩
      · rw [← String.toList_inj, Namespace.text, toList_join, String.toList_ofList,
          String.toList_ofList, htext]
    · exact ⟨⟨text, none⟩, ⟨hdot, nofun⟩, rfl⟩

/-- The first dot is the first character, or it is the last. -/
theorem eq_startsWithDot_iff {text : String} {fault : Fault} (h : splitText text = .error fault) :
    fault = .startsWithDot ↔ text.toList.head? = some '.' := by
  cases hsplit : splitChars text.toList with
  | mk before after =>
    obtain ⟨hdot, hchars⟩ := eq_of_splitChars hsplit
    rw [splitText, hsplit] at h
    rw [hchars]
    cases after with
    | none => cases h
    | some after =>
      cases before with
      | nil =>
        cases h
        exact ⟨fun _ => rfl, fun _ => rfl⟩
      | cons b before =>
        cases after with
        | nil =>
          cases h
          refine ⟨nofun, fun hfirst => ?_⟩
          cases hfirst
          exact absurd List.mem_cons_self hdot
        | cons a after => cases h

/-- A text is refused for its first dot. -/
theorem exists_fault_of_parse {text : String} {e : ProtocolError} (h : parse text = .error e) :
    ∃ fault : Fault, e = .invalidNamespace text fault.reason ∧
      (fault = .startsWithDot ↔ text.toList.head? = some '.') := by
  rw [parse, split] at h
  cases hsplit : splitText text with
  | ok parts =>
    rw [hsplit] at h
    cases h
  | error fault =>
    rw [hsplit] at h
    cases h
    exact ⟨fault, rfl, eq_startsWithDot_iff hsplit⟩

/-- A text is a namespace when its first dot is neither its first character nor its last, or
    missing. -/
theorem exists_parse_iff {text : String} : (∃ ns, parse text = .ok ns) ↔ FirstDotInside text := by
  simp only [parse_eq_ok_iff]
  exact exists_splittable_iff

/-! ### Joining -/

/-- A database and a collection are told apart when both are there and no dot stands in the
    database. -/
theorem splittable_ofCollection_iff {database collection : String} :
    (ofCollection database collection).Splittable ↔
      database ≠ "" ∧ '.' ∉ database.toList ∧ collection ≠ "" := by
  constructor
  · intro h
    obtain ⟨hdatabase, hcollection⟩ := h.joined collection rfl
    exact ⟨hdatabase, h.noDot, hcollection⟩
  · rintro ⟨hdatabase, hdot, hcollection⟩
    refine ⟨hdot, ?_⟩
    rintro _ ⟨⟩
    exact ⟨hdatabase, hcollection⟩

/-- **Splitting and joining.** A text is a namespace if and only if it has no dot or its first dot is
    neither its first character nor its last.  The namespace has the parts of the text, its database
    holds no dot, and its text is the one that it was read from; any other text is refused for where
    its first dot stands.  The namespace of a collection is read back from its text if and only if
    the database is not empty and holds no dot and the collection is not empty. -/
theorem parse_inverts_text :
    (∀ text : String,
      ((∃ ns, parse text = .ok ns) ↔ FirstDotInside text) ∧
      (∀ ns, parse text = .ok ns →
        split text = .ok (ns.database, ns.collection) ∧ '.' ∉ ns.database.toList ∧
          ns.text = text ∧ parse ns.text = .ok ns) ∧
      (¬ FirstDotInside text → ∃ fault : Fault,
        parse text = .error (.invalidNamespace text fault.reason) ∧
          (fault = .startsWithDot ↔ text.toList.head? = some '.'))) ∧
    ∀ database collection : String,
      parse (ofCollection database collection).text = .ok (ofCollection database collection) ↔
        database ≠ "" ∧ '.' ∉ database.toList ∧ collection ≠ "" := by
  refine ⟨fun text => ⟨exists_parse_iff, fun ns hns => ?_, fun houtside => ?_⟩,
    fun database collection => ?_⟩
  · obtain ⟨hsplittable, htext⟩ := parse_eq_ok_iff.1 hns
    exact ⟨split_eq_ok_iff.2 hns, hsplittable.noDot, htext, parse_text hsplittable⟩
  · cases hparse : parse text with
    | ok ns => exact absurd (exists_parse_iff.1 ⟨ns, hparse⟩) houtside
    | error e =>
      obtain ⟨fault, rfl, hfault⟩ := exists_fault_of_parse hparse
      exact ⟨fault, rfl, hfault⟩
  · rw [parse_eq_ok_iff, and_iff_left rfl, splittable_ofCollection_iff]

/-- The first dot is the one that joins, and any others are the collection's. -/
example : parse "foo.bar.baz." = .ok (ofCollection "foo" "bar.baz.") := rfl

end CommandWire.Namespace
