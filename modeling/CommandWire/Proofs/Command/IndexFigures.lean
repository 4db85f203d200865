import CommandWire.Proofs.Command.Figures

namespace CommandWire.CollStats

/-!
# Figures about indexes

A reply holds a list of names and sizes.  The number of indexes and their whole size are taken of the
list, but the sizes are reported by name, and so a size is missing there when its name is given
again.

* `CountAgrees`, `TotalAgrees` — a document agrees with itself about the number of indexes, or about
  their whole size.
* `sizeTable_perm` — the sizes that are reported by name are the latest ones, in another order;
  `length_sizeTable_iff` and `integerSum_sizeTable` say how many they are and what they sum up to.
* `indexFigures_agree_iff` — for which lists the figures agree.
-/

/-! ### Agreement -/

/-- The sum of the integers among the values of a document. -/
def integerSum (d : Document) : Int := (d.filterMap fun p => p.2.integer?).sum

/-- The number of indexes is that of the sizes that are reported by name. -/
def CountAgrees (d : Document) : Prop :=
  ∃ (sizes : Document) (count : Value), d.get? "indexSizes" = some (.document sizes) ∧
    d.get? "nindexes" = some count ∧ count.integer? = some (sizes.length : Int)

/-- The whole size is the sum of the sizes that are reported by name. -/
def TotalAgrees (d : Document) : Prop :=
  ∃ (sizes : Document) (total : Value), d.get? "indexSizes" = some (.document sizes) ∧
    d.get? "totalIndexSize" = some total ∧ total.integer? = some (integerSum sizes)

namespace Reply

variable {r : Reply} {d : Document}

/-! ### Sums of sizes -/

/-- The sizes together are those that are left and those that were overridden. -/
theorem sumOfSizes_eq_add (sizes : List (String × UInt64)) :
    sumOfSizes sizes =
      sumOfSizes (Document.latest sizes) + sumOfSizes (Document.overridden sizes) := by
  have hperm := (Document.latest_append_overridden_perm sizes).map fun p => p.2.toNat
  rw [List.map_append] at hperm
  rw [sumOfSizes, ← hperm.sum_eq, List.sum_append]
  rfl

/-- Sizes add up to zero only if each is zero. -/
theorem sumOfSizes_eq_zero_iff (sizes : List (String × UInt64)) :
    sumOfSizes sizes = 0 ↔ ∀ p ∈ sizes, p.2 = 0 := by
  rw [sumOfSizes, List.sum_eq_zero_iff_forall_eq_nat, List.forall_mem_map]
  refine forall₂_congr fun p _ => ?_
  rw [← UInt64.toNat_zero, UInt64.toNat_inj]

/-- The integers of sizes that can be written are the sizes. -/
theorem integerSum_map_sizePair {sizes : List (String × UInt64)}
    (h : ∀ p ∈ sizes, p.2.toNat < 2 ^ 63) :
    integerSum (sizes.map sizePair) = (sumOfSizes sizes : Int) := by
  induction sizes with
  | nil => rfl
  | cons p rest ih =>
    rw [List.forall_mem_cons] at h
    have hp : (sizePair p).2.integer? = some (p.2.toNat : Int) :=
      (Number.counts_counted h.1).integer_eq
    have hsum : sumOfSizes (p :: rest) = p.2.toNat + sumOfSizes rest := List.sum_cons
    rw [integerSum] at ih ⊢
    rw [List.map_cons, List.filterMap_cons, hp, List.sum_cons, ih h.2, hsum, Nat.cast_add]

/-! ### Sizes by name -/

/-- The sizes that are reported by name are the latest ones. -/
theorem sizeTable_perm (r : Reply) :
    r.sizeTable.Perm ((Document.latest r.indexSizes).map sizePair) := by
  have hlatest : Document.latest (r.indexSizes.map sizePair) =
      (Document.latest r.indexSizes).map sizePair :=
    Document.latest_map (fun size : UInt64 => Number.counted size.toNat) r.indexSizes
  rw [← hlatest]
  exact Document.ofPairs_perm_latest _

/-- There are as many sizes as names when no name is given twice. -/
theorem length_sizeTable_iff :
    r.indexSizes.length = r.sizeTable.length ↔ (r.indexSizes.map Prod.fst).Nodup := by
  have hall := (Document.latest_append_overridden_perm r.indexSizes).length_eq
  have hlatest := r.sizeTable_perm.length_eq
  rw [List.length_append] at hall
  rw [List.length_map] at hlatest
  rw [← Document.overridden_eq_nil_iff, ← List.length_eq_zero_iff]
  omega

/-- The values of the table add up to the sizes that are left. -/
theorem integerSum_sizeTable (h : r.Representable) :
    integerSum r.sizeTable = (sumOfSizes (Document.latest r.indexSizes) : Int) := by
  have hmem : ∀ p ∈ Document.latest r.indexSizes, p ∈ r.indexSizes := fun p hp =>
    (Document.latest_append_overridden_perm r.indexSizes).subset (List.mem_append_left _ hp)
  rw [← integerSum_map_sizePair fun p hp => h.indexSizes p (hmem p hp)]
  exact (r.sizeTable_perm.filterMap _).sum_eq

/-! ### Which figures agree -/

/-- The number of indexes agrees with the table when no name is given twice. -/
theorem countAgrees_table_iff (h : r.Representable) :
    CountAgrees r.table ↔ (r.indexSizes.map Prod.fst).Nodup := by
  have hsizes : r.table.get? "indexSizes" = some (.document r.sizeTable) :=
    get?_table (by simp [table])
  have hcount : r.table.get? "nindexes" = some (Number.counted r.indexSizes.length) :=
    get?_table (by simp [table])
  have hwritten := (Number.counts_counted h.indexCount).integer_eq
  rw [← length_sizeTable_iff, CountAgrees, hsizes, hcount]
  constructor
  · rintro ⟨_, _, ⟨⟩, ⟨⟩, hagrees⟩
    rw [hwritten] at hagrees
    exact Int.ofNat.inj (Option.some.inj hagrees)
  · intro hlength
    exact ⟨_, _, rfl, rfl, by rw [hwritten, hlength]⟩

/-- The total agrees with the table when every size that was overridden is zero. -/
theorem totalAgrees_table_iff (h : r.Representable) :
    TotalAgrees r.table ↔ ∀ p ∈ Document.overridden r.indexSizes, p.2 = 0 := by
  have hsizes : r.table.get? "indexSizes" = some (.document r.sizeTable) :=
    get?_table (by simp [table])
  have htotal : r.table.get? "totalIndexSize" = some (Number.counted r.exactIndexSize) :=
    get?_table (by simp [table])
  have hwritten := (Number.counts_counted (n := r.exactIndexSize) h.totalIndexSize).integer_eq
  -- what is missing in the sum by name is what is overridden.
  have hsplit : r.exactIndexSize = _ := sumOfSizes_eq_add r.indexSizes
  rw [← sumOfSizes_eq_zero_iff, TotalAgrees, hsizes, htotal]
  constructor
  · rintro ⟨_, _, ⟨⟩, ⟨⟩, hagrees⟩
    rw [hwritten, integerSum_sizeTable h] at hagrees
    have hsame := Int.ofNat.inj (Option.some.inj hagrees)
    omega
  · intro hzero
    refine ⟨_, _, rfl, rfl, ?_⟩
    rw [hwritten, integerSum_sizeTable h, hsplit, hzero, Nat.add_zero]

/-- **Figures about indexes.** The number of indexes is that of the sizes by name if and only if no
    name stands twice, and their whole size is the sum of the sizes by name if and only if every size
    whose name is given again is zero. -/
theorem indexFigures_agree_iff (h : command.writeResult r = .ok d) :
    (CountAgrees d ↔ (r.indexSizes.map Prod.fst).Nodup) ∧
      (TotalAgrees d ↔ ∀ p ∈ Document.overridden r.indexSizes, p.2 = 0) ∧
      ((r.indexSizes.map Prod.fst).Nodup → CountAgrees d ∧ TotalAgrees d) := by
  obtain ⟨hfits, -, rfl⟩ := writeResult_eq_ok_iff.1 h
  have hcount := countAgrees_table_iff hfits
  have htotal := totalAgrees_table_iff hfits
  refine ⟨hcount, htotal, fun hnodup => ⟨hcount.2 hnodup, htotal.2 ?_⟩⟩
  rw [Document.overridden_eq_nil_iff.2 hnodup]
  exact List.forall_mem_nil _

/-- A reply about an empty collection with given sizes of indexes. -/
def withIndexSizes (sizes : List (String × UInt64)) : Reply :=
  ⟨⟨1, by decide⟩, "db", "users", 0, 0, 0, .uncapped, [], sizes⟩

/-- A reply with some index sizes and nothing else fits when they do. -/
theorem representable_withIndexSizes {sizes : List (String × UInt64)}
    (hlength : sizes.length < 2 ^ 63) (hsizes : ∀ p ∈ sizes, p.2.toNat < 2 ^ 63)
    (hsum : sumOfSizes sizes < 2 ^ 63) : (withIndexSizes sizes).Representable := by
  have hzero : (0 : UInt64).toNat < 2 ^ 63 := by decide
  exact ⟨hzero, hzero, fun hcount => absurd rfl hcount, hzero, hlength, hsizes, hsum, nofun⟩

/-- A reply with some index sizes and nothing else is written when it fits. -/
theorem writeResult_withIndexSizes {sizes : List (String × UInt64)}
    (h : (withIndexSizes sizes).Representable) :
    command.writeResult (withIndexSizes sizes) = .ok (withIndexSizes sizes).table :=
  writeResult_eq_ok_iff.2 ⟨h, fun hcount => absurd rfl hcount, rfl⟩

/-- An empty index that is given again is counted twice, but takes no room. -/
theorem indexFigures_of_empty_index :
    ∃ d, command.writeResult (withIndexSizes [("a_1", 0), ("b_1", 3), ("a_1", 2)]) = .ok d ∧
      ¬ CountAgrees d ∧ TotalAgrees d := by
  have hfits : (withIndexSizes [("a_1", 0), ("b_1", 3), ("a_1", 2)]).Representable :=
    representable_withIndexSizes (by decide) (by decide) (by decide)
  have hwritten := writeResult_withIndexSizes hfits
  obtain ⟨hcount, htotal, -⟩ := indexFigures_agree_iff hwritten
  exact ⟨_, hwritten, fun h => absurd (hcount.1 h) (by decide), htotal.2 (by decide)⟩

/-- An index that is given twice with different sizes: neither figure is that of the sizes by name. -/
theorem indexFigures_disagree :
    ∃ d, command.writeResult (withIndexSizes [("a_1", 1), ("a_1", 2)]) = .ok d ∧
      ¬ CountAgrees d ∧ ¬ TotalAgrees d := by
  have hfits : (withIndexSizes [("a_1", 1), ("a_1", 2)]).Representable :=
    representable_withIndexSizes (by decide) (by decide) (by decide)
  refine ⟨_, writeResult_withIndexSizes hfits, ?_, ?_⟩
  · rw [countAgrees_table_iff hfits]
    decide
  · rw [totalAgrees_table_iff hfits]
    decide

end Reply

end CommandWire.CollStats
