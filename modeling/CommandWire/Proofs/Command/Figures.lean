import CommandWire.Command.CollStats
import CommandWire.Proofs.Field.Read
import CommandWire.Proofs.Number.Count
import CommandWire.Proofs.Value.Pairs

namespace CommandWire.CollStats.Reply

/-!
# Figures of a collection

The figures of a reply are computed in words of 64 bits, and they are written as they would be in
unbounded numbers.  Sums of sizes are added up one by one, which makes no difference; the mean is
taken of a product, which has to fit 64 bits itself.

* `exactIndexSize`, `exactAverage` — the figures that are computed, in unbounded numbers.
* `foldlM_addSize_eq_ok_iff`, `averageSize_eq_ok_iff` — the figures in words.
* `Representable` — every figure of a reply can be written; `Scalable` — the product fits.
* `table`, `figures_eq_ok_iff` — a reply is written if both hold, as a table of its exact figures.
* `Reported`, `reported_of_writeResult` — what a document says about a collection, which is what holds
  of it.
* `exists_writeResult_iff` — which replies are written.
-/

variable {r : Reply} {d : Document}

/-- Turning faults into errors leaves the results as they are. -/
theorem orBadValue_eq_ok_iff {α : Type} {x : Except Fault α} {a : α} :
    orBadValue x = .ok a ↔ x = .ok a := by
  cases x with
  | error fault => exact iff_of_false nofun nofun
  | ok b => exact ⟨fun h => by cases h; rfl, fun h => by cases h; rfl⟩

/-! ### Sums -/

/-- The sizes of some indexes together. -/
def sumOfSizes (sizes : List (String × UInt64)) : Nat := (sizes.map fun p => p.2.toNat).sum

/-- The sizes of all indexes together. -/
def exactIndexSize (r : Reply) : Nat := sumOfSizes r.indexSizes

/-- **Running sum.** Sizes are added up exactly, and no sum on the way is too great unless the whole
    is. -/
theorem foldlM_addSize_eq_ok_iff (sizes : List (String × UInt64)) (start total : UInt64) :
    sizes.foldlM (fun sum p => addSize sum p.2) start = .ok total ↔
      total.toNat = start.toNat + sumOfSizes sizes := by
  induction sizes generalizing start with
  | nil =>
    show (Except.ok start : Except Fault UInt64) = .ok total ↔ total.toNat = start.toNat
    rw [Except.ok.injEq, UInt64.toNat_inj, eq_comm]
  | cons p rest ih =>
    have hsum : sumOfSizes (p :: rest) = p.2.toNat + sumOfSizes rest := List.sum_cons
    rw [List.foldlM_cons, addSize, hsum]
    split
    · next hfits =>
      have hnext : (start + p.2).toNat = start.toNat + p.2.toNat := by
        rw [UInt64.toNat_add]
        exact Nat.mod_eq_of_lt hfits
      show rest.foldlM _ (start + p.2) = _ ↔ _
      rw [ih, hnext, Nat.add_assoc]
    · next hover =>
      -- what is to come makes the sum no smaller, and no word is as great.
      refine iff_of_false nofun fun h => ?_
      have htotal : total.toNat < UInt64.size := total.toNat_lt_size
      omega

/-- The sizes of all indexes are added up when the exact sum fits into an unsigned long. -/
theorem totalIndexSize_eq_ok_iff {total : UInt64} :
    r.totalIndexSize = .ok total ↔ total.toNat = r.exactIndexSize := by
  rw [totalIndexSize, foldlM_addSize_eq_ok_iff, UInt64.toNat_zero, Nat.zero_add, exactIndexSize]

/-! ### Means -/

/-- The size in bytes. -/
def scaledSize (r : Reply) : Nat := r.scale.factor.toNat * r.size.toNat

/-- The mean size of a document in bytes; an empty collection has none. -/
def exactAverage (r : Reply) : Option Nat :=
  if r.count = 0 then none else some (r.scaledSize / r.count.toNat)

/-- The size in bytes fits 64 bits, as far as it is asked for. -/
def Scalable (r : Reply) : Prop := r.count ≠ 0 → r.scaledSize < UInt64.size

/-- **Mean.** It is the exact one if the size in bytes fits 64 bits. -/
theorem averageSize_eq_ok_iff {average : Option UInt64} :
    r.averageSize = .ok average ↔ r.Scalable ∧ average.map UInt64.toNat = r.exactAverage := by
  unfold averageSize Scalable exactAverage
  split
  · next hcount =>
    rw [Except.ok.injEq, eq_comm, Option.map_eq_none_iff]
    exact ⟨fun h => ⟨fun hne => absurd hcount hne, h⟩, And.right⟩
  · next hcount =>
    show (if r.scaledSize < UInt64.size then _ else _) = _ ↔ _
    split
    · next hfits =>
      have hquotient : (UInt64.ofNat (r.scaledSize / r.count.toNat)).toNat =
          r.scaledSize / r.count.toNat :=
        UInt64.toNat_ofNat_of_lt' ((Nat.div_le_self _ _).trans_lt hfits)
      rw [Except.ok.injEq, and_iff_right fun _ => hfits, Option.map_eq_some_iff]
      constructor
      · rintro rfl
        exact ⟨_, rfl, hquotient⟩
      · rintro ⟨word, rfl, hword⟩
        rw [← UInt64.ofNat_toNat (x := word), hword]
        rfl
    · next hover => exact iff_of_false nofun fun h => hover (h.1 hcount)

/-! ### Numbers that may be missing -/

/-- A count that may be missing is written when it fits into a signed long. -/
theorem optionalCount_eq_ok_iff {count : Option UInt64} {x : Option Number} :
    optionalCount count = .ok x ↔
      (∀ n ∈ count.map UInt64.toNat, n < 2 ^ 63) ∧ x = (count.map UInt64.toNat).map .narrowest := by
  cases count with
  | none =>
    show (Except.ok none : Checked (Option Number)) = .ok x ↔ _
    rw [Except.ok.injEq, eq_comm]
    exact ⟨fun h => ⟨nofun, h⟩, And.right⟩
  | some n =>
    show ((Number.ofNat n.toNat).map some : Checked (Option Number)) = .ok x ↔ _
    rw [map_eq_ok_iff]
    simp only [Number.ofNat_eq_ok_iff, Option.map_some, Option.mem_some_iff, forall_eq']
    constructor
    · rintro ⟨y, ⟨hfits, rfl⟩, rfl⟩
      exact ⟨hfits, rfl⟩
    · rintro ⟨hfits, rfl⟩
      exact ⟨_, ⟨hfits, rfl⟩, rfl⟩

/-! ### Sizes by name -/

/-- The size of an index under its name. -/
def sizePair (p : String × UInt64) : String × Value := (p.1, Number.counted p.2.toNat)

/-- Sizes are inserted one by one if each can be written. -/
theorem foldlM_insert_eq_ok_iff (sizes : List (String × UInt64)) (start : Document) :
    sizes.foldlM
      (fun (d : Document) p => (Number.ofCount p.2).map fun n => d.insert p.1 n.toValue) start =
        .ok d ↔
      (∀ p ∈ sizes, p.2.toNat < 2 ^ 63) ∧
        d = (sizes.map sizePair).foldl (fun d p => d.insert p.1 p.2) start := by
  induction sizes generalizing start with
  | nil =>
    show (Except.ok start : Checked Document) = .ok d ↔ _
    rw [Except.ok.injEq, eq_comm]
    exact ⟨fun h => ⟨nofun, h⟩, And.right⟩
  | cons p rest ih =>
    rw [List.foldlM_cons, bind_eq_ok, List.forall_mem_cons]
    simp only [map_eq_ok_iff, Number.ofCount, Number.ofNat_eq_ok_iff]
    constructor
    · rintro ⟨_, ⟨_, ⟨hfits, rfl⟩, rfl⟩, hrest⟩
      obtain ⟨hothers, hd⟩ := (ih _).1 hrest
      exact ⟨⟨hfits, hothers⟩, hd⟩
    · rintro ⟨⟨hfits, hothers⟩, hd⟩
      exact ⟨_, ⟨_, ⟨hfits, rfl⟩, rfl⟩, (ih _).2 ⟨hothers, hd⟩⟩

/-- The size of every index under its name, a name that is given again with its last size. -/
def sizeTable (r : Reply) : Document := Document.ofPairs (r.indexSizes.map sizePair)

/-- The sizes are written when each of them fits into a signed long. -/
theorem indexSizesDocument_eq_ok_iff :
    r.indexSizesDocument = .ok d ↔ (∀ p ∈ r.indexSizes, p.2.toNat < 2 ^ 63) ∧ d = r.sizeTable :=
  foldlM_insert_eq_ok_iff r.indexSizes Document.empty

/-! ### The whole reply -/

/-- Every figure of a reply can be written: it is below 2^63. -/
structure Representable (r : Reply) : Prop where
  count : r.count.toNat < 2 ^ 63
  size : r.size.toNat < 2 ^ 63
  average : r.count ≠ 0 → r.scale.factor.toNat * r.size.toNat / r.count.toNat < 2 ^ 63
  storageSize : r.storageSize.toNat < 2 ^ 63
  indexCount : r.indexSizes.length < 2 ^ 63
  indexSizes : ∀ p ∈ r.indexSizes, p.2.toNat < 2 ^ 63
  totalIndexSize : (r.indexSizes.map fun p => p.2.toNat).sum < 2 ^ 63
  max : ∀ n, r.capping = .capped (some n) → n.toNat < 2 ^ 63

/-- A number that may be missing, under a name. -/
def entry (name : String) : Option Nat → Document
  | none => []
  | some n => [(name, Number.counted n)]

/-- The exact figures of a reply. -/
def table (r : Reply) : Document :=
  [("ns", .string r.ns), ("count", Number.counted r.count.toNat),
    ("size", Number.counted r.size.toNat)] ++
  entry "avgObjSize" r.exactAverage ++
  [("storageSize", Number.counted r.storageSize.toNat),
    ("nindexes", Number.counted r.indexSizes.length), ("indexDetails", .document r.indexDetails),
    ("totalIndexSize", Number.counted r.exactIndexSize), ("indexSizes", .document r.sizeTable),
    ("capped", .boolean r.isCapped)] ++
  entry "max" (r.maxCount.map UInt64.toNat)

/-- The mean fits if the quotient does, which is asked only where there are documents. -/
theorem average_representable_iff : (∀ n ∈ r.exactAverage, n < 2 ^ 63) ↔
    (r.count ≠ 0 → r.scale.factor.toNat * r.size.toNat / r.count.toNat < 2 ^ 63) := by
  unfold exactAverage scaledSize
  split
  · next hcount => exact iff_of_true nofun fun hne => absurd hcount hne
  · next hcount => simp [hcount]

/-- The greatest number of documents fits if it is missing or small enough. -/
theorem max_representable_iff : (∀ n ∈ r.maxCount.map UInt64.toNat, n < 2 ^ 63) ↔
    ∀ n, r.capping = .capped (some n) → n.toNat < 2 ^ 63 := by
  unfold maxCount
  cases r.capping with
  | uncapped => exact iff_of_true nofun nofun
  | capped max => cases max <;> simp

/-- Fields that are given one after another stand in that order. -/
theorem puts_eq_table (r : Reply) :
    (Document.empty
      |>.put nsField r.ns
      |>.put countField (.narrowest r.count.toNat)
      |>.put sizeField (.narrowest r.size.toNat)
      |>.putOptional averageSizeField (r.exactAverage.map .narrowest)
      |>.put storageSizeField (.narrowest r.storageSize.toNat)
      |>.put indexCountField (.narrowest r.indexSizes.length)
      |>.put indexDetailsField r.indexDetails
      |>.put totalIndexSizeField (.narrowest r.exactIndexSize)
      |>.put indexSizesField r.sizeTable
      |>.put cappedField r.isCapped
      |>.putOptional maxField ((r.maxCount.map UInt64.toNat).map .narrowest)) = r.table := by
  unfold table
  cases r.exactAverage <;> cases r.maxCount <;> rfl

/-- Every number below 2 to the 63 is an unsigned long. -/
theorem exists_word {n : Nat} (h : n < 2 ^ 63) : ∃ word : UInt64, word.toNat = n :=
  ⟨UInt64.ofNat n, UInt64.toNat_ofNat_of_lt' (h.trans (by decide))⟩

/-- The same for a number that may be missing. -/
theorem exists_optional_word {o : Option Nat} (h : ∀ n ∈ o, n < 2 ^ 63) :
    ∃ word : Option UInt64, word.map UInt64.toNat = o := by
  cases o with
  | none => exact ⟨none, rfl⟩
  | some n =>
    obtain ⟨word, hword⟩ := exists_word (h n rfl)
    exact ⟨some word, congrArg some hword⟩

/-- **Figures.** A reply is written if each figure and the size in bytes fit, and then as the table of
    its exact figures. -/
theorem figures_eq_ok_iff : r.figures = .ok d ↔ r.Representable ∧ r.Scalable ∧ d = r.table := by
  unfold figures
  simp only [bind_eq_ok, Number.ofCount, Number.ofNat_eq_ok_iff, optionalCount_eq_ok_iff,
    indexSizesDocument_eq_ok_iff, orBadValue_eq_ok_iff, totalIndexSize_eq_ok_iff,
    averageSize_eq_ok_iff]
  constructor
  · rintro ⟨_, ⟨hsizes, rfl⟩, total, htotal, _, ⟨hindexes, rfl⟩, _, ⟨hcount, rfl⟩, _, ⟨hsize, rfl⟩,
      average, ⟨hscalable, haverage⟩, _, ⟨hmean, rfl⟩, _, ⟨hstorage, rfl⟩, _, ⟨hwhole, rfl⟩,
      _, ⟨hmax, rfl⟩, h⟩
    rw [haverage] at hmean h
    rw [htotal] at hwhole h
    refine ⟨⟨hcount, hsize, average_representable_iff.1 hmean, hstorage, hindexes, hsizes, hwhole,
      max_representable_iff.1 hmax⟩, hscalable, ?_⟩
    rw [← puts_eq_table]
    exact (Except.ok.inj h).symm
  · rintro ⟨hfits, hscalable, rfl⟩
    obtain ⟨total, htotal⟩ : ∃ total : UInt64, total.toNat = r.exactIndexSize :=
      exists_word hfits.totalIndexSize
    have hmean := average_representable_iff.2 hfits.average
    obtain ⟨average, haverage⟩ := exists_optional_word hmean
    refine ⟨_, ⟨hfits.indexSizes, rfl⟩, total, htotal, _, ⟨hfits.indexCount, rfl⟩,
      _, ⟨hfits.count, rfl⟩, _, ⟨hfits.size, rfl⟩, average, ⟨hscalable, haverage⟩,
      _, ⟨by rwa [haverage], rfl⟩, _, ⟨hfits.storageSize, rfl⟩,
      _, ⟨htotal ▸ hfits.totalIndexSize, rfl⟩, _, ⟨max_representable_iff.2 hfits.max, rfl⟩, ?_⟩
    rw [haverage, htotal, ← puts_eq_table]
    rfl

/-! ### What a document says -/

/-- The names of the figures, in order. -/
def reportedNames (r : Reply) : List String :=
  ["ns", "count", "size"] ++ (if r.count = 0 then [] else ["avgObjSize"]) ++
    ["storageSize", "nindexes", "indexDetails", "totalIndexSize", "indexSizes", "capped"] ++
    match r.capping with
    | .capped (some _) => ["max"]
    | _ => []

/-- What a document says about a collection.  A size is reported under a name if no later one has the
    same name. -/
structure Reported (r : Reply) (d : Document) : Prop where
  keys_eq : d.keys = r.reportedNames
  ns : d.get? "ns" = some (.string (r.database ++ "." ++ r.collection))
  count : d.HoldsCount "count" r.count.toNat
  size : d.HoldsCount "size" r.size.toNat
  average : r.count ≠ 0 →
    d.HoldsCount "avgObjSize" (r.scale.factor.toNat * r.size.toNat / r.count.toNat)
  storageSize : d.HoldsCount "storageSize" r.storageSize.toNat
  indexCount : d.HoldsCount "nindexes" r.indexSizes.length
  indexDetails : d.get? "indexDetails" = some (.document r.indexDetails)
  totalIndexSize : d.HoldsCount "totalIndexSize" (r.indexSizes.map fun p => p.2.toNat).sum
  indexSizes : ∃ sizes : Document, d.get? "indexSizes" = some (.document sizes) ∧
    sizes.keys = (r.indexSizes.map Prod.fst).eraseDups ∧
    ∀ before p after, r.indexSizes = before ++ p :: after → p.1 ∉ after.map Prod.fst →
      sizes.HoldsCount p.1 p.2.toNat
  capped : d.get? "capped" = some (.boolean (r.capping ≠ .uncapped))
  max : ∀ n, r.capping = .capped (some n) → d.HoldsCount "max" n.toNat

/-- The names of the pairs are those of the sizes. -/
theorem keys_map_sizePair (sizes : List (String × UInt64)) :
    Document.keys (sizes.map sizePair) = sizes.map Prod.fst := by
  rw [Document.keys, List.map_map]
  rfl

/-- The table of sizes holds every name once, where it is first given. -/
theorem keys_sizeTable (r : Reply) :
    r.sizeTable.keys = (r.indexSizes.map Prod.fst).eraseDups := by
  rw [sizeTable, Document.keys_ofPairs, keys_map_sizePair]

/-- The table of sizes holds the last size that a name is given. -/
theorem get?_sizeTable {before after : List (String × UInt64)} {p : String × UInt64}
    (h : r.indexSizes = before ++ p :: after) (hlast : p.1 ∉ after.map Prod.fst) :
    r.sizeTable.get? p.1 = some (Number.counted p.2.toNat) := by
  have hpairs : r.indexSizes.map sizePair =
      before.map sizePair ++ sizePair p :: after.map sizePair := by
    rw [h, List.map_append, List.map_cons]
  exact Document.get?_ofPairs hpairs (by rwa [keys_map_sizePair])

/-- The reply holds the names that are reported, in order. -/
theorem keys_table (r : Reply) : r.table.keys = r.reportedNames := by
  unfold table reportedNames exactAverage maxCount
  split <;> cases r.capping with
  | uncapped => rfl
  | capped max => cases max <;> rfl

/-- No name is reported twice. -/
theorem nodup_reportedNames (r : Reply) : r.reportedNames.Nodup := by
  unfold reportedNames
  split <;> split <;> decide

/-- Under each reported name stands the value that is reported. -/
theorem get?_table {name : String} {v : Value} (h : (name, v) ∈ r.table) :
    r.table.get? name = some v :=
  Document.get?_of_mem (r.keys_table ▸ r.nodup_reportedNames) h

/-- **Accuracy.** The table of the exact figures of a reply says what they are. -/
theorem reported_table (h : r.Representable) : r.Reported r.table where
  keys_eq := r.keys_table
  ns := get?_table (by simp [table, ns])
  count := ⟨_, get?_table (by simp [table]), Number.counts_counted h.count⟩
  size := ⟨_, get?_table (by simp [table]), Number.counts_counted h.size⟩
  average hcount := by
    refine ⟨_, get?_table ?_, Number.counts_counted (h.average hcount)⟩
    simp [table, exactAverage, hcount, entry, scaledSize]
  storageSize := ⟨_, get?_table (by simp [table]), Number.counts_counted h.storageSize⟩
  indexCount := ⟨_, get?_table (by simp [table]), Number.counts_counted h.indexCount⟩
  indexDetails := get?_table (by simp [table])
  totalIndexSize := by
    refine ⟨_, get?_table ?_, Number.counts_counted h.totalIndexSize⟩
    simp [table, exactIndexSize, sumOfSizes]
  indexSizes := by
    refine ⟨r.sizeTable, get?_table (by simp [table]), r.keys_sizeTable, ?_⟩
    intro before p after hpairs hlast
    have hmem : p ∈ r.indexSizes := hpairs ▸ List.mem_append_right before List.mem_cons_self
    exact ⟨_, get?_sizeTable hpairs hlast, Number.counts_counted (h.indexSizes p hmem)⟩
  capped := by
    refine get?_table ?_
    have hcapped : decide (r.capping ≠ .uncapped) = r.isCapped := by
      unfold isCapped
      cases r.capping <;> simp
    simp [table, hcapped]
  max n hn := by
    refine ⟨_, get?_table ?_, Number.counts_counted (h.max n hn)⟩
    simp [table, maxCount, hn, entry]

/-! ### Which replies are written -/

/-- A reply is written when every figure fits and the mean can be worked out, and then as its table.
    -/
theorem writeResult_eq_ok_iff :
    command.writeResult r = .ok d ↔ r.Representable ∧ r.Scalable ∧ d = r.table :=
  mapError_eq_ok.trans figures_eq_ok_iff

/-- Where every figure can be written, a size in bytes that is too great is what is refused. -/
theorem figures_of_not_scalable (h : r.Representable) (hover : ¬ r.Scalable) :
    r.figures = .error (.badValue Fault.averageSizeOverflow.message) := by
  obtain ⟨hcount, hsize⟩ : r.count ≠ 0 ∧ ¬ r.scaledSize < UInt64.size := by
    rwa [Scalable, Classical.not_imp] at hover
  obtain ⟨total, htotal⟩ : ∃ total : UInt64, total.toNat = r.exactIndexSize :=
    exists_word h.totalIndexSize
  have hsizes : r.indexSizesDocument = .ok r.sizeTable :=
    indexSizesDocument_eq_ok_iff.2 ⟨h.indexSizes, rfl⟩
  have hsum : orBadValue r.totalIndexSize = .ok total :=
    orBadValue_eq_ok_iff.2 (totalIndexSize_eq_ok_iff.2 htotal)
  have hwritten : ∀ {n : Nat}, n < 2 ^ 63 → Number.ofNat n = .ok (.narrowest n) :=
    fun hn => Number.ofNat_eq_ok_iff.2 ⟨hn, rfl⟩
  have hmean : orBadValue r.averageSize = .error (.badValue Fault.averageSizeOverflow.message) := by
    have hfault : r.averageSize = .error .averageSizeOverflow :=
      (if_neg hcount).trans (if_neg hsize)
    rw [hfault]
    rfl
  rw [figures, hsizes, ok_bind, hsum, ok_bind, hwritten h.indexCount, ok_bind, Number.ofCount,
    hwritten h.count, ok_bind, Number.ofCount, hwritten h.size, ok_bind, hmean]
  rfl

/-- **Accuracy.** Every number in the document of a reply is the exact one, in the narrowest type that
    holds it. -/
theorem reported_of_writeResult (h : command.writeResult r = .ok d) : r.Reported d := by
  obtain ⟨hfits, -, rfl⟩ := writeResult_eq_ok_iff.1 h
  exact reported_table hfits

/-- A reply about a collection with an index whose size is given twice.  Its count and the size of its
    indexes are just too great for the narrower type. -/
def sampleReply : Reply :=
  ⟨⟨1024, by decide⟩, "db", "users", 2147483648, 4294967295, 2147483647, .capped (some 10), [],
    [("_id_", 2147483646), ("a_1", 1), ("_id_", 1)]⟩

/-- A reply with an index that is given twice reports its last size. -/
theorem reported_sampleReply :
    ∃ d, command.writeResult sampleReply = .ok d ∧ sampleReply.Reported d := by
  have hfits : sampleReply.Representable := by
    refine ⟨by decide, by decide, fun _ => by decide, by decide, by decide, by decide, by decide, ?_⟩
    rintro n h
    cases h
    decide
  have hwritten : command.writeResult sampleReply = .ok sampleReply.table :=
    writeResult_eq_ok_iff.2 ⟨hfits, fun _ => by decide, rfl⟩
  exact ⟨_, hwritten, reported_of_writeResult hwritten⟩

/-- **When figures are written.** A reply is written if and only if each of its figures fits 63 bits
    and, unless the collection is empty, its size in bytes fits 64.  If nothing but the size in bytes
    is too great, the mean is refused, although it would fit. -/
theorem exists_writeResult_iff (r : Reply) :
    ((∃ d, command.writeResult r = .ok d) ↔
      r.Representable ∧ (r.count ≠ 0 → r.scale.factor.toNat * r.size.toNat < 2 ^ 64)) ∧
    (r.Representable → r.count ≠ 0 → 2 ^ 64 ≤ r.scale.factor.toNat * r.size.toNat →
      command.writeResult r =
        .error (.unwritable (.badValue "avgObjSize overflows a 64-bit integer"))) := by
  refine ⟨?_, fun hfits hcount hover => ?_⟩
  · constructor
    · rintro ⟨d, hd⟩
      obtain ⟨hfits, hscalable, -⟩ := writeResult_eq_ok_iff.1 hd
      exact ⟨hfits, hscalable⟩
    · rintro ⟨hfits, hscalable⟩
      exact ⟨r.table, writeResult_eq_ok_iff.2 ⟨hfits, hscalable, rfl⟩⟩
  · have hrefused := figures_of_not_scalable hfits fun hscalable => (hscalable hcount).not_ge hover
    show Checked.wrapped r.figures = _
    rw [hrefused]
    rfl

/-- Four documents that take 2^62 units of four bytes: 2^62 bytes each. -/
def largeReply : Reply :=
  ⟨⟨4, by decide⟩, "db", "users", 4, 4611686018427387904, 0, .uncapped, [], []⟩

/-- A mean that fits need not be written: its product is computed first. -/
theorem not_forall_representable_written :
    ¬ ∀ r : Reply, r.Representable → ∃ d, command.writeResult r = .ok d := by
  intro h
  have hfits : largeReply.Representable :=
    ⟨by decide, by decide, fun _ => by decide, by decide, by decide, by decide, by decide, nofun⟩
  obtain ⟨d, hd⟩ := h largeReply hfits
  obtain ⟨-, hscalable, -⟩ := writeResult_eq_ok_iff.1 hd
  exact absurd (hscalable (by decide)) (by decide)

end CommandWire.CollStats.Reply
