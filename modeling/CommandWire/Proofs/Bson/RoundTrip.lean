import CommandWire.Proofs.Bson.Frame
import CommandWire.Proofs.Value.Distinct

namespace CommandWire.Bson

/-!
# Reading back what was written

A document that can be written is read back from its octets, with the options of its regular
expressions in ascending order.  It takes two things: no name stands twice in it, and its length can
be written as a signed word.

* `readValue_valueOctets` — a value is read from its octets, whatever follows.
* `readFields_fieldsOctets`, `readFields_itemsOctets` — the content of a document, and of a
  sequence.  The three go by one induction on the nesting of values.
* `decode_encode` — the document as a whole.
-/

/-! ### Options of regular expressions -/

/-- Sorting the options of a regular expression twice changes nothing more. -/
theorem sortedOptions_sortedOptions (options : String) :
    sortedOptions (sortedOptions options) = sortedOptions options := by
  have hsorted : (options.toList.mergeSort fun a b => decide (a.toNat ≤ b.toNat)).Pairwise
      fun a b => decide (a.toNat ≤ b.toNat) = true := by
    apply List.pairwise_mergeSort
    · intro a b c hab hbc
      simp only [decide_eq_true_eq] at hab hbc ⊢
      exact Nat.le_trans hab hbc
    · intro a b
      rw [Bool.or_eq_true, decide_eq_true_eq, decide_eq_true_eq]
      exact Nat.le_total _ _
  rw [sortedOptions, sortedOptions, String.toList_ofList, List.mergeSort_of_pairwise hsorted]

/-! ### What has been written -/

/-- The octets of named values are those of the first and those of the others. -/
theorem fieldsOctets?_cons_eq_some {key : String} {v : Value} {rest : List (String × Value)}
    {octets : List UInt8} (h : fieldsOctets? ((key, v) :: rest) = some octets) :
    ∃ name content others, nameOctets? key = some name ∧ valueOctets? v = some content ∧
      fieldsOctets? rest = some others ∧
      octets = typeCode v :: (name ++ (content ++ others)) := by
  simp only [fieldsOctets?, Option.bind_eq_bind, Option.bind_eq_some_iff, Option.some.injEq] at h
  obtain ⟨name, hname, content, hcontent, others, hothers, rfl⟩ := h
  exact ⟨name, content, others, hname, hcontent, hothers, by simp⟩

/-- The octets of items are those of the first, under its number, and those of the others. -/
theorem itemsOctets?_cons_eq_some {index : Nat} {v : Value} {rest : List Value}
    {octets : List UInt8} (h : itemsOctets? index (v :: rest) = some octets) :
    ∃ name content others, nameOctets? (toString index) = some name ∧
      valueOctets? v = some content ∧ itemsOctets? (index + 1) rest = some others ∧
      octets = typeCode v :: (name ++ (content ++ others)) := by
  simp only [itemsOctets?, Option.bind_eq_bind, Option.bind_eq_some_iff, Option.some.injEq] at h
  obtain ⟨name, hname, content, hcontent, others, hothers, rfl⟩ := h
  exact ⟨name, content, others, hname, hcontent, hothers, by simp⟩

/-- Named values are read one by one: code, name and value of the first, and then the others. -/
theorem readFields_cons {fuel : Nat} {code : UInt8} {key : String} {v : Value}
    {name content others : List UInt8} {pairs : List (String × Value)}
    (hname : nameOctets? key = some name)
    (hvalue : readValue (readFields fuel) code (content ++ others) = some (v, others))
    (hothers : readFields fuel others = some pairs) :
    readFields (fuel + 1) (code :: (name ++ (content ++ others))) = some ((key, v) :: pairs) := by
  simp only [readFields, takeName?_nameOctets _ hname, hvalue, hothers, Option.bind_eq_bind,
    Option.bind_some]

/-- The length in front of code with its scope counts itself, the code and the scope. -/
theorem readValue_codeWithScope {fuel : Nat} (text : String) (content rest : List UInt8)
    {pairs : List (String × Value)}
    (hfits : FitsWord (lengthOctets ((stringOctets text ++ frame content).length + 4) ++
      (stringOctets text ++ frame content)).length)
    (hread : readFields fuel content = some pairs) :
    readValue (readFields fuel) 0x0F
        (lengthOctets ((stringOctets text ++ frame content).length + 4) ++
          (stringOctets text ++ frame content) ++ rest) =
      some (.codeWithScope text (Document.ofPairs pairs), rest) := by
  generalize hbody : stringOctets text ++ frame content = body at hfits ⊢
  have hlength : body.length = (stringOctets text).length + (content.length + 5) := by
    rw [← hbody, List.length_append, length_frame]
  rw [List.length_append, length_lengthOctets, Nat.add_comm] at hfits
  -- the reader checks that it has used up as many octets as the length says.
  have hcount : (Int32.ofNat (body.length + 4)).toInt =
      ((lengthOctets (body.length + 4) ++ (body ++ rest)).length : Int) - rest.length := by
    rw [hfits.toInt, List.length_append, List.length_append, length_lengthOctets]
    omega
  have htext : takeString? (body ++ rest) = some (text, frame content ++ rest) := by
    rw [← hbody, List.append_assoc]
    exact takeString?_stringOctets text _ (hfits.mono (by omega))
  rw [List.append_assoc]
  simp only [readValue, takeInt32?_lengthOctets _ hfits, htext,
    takeFrame?_frame content rest (hfits.mono (by omega)), hread, hcount, Option.bind_eq_bind,
    Option.bind_some, if_true]

/-! ### Values and their parts -/

mutual

/-- **Values.** A value is read from its octets, whatever follows; `fuel` is enough for the
    documents inside it when it is not less than the count of its octets. -/
theorem readValue_valueOctets (v : Value) {octets : List UInt8} {fuel : Nat} (rest : List UInt8)
    (hv : v.Distinct) (h : valueOctets? v = some octets) (hfits : FitsWord octets.length)
    (hfuel : octets.length ≤ fuel) :
    readValue (readFields fuel) (typeCode v) (octets ++ rest) = some (v.sortOptions, rest) := by
  cases v with
  | double x =>
    simp only [valueOctets?, Option.some.injEq] at h
    subst h
    simp only [typeCode, readValue, Octets.takeUInt64?_append, Option.bind_eq_bind,
      Option.bind_some, Value.sortOptions]
  | string s =>
    simp only [valueOctets?, Option.some.injEq] at h
    subst h
    simp only [typeCode, readValue, takeString?_stringOctets s rest hfits, Option.bind_eq_bind,
      Option.bind_some, Value.sortOptions]
  | document fields =>
    simp only [valueOctets?, Option.map_eq_some_iff] at h
    obtain ⟨content, hcontent, rfl⟩ := h
    -- the frame leaves more than enough fuel for its content.
    rw [length_frame] at hfits hfuel
    have hread : readFields fuel content = some (Document.sortOptions fields) :=
      readFields_fieldsOctets fields hv hcontent (hfits.mono (by omega)) (by omega)
    simp only [typeCode, readValue, takeFrame?_frame content rest hfits, hread,
      Document.ofPairs_sortOptions hv, Option.bind_eq_bind, Option.bind_some, Value.sortOptions]
  | array items =>
    simp only [valueOctets?, Option.map_eq_some_iff] at h
    obtain ⟨content, hcontent, rfl⟩ := h
    rw [length_frame] at hfits hfuel
    obtain ⟨pairs, hread, hpairs⟩ : ∃ pairs, readFields fuel content = some pairs ∧
        pairs.map Prod.snd = Value.sortAllOptions items :=
      readFields_itemsOctets items hv hcontent (hfits.mono (by omega)) (by omega)
    simp only [typeCode, readValue, takeFrame?_frame content rest hfits, hread, hpairs,
      Option.bind_eq_bind, Option.bind_some, Value.sortOptions]
  | binary subtype bytes =>
    simp only [valueOctets?, Option.some.injEq] at h
    subst h
    simp only [typeCode, readValue, takeBinary?_binaryOctets subtype bytes rest hfits,
      Value.sortOptions]
  | undefined =>
    simp only [valueOctets?, Option.some.injEq] at h
    subst h
    rfl
  | objectId id =>
    simp only [valueOctets?, Option.some.injEq] at h
    subst h
    simp only [typeCode, readValue, takeFixed?_bytes id rest, Option.bind_eq_bind,
      Option.bind_some, Value.sortOptions]
  | boolean b =>
    simp only [valueOctets?, Option.some.injEq] at h
    subst h
    cases b <;> rfl
  | dateTime millis =>
    simp only [valueOctets?, Option.some.injEq] at h
    subst h
    simp only [typeCode, readValue, Octets.takeInt64?_append, Option.bind_eq_bind,
      Option.bind_some, Value.sortOptions]
  | null =>
    simp only [valueOctets?, Option.some.injEq] at h
    subst h
    rfl
  | regex pattern options =>
    simp only [valueOctets?, Option.bind_eq_bind, Option.bind_eq_some_iff, Option.some.injEq] at h
    obtain ⟨first, hfirst, second, hsecond, rfl⟩ := h
    rw [List.append_assoc]
    simp only [typeCode, readValue, takeName?_nameOctets _ hfirst, takeName?_nameOctets _ hsecond,
      sortedOptions_sortedOptions, Option.bind_eq_bind, Option.bind_some, Value.sortOptions]
  | dbPointer ns id =>
    simp only [valueOctets?, Option.some.injEq] at h
    subst h
    rw [List.length_append] at hfits
    rw [List.append_assoc]
    simp only [typeCode, readValue, takeString?_stringOctets ns _ (hfits.mono (by omega)),
      takeFixed?_bytes id rest, Option.bind_eq_bind, Option.bind_some, Value.sortOptions]
  | code text =>
    simp only [valueOctets?, Option.some.injEq] at h
    subst h
    simp only [typeCode, readValue, takeString?_stringOctets text rest hfits, Option.bind_eq_bind,
      Option.bind_some, Value.sortOptions]
  | symbol name =>
    simp only [valueOctets?, Option.some.injEq] at h
    subst h
    simp only [typeCode, readValue, takeString?_stringOctets name rest hfits, Option.bind_eq_bind,
      Option.bind_some, Value.sortOptions]
  | codeWithScope text scope =>
    simp only [valueOctets?, Option.bind_eq_bind, Option.bind_eq_some_iff, Option.some.injEq] at h
    obtain ⟨content, hcontent, rfl⟩ := h
    -- the scope is a document of its own inside the octets of the value.
    have hfields : readFields fuel content = some (Document.sortOptions scope) :=
      readFields_fieldsOctets scope hv hcontent
        (hfits.mono (by simp only [List.length_append, length_frame]; omega))
        (by simp only [List.length_append, length_frame] at hfuel; omega)
    have hread := readValue_codeWithScope text content rest hfits hfields
    rw [Document.ofPairs_sortOptions hv] at hread
    exact hread
  | int32 n =>
    simp only [valueOctets?, Option.some.injEq] at h
    subst h
    simp only [typeCode, readValue, Octets.takeInt32?_append, Option.bind_eq_bind,
      Option.bind_some, Value.sortOptions]
  | timestamp t =>
    simp only [valueOctets?, Option.some.injEq] at h
    subst h
    rw [List.append_assoc]
    simp only [typeCode, readValue, Octets.takeUInt32?_append, Option.bind_eq_bind,
      Option.bind_some, Value.sortOptions]
  | int64 n =>
    simp only [valueOctets?, Option.some.injEq] at h
    subst h
    simp only [typeCode, readValue, Octets.takeInt64?_append, Option.bind_eq_bind,
      Option.bind_some, Value.sortOptions]
  | decimal128 digits =>
    simp only [valueOctets?, Option.some.injEq] at h
    subst h
    simp only [typeCode, readValue, takeFixed?_bytes digits rest, Option.bind_eq_bind,
      Option.bind_some, Value.sortOptions]
  | minKey =>
    simp only [valueOctets?, Option.some.injEq] at h
    subst h
    rfl
  | maxKey =>
    simp only [valueOctets?, Option.some.injEq] at h
    subst h
    rfl

/-- **Named values.** The content of a document is read from its octets. -/
theorem readFields_fieldsOctets (fields : List (String × Value)) {octets : List UInt8} {fuel : Nat}
    (hfields : Document.Distinct fields) (h : fieldsOctets? fields = some octets)
    (hfits : FitsWord octets.length) (hfuel : octets.length ≤ fuel) :
    readFields fuel octets = some (Document.sortOptions fields) := by
  match fields with
  | [] =>
    simp only [fieldsOctets?, Option.some.injEq] at h
    subst h
    simp only [readFields, Document.sortOptions]
  | (key, v) :: others =>
    obtain ⟨name, content, tail, hname, hcontent, htail, rfl⟩ := fieldsOctets?_cons_eq_some h
    obtain ⟨-, hv, hothers⟩ := hfields
    -- the type and the name take at least one octet, and one unit of fuel pays for them.
    simp only [List.length_cons, List.length_append] at hfits hfuel
    obtain ⟨fuel, rfl⟩ : ∃ n, fuel = n + 1 := ⟨fuel - 1, by omega⟩
    exact readFields_cons hname
      (readValue_valueOctets v tail hv hcontent (hfits.mono (by omega)) (by omega))
      (readFields_fieldsOctets others hothers htail (hfits.mono (by omega)) (by omega))

/-- **Sequences.** The content of a sequence is read from its octets, under names that mean
    nothing. -/
theorem readFields_itemsOctets (items : List Value) {index : Nat} {octets : List UInt8} {fuel : Nat}
    (hitems : Value.AllDistinct items) (h : itemsOctets? index items = some octets)
    (hfits : FitsWord octets.length) (hfuel : octets.length ≤ fuel) :
    ∃ pairs, readFields fuel octets = some pairs ∧
      pairs.map Prod.snd = Value.sortAllOptions items := by
  match items with
  | [] =>
    simp only [itemsOctets?, Option.some.injEq] at h
    subst h
    exact ⟨[], by simp only [readFields], rfl⟩
  | v :: others =>
    obtain ⟨name, content, tail, hname, hcontent, htail, rfl⟩ := itemsOctets?_cons_eq_some h
    obtain ⟨hv, hothers⟩ := hitems
    simp only [List.length_cons, List.length_append] at hfits hfuel
    obtain ⟨fuel, rfl⟩ : ∃ n, fuel = n + 1 := ⟨fuel - 1, by omega⟩
    obtain ⟨pairs, hread, hpairs⟩ : ∃ pairs, readFields fuel tail = some pairs ∧
        pairs.map Prod.snd = Value.sortAllOptions others :=
      readFields_itemsOctets others hothers htail (hfits.mono (by omega)) (by omega)
    refine ⟨(toString index, v.sortOptions) :: pairs, ?_, ?_⟩
    · exact readFields_cons hname
        (readValue_valueOctets v tail hv hcontent (hfits.mono (by omega)) (by omega)) hread
    · rw [List.map_cons, hpairs, Value.sortAllOptions]

end

/-! ### Documents -/

/-- **Documents.** A document whose names are distinct is read back from its octets. -/
theorem decode_encode {d : Document} {octets : List UInt8} (hd : Document.Distinct d)
    (h : encode d = some octets) (hfits : FitsWord octets.length) :
    decode octets = some (Document.sortOptions d) := by
  rw [encode, Option.map_eq_some_iff] at h
  obtain ⟨content, hcontent, rfl⟩ := h
  rw [length_frame] at hfits
  -- reading starts with as much fuel as there are octets.
  have hread := readFields_fieldsOctets d hd hcontent (hfits.mono (by omega)) (Nat.le_refl _)
  have hframe := takeFrame?_frame content [] hfits
  rw [List.append_nil] at hframe
  simp only [decode, hframe, hread, Document.ofPairs_sortOptions hd, List.isEmpty_nil,
    Option.bind_eq_bind, Option.bind_some, if_true]

end CommandWire.Bson
