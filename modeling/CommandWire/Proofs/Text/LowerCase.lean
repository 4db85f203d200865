import CommandWire.Text.LowerCase

namespace CommandWire.LowerCase

/-!
# Spellings that differ in ASCII letters

Texts that differ in nothing but the case of the letters A to Z have the same lower-case form, also
where that form depends on the letters around.

* `asciiChar_eq_self_or` — the characters that `asciiChar` changes.
* `simple_asciiChar`, `meetsCased_map_asciiChar` — the case of a letter changes neither its
  lower-case form nor what it means to a sigma beside it.
* `fold_foldAscii`, `fold_eq_of_foldAscii_eq` — the lower-case form does not see the case of a
  letter.
-/

/-! ### Letters -/

/-- The numbers of the letters A to Z. -/
def capitals : List Nat := List.range' 65 26

/-- Folding an ASCII letter moves a capital by 32 and leaves every other character. -/
theorem asciiChar_eq_self_or (c : Char) :
    asciiChar c = c ∨ ∃ n ∈ capitals, c = Char.ofNat n ∧ asciiChar c = Char.ofNat (n + 32) := by
  by_cases h : 'A' ≤ c ∧ c ≤ 'Z'
  · -- `c` is the letter with its own number, and that number is one of 26.
    refine .inr ⟨c.toNat, ?_, (Char.ofNat_toNat c).symm, if_pos h⟩
    rw [capitals, List.mem_range'_1]
    have hlow : 65 ≤ c.toNat := h.1
    have hhigh : c.toNat ≤ 90 := h.2
    omega
  · exact .inl (if_neg h)

/-- What does not tell the letters A to Z from their lower-case counterparts does not see
    `asciiChar`. -/
theorem apply_asciiChar {α : Type} (f : Char → α)
    (h : ∀ n ∈ capitals, f (Char.ofNat (n + 32)) = f (Char.ofNat n)) (c : Char) :
    f (asciiChar c) = f c := by
  rcases asciiChar_eq_self_or c with hc | ⟨n, hn, hc, hlower⟩
  · rw [hc]
  · rw [hlower, hc, h n hn]

/-- The lower-case counterpart does not see the case of an ASCII letter. -/
theorem simple_asciiChar (c : Char) : simple (asciiChar c) = simple c :=
  apply_asciiChar simple (by decide +kernel) c

/-- No letter is passed over. -/
theorem covers_ignorable_of_letter {c : Char}
    (h : (65 ≤ c.toNat ∧ c.toNat ≤ 90) ∨ (97 ≤ c.toNat ∧ c.toNat ≤ 122)) :
    CharRange.covers ignorableRanges c = false := by
  have hout : ∀ r ∈ ignorableRanges, r.2 < 65 ∨ (90 < r.1 ∧ r.2 < 97) ∨ 122 < r.1 := by
    decide +kernel
  rw [CharRange.covers, List.any_eq_false]
  intro r hr
  have hr' := hout r hr
  simp only [Bool.and_eq_true, decide_eq_true_eq]
  omega

/-- Whether a character is passed over does not depend on the case of an ASCII letter. -/
theorem covers_ignorable_asciiChar (c : Char) :
    CharRange.covers ignorableRanges (asciiChar c) = CharRange.covers ignorableRanges c := by
  have hletters : ∀ n ∈ capitals, (65 ≤ (Char.ofNat n).toNat ∧ (Char.ofNat n).toNat ≤ 90) ∧
      (97 ≤ (Char.ofNat (n + 32)).toNat ∧ (Char.ofNat (n + 32)).toNat ≤ 122) := by decide +kernel
  refine apply_asciiChar _ (fun n hn => ?_) c
  obtain ⟨hcapital, hsmall⟩ := hletters n hn
  rw [covers_ignorable_of_letter (.inl hcapital), covers_ignorable_of_letter (.inr hsmall)]

/-- Whether a character has a case does not depend on the case of an ASCII letter. -/
theorem covers_cased_asciiChar (c : Char) :
    CharRange.covers casedRanges (asciiChar c) = CharRange.covers casedRanges c :=
  apply_asciiChar _ (by decide +kernel) c

/-- Folding ASCII letters makes no capital sigma, and takes none away. -/
theorem asciiChar_eq_sigma_iff (c : Char) : asciiChar c = 'Σ' ↔ c = 'Σ' := by
  have h := apply_asciiChar (fun c => decide (c = 'Σ')) (by decide +kernel) c
  exact decide_eq_decide.1 h

/-- Folding ASCII letters makes no dotted capital I, and takes none away. -/
theorem asciiChar_eq_dotted_iff (c : Char) : asciiChar c = 'İ' ↔ c = 'İ' := by
  have h := apply_asciiChar (fun c => decide (c = 'İ')) (by decide +kernel) c
  exact decide_eq_decide.1 h

/-! ### Words -/

/-- The search for a cased neighbour does not see the case of ASCII letters. -/
theorem meetsCased_map_asciiChar (cs : List Char) :
    meetsCased (cs.map asciiChar) = meetsCased cs := by
  have hignorable : CharRange.covers ignorableRanges ∘ asciiChar =
      CharRange.covers ignorableRanges := by
    funext c
    exact covers_ignorable_asciiChar c
  unfold meetsCased
  rw [List.dropWhile_map, hignorable]
  cases cs.dropWhile (CharRange.covers ignorableRanges) with
  | nil => rfl
  | cons c cs => exact covers_cased_asciiChar c

/-- The form of a sigma does not depend on the case of ASCII letters. -/
theorem sigma_map_asciiChar (before after : List Char) :
    sigma (before.map asciiChar) (after.map asciiChar) = sigma before after := by
  rw [sigma, meetsCased_map_asciiChar, meetsCased_map_asciiChar, sigma]

/-! ### Texts -/

/-- The full folding does not see the case of ASCII letters. -/
theorem foldFrom_map_asciiChar (before cs : List Char) :
    foldFrom (before.map asciiChar) (cs.map asciiChar) = foldFrom before cs := by
  -- a sigma looks back, and so the characters before it change along with those after it.
  induction cs generalizing before with
  | nil => rfl
  | cons c cs ih =>
    rw [List.map_cons, foldFrom, foldFrom, ← List.map_cons, ih (c :: before), sigma_map_asciiChar,
      simple_asciiChar]
    simp only [asciiChar_eq_sigma_iff, asciiChar_eq_dotted_iff]

/-- The lower-case form does not see the case of the letters A to Z. -/
theorem fold_foldAscii (s : String) : fold (foldAscii s) = fold s := by
  rw [fold, foldAscii, String.toList_ofList, fold]
  exact congrArg String.ofList (foldFrom_map_asciiChar [] s.toList)

/-- **Spellings.** Texts that differ in the case of letters A to Z only are the same token. -/
theorem fold_eq_of_foldAscii_eq {s t : String} (h : foldAscii s = foldAscii t) :
    fold s = fold t := by
  rw [← fold_foldAscii s, h, fold_foldAscii t]

end CommandWire.LowerCase
