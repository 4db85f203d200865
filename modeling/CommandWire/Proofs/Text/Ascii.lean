import CommandWire.Text.LowerCase

namespace CommandWire.LowerCase

/-!
# Lower case within ASCII

The two ways of folding agree on ASCII texts.  A text that is not ASCII can still have a lower-case
form that is: the Kelvin sign is the one character whose lower-case form is an ASCII letter although
it is none itself.

* `Ascii` — the characters below 128.
* `simple_of_ascii`, `ascii_or_kelvin_of_simple` — what becomes of an ASCII character, and what
  becomes one.
* `fold_eq_foldAscii` — both ways agree on an ASCII text.
* `forall_ascii_or_kelvin` — a text with an ASCII lower-case form is ASCII but for Kelvin signs.
* `k_mem_fold` — a Kelvin sign leaves a `k`.
-/

/-- The characters below 128. -/
def Ascii (c : Char) : Prop := c.toNat < 128

instance (c : Char) : Decidable (Ascii c) := inferInstanceAs (Decidable (_ < _))

/-- The sign for the unit of temperature. -/
def kelvin : Char := '\u212A'

/-! ### Characters -/

/-- On ASCII both foldings of a character are one. -/
theorem simple_of_ascii {c : Char} (h : Ascii c) : simple c = asciiChar c := by
  have hfirst : ∀ r ∈ runs.tail, 128 ≤ r.first := by decide +kernel
  -- only the first run begins below 128, with the letters A to Z.
  have hruns : runs = ⟨0x41, 0x5A, 1, 32⟩ :: runs.tail := rfl
  have htail : (runs.tail.find? fun r =>
      r.first ≤ c.toNat && c.toNat ≤ r.last && (c.toNat - r.first) % r.stride == 0) = none := by
    rw [List.find?_eq_none]
    intro r hr
    have hlow : ¬ r.first ≤ c.toNat := Nat.not_le.2 (Nat.lt_of_lt_of_le h (hfirst r hr))
    simp only [hlow, decide_false, Bool.false_and, Bool.false_eq_true, not_false_eq_true]
  rw [simple, hruns, List.find?_cons, htail]
  by_cases hletter : 'A' ≤ c ∧ c ≤ 'Z'
  · have hlow : 0x41 ≤ c.toNat := hletter.1
    have hhigh : c.toNat ≤ 0x5A := hletter.2
    rw [asciiChar, if_pos hletter]
    simp only [hlow, hhigh, Nat.mod_one, decide_true, Bool.and_self, beq_self_eq_true]
    rfl
  · have hout : ¬ (0x41 ≤ c.toNat ∧ c.toNat ≤ 0x5A) := hletter
    have hfalse : (decide (0x41 ≤ c.toNat) && decide (c.toNat ≤ 0x5A)) = false := by
      rw [← Bool.decide_and, decide_eq_false hout]
    rw [asciiChar, if_neg hletter]
    simp only [hfalse, Bool.false_and]

/-- Folding an ASCII character gives one. -/
theorem ascii_asciiChar {c : Char} (h : Ascii c) : Ascii (asciiChar c) := by
  have hall : ∀ n < 128, Ascii (asciiChar (Char.ofNat n)) := by decide +kernel
  have hc := hall c.toNat h
  rwa [Char.ofNat_toNat] at hc

namespace Run

/-- The lower-case counterparts of a run are characters, and none of them is ASCII. -/
def Above (r : Run) : Prop :=
  128 ≤ r.first + r.shift ∧
    (r.last + r.shift < 0xD800 ∨ (0xDFFF < r.first + r.shift ∧ r.last + r.shift < 0x110000))

instance (r : Run) : Decidable r.Above := inferInstanceAs (Decidable (_ ∧ _))

/-- Every run consists of ASCII characters, or of the Kelvin sign, or leads above ASCII. -/
theorem ascii_or_kelvin_or_above :
    ∀ r ∈ runs, r.last < 128 ∨ (r.first = kelvin.toNat ∧ r.last = kelvin.toNat) ∨ r.Above := by
  decide +kernel

/-- A run whose lower-case forms lie above ASCII gives none of ASCII. -/
theorem Above.not_ascii {r : Run} (h : r.Above) {c : Char} (hfirst : r.first ≤ c.toNat)
    (hlast : c.toNat ≤ r.last) : ¬ Ascii (Char.ofNat (c.toNat + r.shift).toNat) := by
  obtain ⟨hlow, hvalid⟩ := h
  have hchar : ((c.toNat + r.shift).toNat).isValidChar := by
    show _ < 0xD800 ∨ (0xDFFF < _ ∧ _ < 0x110000)
    omega
  have hnumber : (Char.ofNat (c.toNat + r.shift).toNat).toNat = (c.toNat + r.shift).toNat := by
    rw [Char.ofNat, dif_pos hchar]
    rfl
  rw [Ascii, hnumber]
  omega

end Run

/-- An ASCII letter is the lower-case counterpart of ASCII characters and of the Kelvin sign. -/
theorem ascii_or_kelvin_of_simple {c : Char} (h : Ascii (simple c)) : Ascii c ∨ c = kelvin := by
  unfold simple at h
  split at h
  · next r hr =>
    have hin := List.find?_some hr
    simp only [Bool.and_eq_true, decide_eq_true_eq] at hin
    obtain ⟨⟨hfirst, hlast⟩, -⟩ := hin
    rcases Run.ascii_or_kelvin_or_above r (List.mem_of_find?_eq_some hr) with hr' | ⟨hk, hk'⟩ | hr'
    · exact .inl (Nat.lt_of_le_of_lt hlast hr')
    · have hnumber : c.toNat = kelvin.toNat := by omega
      refine .inr ?_
      rw [← Char.ofNat_toNat c, hnumber, Char.ofNat_toNat]
    · exact absurd h (hr'.not_ascii hfirst hlast)
  · exact .inl h

/-! ### Texts -/

/-- On ASCII both foldings are one, character by character. -/
theorem foldFrom_of_ascii {cs : List Char} (before : List Char) (h : ∀ c ∈ cs, Ascii c) :
    foldFrom before cs = cs.map asciiChar := by
  induction cs generalizing before with
  | nil => rfl
  | cons c cs ih =>
    have hc : Ascii c := h c List.mem_cons_self
    have hsigma : c ≠ 'Σ' := by
      rintro rfl
      exact absurd hc (by decide)
    have hdotted : c ≠ 'İ' := by
      rintro rfl
      exact absurd hc (by decide)
    rw [foldFrom, if_neg hsigma, if_neg hdotted, ih (c :: before) fun x hx => h x (.tail c hx),
      simple_of_ascii hc]
    rfl

/-- **ASCII texts.** Both ways of folding give the same. -/
theorem fold_eq_foldAscii {s : String} (h : ∀ c ∈ s.toList, Ascii c) : fold s = foldAscii s := by
  rw [fold, foldFrom_of_ascii [] h, foldAscii]

/-- Folding an ASCII text gives one. -/
theorem forall_ascii_foldAscii {s : String} (h : ∀ c ∈ s.toList, Ascii c) :
    ∀ c ∈ (foldAscii s).toList, Ascii c := by
  rw [foldAscii, String.toList_ofList]
  intro c hc
  obtain ⟨x, hx, rfl⟩ := List.mem_map.1 hc
  exact ascii_asciiChar (h x hx)

/-- No sigma is an ASCII character. -/
theorem sigma_not_ascii (before after : List Char) : ¬ Ascii (sigma before after) := by
  unfold sigma
  split <;> decide

/-- What folds to ASCII is ASCII but for the Kelvin sign. -/
theorem ascii_or_kelvin_of_foldFrom {before cs : List Char}
    (h : ∀ c ∈ foldFrom before cs, Ascii c) : ∀ c ∈ cs, Ascii c ∨ c = kelvin := by
  induction cs generalizing before with
  | nil => nofun
  | cons c cs ih =>
    rw [foldFrom] at h
    have hrest : ∀ x ∈ cs, Ascii x ∨ x = kelvin :=
      ih fun x hx => h x (List.mem_append_right _ hx)
    have hhead : Ascii c ∨ c = kelvin := by
      -- the two characters with rules of their own leave something that is not ASCII.
      split at h
      · exact absurd (h _ (List.mem_append_left _ (List.mem_singleton_self _)))
          (sigma_not_ascii before cs)
      · split at h
        · exact absurd (h '\u0307' (List.mem_append_left _ (by simp))) (by decide)
        · exact ascii_or_kelvin_of_simple
            (h _ (List.mem_append_left _ (List.mem_singleton_self _)))
    rintro x (_ | ⟨_, hx⟩)
    · exact hhead
    · exact hrest x hx

/-- **ASCII lower-case forms.** A text with such a form is ASCII but for Kelvin signs. -/
theorem forall_ascii_or_kelvin {s : String} (h : ∀ c ∈ (fold s).toList, Ascii c) :
    ∀ c ∈ s.toList, Ascii c ∨ c = kelvin := by
  rw [fold, String.toList_ofList] at h
  exact ascii_or_kelvin_of_foldFrom h

/-- A text without Kelvin signs is folded to an ASCII text only as its letters A to Z are. -/
theorem foldAscii_eq_of_fold_ascii {s : String} (h : ∀ c ∈ (fold s).toList, Ascii c)
    (hk : kelvin ∉ s.toList) : foldAscii s = fold s := by
  refine (fold_eq_foldAscii fun c hc => ?_).symm
  rcases forall_ascii_or_kelvin h c hc with hascii | rfl
  · exact hascii
  · exact absurd hc hk

/-- The Kelvin sign folds to a letter k. -/
theorem k_mem_foldFrom {before cs : List Char} (h : kelvin ∈ cs) : 'k' ∈ foldFrom before cs := by
  induction cs generalizing before with
  | nil => cases h
  | cons c cs ih =>
    rw [foldFrom]
    rcases List.mem_cons.1 h with rfl | hcs
    · have hk : 'k' ∈ [simple kelvin] := by decide +kernel
      rw [if_neg (by decide), if_neg (by decide)]
      exact List.mem_append_left _ hk
    · exact List.mem_append_right _ (ih hcs)

/-- A Kelvin sign leaves a `k`. -/
theorem k_mem_fold {s : String} (h : kelvin ∈ s.toList) : 'k' ∈ (fold s).toList := by
  rw [fold, String.toList_ofList]
  exact k_mem_foldFrom h

end CommandWire.LowerCase
