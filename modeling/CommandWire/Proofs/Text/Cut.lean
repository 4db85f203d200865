import Mathlib.Data.List.TakeWhile

namespace CommandWire.Cut

/-!
# Texts that are cut at a character

A text is cut at the first place where a character stands: what precedes the place is taken, and the
character is the first of what is left.  Every text that holds the character is cut in this way.

* `takeWhile_append`, `dropWhile_append` — a text that is cut.
* `takeWhile_of_not_mem`, `dropWhile_of_not_mem` — a text without the character is not cut.
-/

variable {c : Char} {cs before : List Char}

/-- Nothing stops before the character. -/
theorem forall_ne (h : c ∉ cs) : ∀ d ∈ cs, decide (d ≠ c) = true := by
  intro d hd
  rw [decide_eq_true_eq]
  rintro rfl
  exact h hd

/-- Without the character the whole text stands before it. -/
theorem takeWhile_of_not_mem (h : c ∉ cs) : cs.takeWhile (· ≠ c) = cs :=
  List.takeWhile_eq_self_iff.2 (forall_ne h)

/-- Without the character nothing is left behind it. -/
theorem dropWhile_of_not_mem (h : c ∉ cs) : cs.dropWhile (· ≠ c) = [] :=
  List.dropWhile_eq_nil_iff.2 (forall_ne h)

/-- What precedes the first place of the character is taken. -/
theorem takeWhile_append (after : List Char) (h : c ∉ before) :
    (before ++ c :: after).takeWhile (· ≠ c) = before := by
  have hstop : (c :: after).takeWhile (· ≠ c) = [] := List.takeWhile_cons_of_neg (by simp)
  rw [List.takeWhile_append_of_pos (forall_ne h), hstop, List.append_nil]

/-- The character and what follows it are left. -/
theorem dropWhile_append (after : List Char) (h : c ∉ before) :
    (before ++ c :: after).dropWhile (· ≠ c) = c :: after := by
  have hstop : (c :: after).dropWhile (· ≠ c) = c :: after :=
    List.dropWhile_cons_of_neg (by simp)
  rw [List.dropWhile_append_of_pos (forall_ne h), hstop]

end CommandWire.Cut
