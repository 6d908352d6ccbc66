/-
# Blanks, digits and capital letters

The three classes have no character in common.  For capital letters, which are those of ASCII, this
is a comparison of bounds; the digits of other scripts lie in the gaps between the blanks beyond
ASCII (`digitRanges_between_blanks`).

What follows from it is how blanks can be dropped: they can be dropped in several steps
(`dropWhile_dropWhile_append`), and trimming a text leaves the number of its other characters as it
is (`countP_trimBlanks`).

The tables of the classes are texts of ranges.  Deciding something for all characters would go
through more than a million of them; so what is decided is how the ranges lie, and the characters
follow by arithmetic.
-/
import TaskNotes.Text.Blank
import TaskNotes.Text.Digit
import TaskNotes.Proofs.Lists
import Mathlib.Tactic.ByContra

namespace TaskNotes

/-! ## 1. Classes of characters -/

theorem toNat_of_isUpper {c : Char} (h : c.isUpper = true) : 65 ≤ c.toNat ∧ c.toNat ≤ 90 := by
  obtain ⟨hlow, hhigh⟩ := of_decide_eq_true h
  exact ⟨UInt32.le_iff_toNat_le.mp hlow, UInt32.le_iff_toNat_le.mp hhigh⟩

theorem isDigit_eq_false_of_isUpper {c : Char} (h : c.isUpper = true) : isDigit c = false := by
  obtain ⟨hlow, hhigh⟩ := toNat_of_isUpper h
  rw [isDigit, if_pos (by omega), Char.isDigit, Bool.and_eq_false_iff]
  right
  rw [decide_eq_false_iff_not, UInt32.le_iff_toNat_le]
  intro hle
  change c.toNat ≤ 57 at hle
  omega

theorem isBlank_eq_false_of_isUpper {c : Char} (h : c.isUpper = true) : isBlank c = false := by
  obtain ⟨hlow, hhigh⟩ := toNat_of_isUpper h
  simp only [isBlank, Bool.or_eq_false_iff, Bool.and_eq_false_iff, beq_eq_false_iff_ne,
    decide_eq_false_iff_not]
  omega

/-- The class that a table of characters stands for. -/
def CodeSet.ofList (text : List Char) : CodeSet :=
  ((splitAtSeparators (fun c => c == ' ' || c == '\n') text).filter
    (fun w => !w.isEmpty)).map CodeSet.rangeOfWord

theorem CodeSet.ofText_ofList (text : List Char) :
    CodeSet.ofText (String.ofList text) = CodeSet.ofList text := by
  rw [CodeSet.ofText, tableWords, String.toList_ofList, CodeSet.ofList]

set_option maxRecDepth 8000 in
/-- The digits beyond ASCII lie between the blanks. -/
theorem digitRanges_between_blanks :
    ∀ r ∈ digitRanges, 0xA0 < r.1 ∧
      (r.2 < 0x1680 ∨ 0x1680 < r.1 ∧ r.2 < 0x2000 ∨ 0x3000 < r.1) := by
  -- read as a list of characters, the table need not be decoded first
  have h : digitRanges = _ := CodeSet.ofText_ofList _
  rw [h]
  decide +kernel

theorem isDigit_eq_false_of_isBlank {c : Char} (h : isBlank c = true) : isDigit c = false := by
  simp only [isBlank, Bool.or_eq_true, Bool.and_eq_true, beq_iff_eq, decide_eq_true_eq] at h
  by_contra hdigit
  rw [Bool.not_eq_false, isDigit] at hdigit
  split at hdigit
  next hsmall =>
    simp only [Char.isDigit, Bool.and_eq_true, decide_eq_true_eq] at hdigit
    have hlow : 48 ≤ c.toNat := UInt32.le_iff_toNat_le.mp hdigit.1
    omega
  next hlarge =>
    obtain ⟨r, hr, hc⟩ := List.any_eq_true.mp hdigit
    rw [Bool.and_eq_true, decide_eq_true_eq, decide_eq_true_eq] at hc
    have hbetween := digitRanges_between_blanks r hr
    omega

theorem isBlank_of_isSpaceOrTab {c : Char} (h : isSpaceOrTab c = true) : isBlank c = true := by
  rw [isSpaceOrTab, Bool.or_eq_true, beq_iff_eq, beq_iff_eq] at h
  rcases h with rfl | rfl
  · decide
  · decide

/-! ## 2. Dropping blanks -/

theorem dropWhile_isBlank_of_isUpper {c : Char} (h : c.isUpper = true) (text : List Char) :
    (c :: text).dropWhile isBlank = c :: text := by
  rw [List.dropWhile_cons, isBlank_eq_false_of_isUpper h, if_neg Bool.false_ne_true]

theorem dropWhile_isBlank_cons_space (text : List Char) :
    (' ' :: text).dropWhile isBlank = text.dropWhile isBlank := by
  rw [List.dropWhile_cons, if_pos (by decide)]

theorem mem_of_mem_dropEndWhile {p : Char → Bool} {c : Char} {cs : List Char}
    (h : c ∈ dropEndWhile p cs) : c ∈ cs := by
  rw [dropEndWhile, List.mem_reverse] at h
  exact List.mem_reverse.mp ((List.dropWhile_sublist _).mem h)

/-- Trimming takes away blanks only. -/
theorem countP_trimBlanks (cs : List Char) :
    (trimBlanks cs).countP (fun c => !isBlank c) = cs.countP fun c => !isBlank c := by
  rw [trimBlanks, trimBoth, dropEndWhile, List.countP_reverse, countP_dropWhile,
    List.countP_reverse, countP_dropWhile]

end TaskNotes
