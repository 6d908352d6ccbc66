/-
# Characters of words

Letters and digits are neither spacing nor punctuation (`isSpacing_eq_false_of_isAlphanumeric`,
`isPunctuationOrSymbol_eq_false_of_isAlphanumeric`).  Beyond ASCII this is a fact about tables:
two ascending tables are compared by going through both at once.

The readers of emphasis ask of a character whether it is spacing or punctuation, and the escape of
underscores asks whether it is part of a word.  That these do not overlap is what lets an
underscore between two letters go unescaped.

The tables have hundreds of ranges, and comparing each with each would take too long to be checked.
As both ascend, they lie apart if they do when they are merged, and this takes one step for each
range.
-/
import TaskNotes.Proofs.Blank
import TaskNotes.Text.Alphanumeric
import TaskNotes.Text.Punctuation

namespace TaskNotes

/-! ## 1. Tables side by side

The bound that goes along says that everything behind it lies higher, which is what the induction
needs of the ranges that are left. -/

namespace CodeSet

/-- Whether the ranges of a table ascend from a number on. -/
def ascends : (low : Nat) → CodeSet → Bool
  | _, [] => true
  | low, r :: rs => low ≤ r.1 && r.1 ≤ r.2 && ascends (r.2 + 1) rs

/-- Whether the ranges of two tables ascend from a number on and lie apart; `fuel` bounds how many
there are. -/
def apart : (fuel low : Nat) → CodeSet → CodeSet → Bool
  | 0, _, _, _ => false
  | _ + 1, low, [], ss => ascends low ss
  | _ + 1, low, rs, [] => ascends low rs
  | fuel + 1, low, r :: rs, s :: ss =>
    if r.1 < s.1 then
      low ≤ r.1 && r.1 ≤ r.2 && r.2 < s.1 && apart fuel (r.2 + 1) rs (s :: ss)
    else low ≤ s.1 && s.1 ≤ s.2 && s.2 < r.1 && apart fuel (s.2 + 1) (r :: rs) ss

theorem le_of_ascends : ∀ {low : Nat} {rs : CodeSet}, ascends low rs = true → ∀ r ∈ rs, low ≤ r.1
  | low, r :: rs, h, q, hq => by
    simp only [ascends, Bool.and_eq_true, decide_eq_true_eq] at h
    rcases List.mem_cons.mp hq with rfl | hq
    · exact h.1.1
    · have := le_of_ascends h.2 q hq
      omega

theorem of_apart : ∀ {fuel low : Nat} {rs ss : CodeSet}, apart fuel low rs ss = true →
    (∀ r ∈ rs, low ≤ r.1) ∧ (∀ s ∈ ss, low ≤ s.1) ∧ ∀ r ∈ rs, ∀ s ∈ ss, r.2 < s.1 ∨ s.2 < r.1
  | 0, _, _, _, h => by simp [apart] at h
  | _ + 1, _, [], _, h => ⟨nofun, le_of_ascends h, nofun⟩
  | _ + 1, _, _ :: _, [], h => ⟨le_of_ascends h, nofun, fun _ _ => nofun⟩
  | fuel + 1, low, r :: rs, s :: ss, h => by
    rw [apart] at h
    split at h
    next =>
      simp only [Bool.and_eq_true, decide_eq_true_eq] at h
      obtain ⟨⟨⟨hlow, hrange⟩, hbelow⟩, hothers⟩ := h
      obtain ⟨hrs, hss, hapart⟩ := of_apart hothers
      refine ⟨?_, ?_, ?_⟩
      · refine List.forall_mem_cons.mpr ⟨hlow, fun q hq => ?_⟩
        have := hrs q hq
        omega
      · intro q hq
        have := hss q hq
        omega
      · refine List.forall_mem_cons.mpr ⟨fun q hq => .inl ?_, hapart⟩
        have := hss q hq
        omega
    next =>
      simp only [Bool.and_eq_true, decide_eq_true_eq] at h
      obtain ⟨⟨⟨hlow, hrange⟩, hbelow⟩, hothers⟩ := h
      obtain ⟨hrs, hss, hapart⟩ := of_apart hothers
      refine ⟨?_, ?_, ?_⟩
      · intro q hq
        have := hrs q hq
        omega
      · refine List.forall_mem_cons.mpr ⟨hlow, fun q hq => ?_⟩
        have := hss q hq
        omega
      · intro q hq
        refine List.forall_mem_cons.mpr ⟨.inr ?_, hapart q hq⟩
        have := hrs q hq
        omega

/-- No number lies in both of two tables that lie apart. -/
theorem contains_eq_false_of_apart {fuel : Nat} {rs ss : CodeSet} (h : apart fuel 0 rs ss = true)
    {n : Nat} (hn : rs.contains n = true) : ss.contains n = false := by
  obtain ⟨-, -, hapart⟩ := of_apart h
  obtain ⟨r, hr, hnr⟩ := List.any_eq_true.mp hn
  rw [contains, List.any_eq_false]
  intro s hs
  have := hapart r hr s hs
  simp only [Bool.and_eq_true, decide_eq_true_eq] at hnr ⊢
  omega

/-- The spacing beyond ASCII. -/
def spacing : CodeSet :=
  [(0xA0, 0xA0), (0x1680, 0x1680), (0x2000, 0x200A), (0x202F, 0x202F), (0x205F, 0x205F),
    (0x3000, 0x3000)]

end CodeSet

/-! ## 2. Letters and digits

Characters of ASCII are told by their numbers, and all others by the tables. -/

set_option maxRecDepth 40000 in
theorem letterRanges_apart :
    CodeSet.apart 2000 0 letterRanges punctuationOrSymbolRanges = true ∧
      CodeSet.apart 2000 0 letterRanges CodeSet.spacing = true := by
  have hletters : letterRanges = _ := CodeSet.ofText_ofList _
  have hmarks : punctuationOrSymbolRanges = _ := CodeSet.ofText_ofList _
  rw [hletters, hmarks]
  decide +kernel

set_option maxRecDepth 40000 in
theorem digitRanges_apart :
    CodeSet.apart 2000 0 digitRanges punctuationOrSymbolRanges = true ∧
      CodeSet.apart 2000 0 digitRanges CodeSet.spacing = true := by
  have hdigits : digitRanges = _ := CodeSet.ofText_ofList _
  have hmarks : punctuationOrSymbolRanges = _ := CodeSet.ofText_ofList _
  rw [hdigits, hmarks]
  decide +kernel

/-- An ASCII letter or digit, by its number. -/
theorem toNat_of_isAlphanum {c : Char} (h : c.isAlphanum = true) :
    48 ≤ c.toNat ∧ c.toNat ≤ 57 ∨ 65 ≤ c.toNat ∧ c.toNat ≤ 90 ∨ 97 ≤ c.toNat ∧ c.toNat ≤ 122 := by
  delta Char.isAlphanum Char.isAlpha Char.isUpper Char.isLower Char.isDigit at h
  simp only [ge_iff_le, Bool.or_eq_true, Bool.and_eq_true, decide_eq_true_eq,
    UInt32.le_iff_toNat_le] at h
  change ((65 ≤ c.toNat ∧ c.toNat ≤ 90) ∨ 97 ≤ c.toNat ∧ c.toNat ≤ 122) ∨
    48 ≤ c.toNat ∧ c.toNat ≤ 57 at h
  omega

/-- **Letters and digits are no spacing.** -/
theorem isSpacing_eq_false_of_isAlphanumeric {c : Char} (h : isAlphanumeric c = true) :
    isSpacing c = false := by
  rw [isAlphanumeric] at h
  split at h
  next =>
    have := toNat_of_isAlphanum h
    simp [isSpacing]
    omega
  next hlarge =>
    have hnone : CodeSet.spacing.contains c.toNat = false := by
      rcases Bool.or_eq_true_iff.mp h with h | h
      · rw [isDigit, if_neg hlarge] at h
        exact CodeSet.contains_eq_false_of_apart digitRanges_apart.2 h
      · exact CodeSet.contains_eq_false_of_apart letterRanges_apart.2 h
    simp [CodeSet.contains, CodeSet.spacing] at hnone
    simp [isSpacing]
    omega

/-- **Letters and digits are neither punctuation nor symbols.** -/
theorem isPunctuationOrSymbol_eq_false_of_isAlphanumeric {c : Char}
    (h : isAlphanumeric c = true) : isPunctuationOrSymbol c = false := by
  rw [isAlphanumeric] at h
  rw [isPunctuationOrSymbol]
  split at h
  next hsmall =>
    have := toNat_of_isAlphanum h
    rw [if_pos hsmall]
    simp [isAsciiPunctuation]
    omega
  next hlarge =>
    rw [if_neg hlarge]
    rcases Bool.or_eq_true_iff.mp h with h | h
    · rw [isDigit, if_neg hlarge] at h
      exact CodeSet.contains_eq_false_of_apart digitRanges_apart.1 h
    · exact CodeSet.contains_eq_false_of_apart letterRanges_apart.1 h

end TaskNotes
