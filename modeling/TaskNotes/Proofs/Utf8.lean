/-
# Decoding what was encoded

The bytes of a text are decoded to the text (`decodeUtf8_utf8`).  A character is read off the
front of its bytes whatever follows them, one case for each number of bytes; that it is a
character, no surrogate and not beyond the last one, is what lets its second byte pass.

The decoder checks more than it has to for bytes that were encoded: the second byte of some
characters must lie in a smaller range, so that no character is written longer than need be and no
surrogate at all.  The proofs are arithmetic on the number of the character, with its bytes as
quotients and remainders by powers of 64.
-/
import TaskNotes.Text.Utf8

namespace TaskNotes

/-! ## 1. Bytes

A byte behind the first holds six bits, and the sum of its mark and these is below 256. -/

theorem toNat_continuationByte (n : Nat) : (continuationByte n).toNat = 0x80 + n % 64 :=
  UInt8.toNat_ofNat_of_lt' (by unfold UInt8.size; omega)

theorem isContinuation_continuationByte (n : Nat) : isContinuation (continuationByte n) = true := by
  have := toNat_continuationByte n
  simp only [isContinuation, Bool.and_eq_true, decide_eq_true_eq]
  omega

theorem lowBits_continuationByte (n : Nat) : lowBits (continuationByte n) = n % 64 := by
  rw [lowBits, toNat_continuationByte]
  omega

/-! ## 2. Characters

The induction on a text needs one step, and the step is a case for each number of bytes. -/

theorem lt_or_lt_of_char (c : Char) : c.toNat < 0xD800 ∨ (0xDFFF < c.toNat ∧ c.toNat < 0x110000) :=
  c.valid

/-- The second byte of a character passes after its first. -/
theorem isSecond_three {c : Char} (h : 0x800 ≤ c.toNat) (hlt : c.toNat < 0x10000) :
    isSecond (UInt8.ofNat (0xE0 + c.toNat / 4096)) (continuationByte (c.toNat / 64)) = true := by
  have hlead : (UInt8.ofNat (0xE0 + c.toNat / 4096)).toNat = 0xE0 + c.toNat / 4096 :=
    UInt8.toNat_ofNat_of_lt' (by unfold UInt8.size; omega)
  have hsecond := toNat_continuationByte (c.toNat / 64)
  have hchar := lt_or_lt_of_char c
  simp only [isSecond, isContinuation_continuationByte, hlead, hsecond, Bool.true_and,
    Bool.and_eq_true, Bool.or_eq_true, bne_iff_ne, decide_eq_true_eq]
  omega

theorem isSecond_four {c : Char} (h : 0x10000 ≤ c.toNat) :
    isSecond (UInt8.ofNat (0xF0 + c.toNat / 262144)) (continuationByte (c.toNat / 4096)) =
      true := by
  have hchar := lt_or_lt_of_char c
  have hlead : (UInt8.ofNat (0xF0 + c.toNat / 262144)).toNat = 0xF0 + c.toNat / 262144 :=
    UInt8.toNat_ofNat_of_lt' (by unfold UInt8.size; omega)
  have hsecond := toNat_continuationByte (c.toNat / 4096)
  simp only [isSecond, isContinuation_continuationByte, hlead, hsecond, Bool.true_and,
    Bool.and_eq_true, Bool.or_eq_true, bne_iff_ne, decide_eq_true_eq]
  omega

theorem isSecond_two {n m : Nat} (h : n < 0xE0) (hn : n < 256):
    isSecond (UInt8.ofNat n) (continuationByte m) = true := by
  have hlead : (UInt8.ofNat n).toNat = n := UInt8.toNat_ofNat_of_lt' hn
  simp only [isSecond, isContinuation_continuationByte, hlead, Bool.true_and,
    Bool.and_eq_true, Bool.or_eq_true, bne_iff_ne, decide_eq_true_eq]
  omega

/-- **A character is read off the front of its bytes.** -/
theorem decodeUtf8From_utf8Char (position : Nat) (c : Char) (rest : Bytes) :
    ∃ next, decodeUtf8From position (utf8Char c ++ rest) =
      (decodeUtf8From next rest).map (c :: ·) := by
  have hchar := lt_or_lt_of_char c
  have hback : ∀ n, n = c.toNat → Char.ofNat n = c := by
    rintro _ rfl
    exact Char.ofNat_toNat c
  unfold utf8Char
  simp only
  split
  next hone =>
    have hlead : (UInt8.ofNat c.toNat).toNat = c.toNat :=
      UInt8.toNat_ofNat_of_lt' (by unfold UInt8.size; omega)
    refine ⟨position + 1, ?_⟩
    rw [List.singleton_append, decodeUtf8From.eq_def]
    simp only [hlead, hone, if_true]
    rw [hback _ rfl]
  next hone =>
    split
    next htwo =>
      have hlead : (UInt8.ofNat (0xC0 + c.toNat / 64)).toNat = 0xC0 + c.toNat / 64 :=
        UInt8.toNat_ofNat_of_lt' (by unfold UInt8.size; omega)
      refine ⟨position + 2, ?_⟩
      rw [List.cons_append, List.singleton_append, decodeUtf8From.eq_def]
      simp only [hlead]
      rw [if_neg (by omega), if_neg (by omega), isSecond_two (by omega) (by omega)]
      simp only [Bool.not_true, Bool.false_eq_true, if_false]
      rw [if_pos (by omega), lowBits_continuationByte, hback]
      omega
    next htwo =>
      split
      next hthree =>
        have hlead : (UInt8.ofNat (0xE0 + c.toNat / 4096)).toNat = 0xE0 + c.toNat / 4096 :=
          UInt8.toNat_ofNat_of_lt' (by unfold UInt8.size; omega)
        refine ⟨position + 3, ?_⟩
        rw [List.cons_append, List.cons_append, List.singleton_append, decodeUtf8From.eq_def]
        simp only [hlead]
        rw [if_neg (by omega), if_neg (by omega), isSecond_three (by omega) hthree]
        simp only [isContinuation_continuationByte, Bool.not_true, Bool.false_eq_true, if_false]
        rw [if_neg (by omega), if_pos (by omega), lowBits_continuationByte,
          lowBits_continuationByte, hback]
        omega
      next hthree =>
        have hlead : (UInt8.ofNat (0xF0 + c.toNat / 262144)).toNat = 0xF0 + c.toNat / 262144 :=
          UInt8.toNat_ofNat_of_lt' (by unfold UInt8.size; omega)
        refine ⟨position + 4, ?_⟩
        rw [List.cons_append, List.cons_append, List.cons_append, List.singleton_append,
          decodeUtf8From.eq_def]
        simp only [hlead]
        rw [if_neg (by omega), if_neg (by omega), isSecond_four (by omega)]
        simp only [isContinuation_continuationByte, Bool.not_true, Bool.false_eq_true, if_false]
        rw [if_neg (by omega), if_neg (by omega), lowBits_continuationByte,
          lowBits_continuationByte, lowBits_continuationByte, hback]
        omega

/-! ## 3. Texts -/

theorem decodeUtf8From_utf8 (position : Nat) (cs : List Char) :
    decodeUtf8From position (utf8 cs) = .ok cs := by
  induction cs generalizing position with
  | nil => rfl
  | cons c cs ih =>
    obtain ⟨next, hnext⟩ := decodeUtf8From_utf8Char position c (utf8 cs)
    rw [utf8, List.flatMap_cons, ← utf8, hnext, ih]
    rfl

/-- **The bytes of a text are decoded to the text.** -/
theorem decodeUtf8_utf8 (cs : List Char) : decodeUtf8 (utf8 cs) = .ok cs :=
  decodeUtf8From_utf8 0 cs

end TaskNotes
