/-
# Paths in URLs

A path that is written into a URL is read back as it was (`decodeUrl_encodePath`), and the URL is
taken apart where it was put together: the encoded path holds no colon, so it gives the URL no
scheme, and neither a question mark nor a number sign, so its suffix begins where it was appended
(`refersTo_encodePath`).

Coding works on the bytes of a path, so names in any script can be written, and what is read back
is the bytes first and their characters then.  Both directions are total here: a path has an
encoding, and an encoding that was made for a path is read without an error.

An empty path has an empty encoding, and a URL without a path refers to no file, so the last
theorem asks for a path that is not empty.
-/
import TaskNotes.Url.Reference
import TaskNotes.Proofs.Success
import TaskNotes.Proofs.Utf8

namespace TaskNotes

/-! ## 1. Encoded bytes

A byte is written as a percent sign and two hexadecimal digits, and these are read back as the byte
they were written for. -/

theorem hexDigit?_hexDigitUpper : ∀ n < 16, hexDigit? (hexDigitUpper n) = some n := by decide

theorem isPathChar_hexDigitUpper : ∀ n < 16, isPathChar (hexDigitUpper n) = true := by decide

theorem percentBytes_percentByte (b : UInt8) (rest : List Char) :
    percentBytes (percentByte b ++ rest) = b :: percentBytes rest := by
  have hb : b.toNat < 256 := b.toNat_lt
  have hhigh : hexDigit? (hexDigitUpper (b.toNat / 16)) = some (b.toNat / 16) :=
    hexDigit?_hexDigitUpper _ (by omega)
  have hlow : hexDigit? (hexDigitUpper (b.toNat % 16)) = some (b.toNat % 16) :=
    hexDigit?_hexDigitUpper _ (by omega)
  have hvalue : 16 * (b.toNat / 16) + b.toNat % 16 = b.toNat := by omega
  simp only [percentByte, List.cons_append, List.nil_append, percentBytes, encodedByte?, if_true,
    byteOfDigits?, hhigh, hlow, hvalue, UInt8.ofNat_toNat]

theorem percentBytes_flatMap_percentByte (bytes : Bytes) (rest : List Char) :
    percentBytes (bytes.flatMap percentByte ++ rest) = bytes ++ percentBytes rest := by
  induction bytes with
  | nil => rfl
  | cons b bytes ih =>
    rw [List.flatMap_cons, List.append_assoc, percentBytes_percentByte, ih, List.cons_append]

/-- A character that is no mark of an encoded byte is its own byte. -/
theorem percentBytes_cons {c : Char} (hc : c ≠ '%') (rest : List Char) :
    percentBytes (c :: rest) = asciiByte c :: percentBytes rest := by
  match rest with
  | [] => rfl
  | [_] => rfl
  | high :: low :: more => rw [percentBytes, encodedByte?, if_neg hc]

/-! ## 2. Encoded paths

A character that stays is an ASCII character, and one byte.  All others give the bytes of their
UTF-8 form. -/

theorem isAscii_of_isPathChar {c : Char} (h : isPathChar c = true) : isAscii c = true := by
  simp only [isPathChar, Bool.or_eq_true, beq_iff_eq] at h
  have halnum : c.isAlphanum = true → isAscii c = true := by
    intro h
    have h : ((c.isUpper || c.isLower) || c.isDigit) = true := h
    rw [Bool.or_eq_true, Bool.or_eq_true] at h
    simp only [isAscii, decide_eq_true_eq, Char.toNat]
    rcases h with (hupper | hlower) | hdigit
    · obtain ⟨-, hle⟩ := of_decide_eq_true hupper
      exact Nat.lt_of_le_of_lt (UInt32.le_iff_toNat_le.mp hle) (by decide)
    · obtain ⟨-, hle⟩ := Bool.and_eq_true_iff.mp hlower
      exact Nat.lt_of_le_of_lt (UInt32.le_iff_toNat_le.mp (of_decide_eq_true hle)) (by decide)
    · obtain ⟨-, hle⟩ := Bool.and_eq_true_iff.mp hdigit
      exact Nat.lt_of_le_of_lt (UInt32.le_iff_toNat_le.mp (of_decide_eq_true hle)) (by decide)
  rcases h with (((((((((h | rfl) | rfl) | rfl) | rfl) | rfl) | rfl) | rfl) | rfl) | rfl) | rfl
  · exact halnum h
  all_goals decide

/-- An encoded path consists of the characters that stay and of marks of encoded bytes. -/
theorem isPathChar_or_eq_of_mem_encodePath {path : List Char} {c : Char}
    (h : c ∈ encodePath path) : isPathChar c = true ∨ c = '%' := by
  obtain ⟨d, -, hd⟩ := List.mem_flatMap.mp h
  split at hd
  next hpath =>
    rw [List.mem_singleton.mp hd]
    exact .inl hpath
  next =>
    obtain ⟨b, -, hb⟩ := List.mem_flatMap.mp hd
    have hlt : b.toNat < 256 := b.toNat_lt
    simp only [percentByte, List.mem_cons, List.not_mem_nil, or_false] at hb
    rcases hb with rfl | rfl | rfl
    · exact .inr rfl
    · exact .inl (isPathChar_hexDigitUpper _ (by omega))
    · exact .inl (isPathChar_hexDigitUpper _ (by omega))

theorem not_mem_encodePath {path : List Char} {c : Char} (hpath : isPathChar c = false)
    (hmark : c ≠ '%') : c ∉ encodePath path := by
  intro h
  rcases isPathChar_or_eq_of_mem_encodePath h with h | h
  · rw [hpath] at h
    cases h
  · exact hmark h

theorem isAscii_of_mem_encodePath {path : List Char} {c : Char} (h : c ∈ encodePath path) :
    isAscii c = true := by
  rcases isPathChar_or_eq_of_mem_encodePath h with h | rfl
  · exact isAscii_of_isPathChar h
  · decide

theorem encodePath_ne_nil {path : List Char} (h : path ≠ []) : encodePath path ≠ [] := by
  cases path with
  | nil => exact absurd rfl h
  | cons c path =>
    rw [encodePath, List.flatMap_cons]
    refine List.append_ne_nil_of_left_ne_nil ?_ _
    split
    · exact List.cons_ne_nil _ _
    · rw [percentChar, utf8Char]
      split_ifs <;> exact List.cons_ne_nil _ _

/-- The bytes that an encoded path stands for are those of the path. -/
theorem percentBytes_encodePath (path : List Char) :
    percentBytes (encodePath path) = utf8 path := by
  induction path with
  | nil => rfl
  | cons c path ih =>
    rw [encodePath, List.flatMap_cons, ← encodePath, utf8, List.flatMap_cons, ← utf8, ← ih]
    split
    next hpath =>
      have hne : c ≠ '%' := by
        rintro rfl
        cases hpath
      have hsmall : c.toNat < 0x80 := by
        have := isAscii_of_isPathChar hpath
        simpa [isAscii] using this
      rw [List.singleton_append, percentBytes_cons hne, utf8Char]
      simp only [hsmall, if_true]
      rfl
    next => exact percentBytes_flatMap_percentByte _ _

theorem decodeUrlFrom_of_isAscii {url : List Char} (h : ∀ c ∈ url, isAscii c = true)
    (read : List Char) : decodeUrlFrom read url = decodeUtf8 (percentBytes (read ++ url)) := by
  induction url generalizing read with
  | nil => rw [decodeUrlFrom, List.append_nil]
  | cons c url ih =>
    rw [decodeUrlFrom, if_pos (h c List.mem_cons_self),
      ih fun d hd => h d (List.mem_cons_of_mem _ hd), List.append_assoc, List.singleton_append]

/-- **A path is read back from a URL as it was.** -/
theorem decodeUrl_encodePath (path : List Char) : decodeUrl (encodePath path) = .ok path := by
  rw [decodeUrl, decodeUrlFrom_of_isAscii fun c hc => isAscii_of_mem_encodePath hc,
    List.nil_append, percentBytes_encodePath, decodeUtf8_utf8]

/-! ## 3. References

A URL is cut at its first question mark or number sign.  The parts of a reference are kept in one
structure, so that what is made of it can be said to refer again. -/

/-- A URL that refers to a file: it has no scheme, is no mere fragment, and in front of its query
and fragment stands the encoding of a path. -/
structure RefersTo (url path suffix : List Char) : Prop where
  no_scheme : hasScheme url = false
  no_fragment : isFragment url = false
  suffix_eq : (splitSuffix url).2 = suffix
  head_ne_nil : (splitSuffix url).1 ≠ []
  decodes : decodeUrl (splitSuffix url).1 = .ok path

/-- Whether a text can be the query and fragment of a URL. -/
def IsSuffix (suffix : List Char) : Prop := ∀ c, suffix.head? = some c → beginsSuffix c = true

theorem isSuffix_splitSuffix (url : List Char) : IsSuffix (splitSuffix url).2 := by
  intro c hc
  have h := List.head?_dropWhile_not (fun c => !beginsSuffix c) url
  rw [show (url.dropWhile fun c => !beginsSuffix c).head? = some c from hc] at h
  simpa using h

theorem splitSuffix_append {head suffix : List Char} (hhead : ∀ c ∈ head, beginsSuffix c = false)
    (hsuffix : IsSuffix suffix) : splitSuffix (head ++ suffix) = (head, suffix) := by
  have hpos : ∀ c ∈ head, (!beginsSuffix c) = true := by
    intro c hc
    rw [hhead c hc]
    rfl
  rw [splitSuffix, List.takeWhile_append_of_pos hpos, List.dropWhile_append_of_pos hpos]
  cases suffix with
  | nil => rw [List.takeWhile_nil, List.dropWhile_nil, List.append_nil]
  | cons c suffix =>
    simp only [List.takeWhile_cons, List.dropWhile_cons, hsuffix c rfl, Bool.not_true,
      Bool.false_eq_true, if_false, List.append_nil]

/-- A scheme ends with a colon, and neither an encoded path nor the first character of a suffix
is one. -/
theorem hasScheme_append {head suffix : List Char} (hne : head ≠ []) (hhead : ':' ∉ head)
    (hsuffix : IsSuffix suffix) : hasScheme (head ++ suffix) = false := by
  cases head with
  | nil => exact absurd rfl hne
  | cons c rest =>
    rw [List.cons_append, hasScheme, Bool.and_eq_false_iff, beq_eq_false_iff_ne]
    right
    rw [List.dropWhile_append]
    split
    · cases suffix with
      | nil => exact nofun
      | cons d suffix =>
        have hd := hsuffix d rfl
        simp only [beginsSuffix, Bool.or_eq_true, beq_iff_eq] at hd
        rcases hd with rfl | rfl
        · exact fun h => by cases h
        · exact fun h => by cases h
    next hnonempty =>
      intro hcolon
      have hmem : ':' ∈ rest.dropWhile
          fun d => d.isAlphanum || d == '+' || d == '.' || d == '-' := by
        rw [List.head?_append_of_ne_nil _ (by simpa using hnonempty)] at hcolon
        exact List.mem_of_head? hcolon
      exact hhead (List.mem_cons_of_mem _ ((List.dropWhile_sublist _).mem hmem))

theorem beginsSuffix_of_mem_encodePath {path : List Char} {c : Char} (h : c ∈ encodePath path) :
    beginsSuffix c = false := by
  rw [← Bool.not_eq_true]
  intro hc
  simp only [beginsSuffix, Bool.or_eq_true, beq_iff_eq] at hc
  rcases hc with rfl | rfl
  · exact not_mem_encodePath (by decide) (by decide) h
  · exact not_mem_encodePath (by decide) (by decide) h

/-- **A URL that is put together of a path and a suffix refers to the path.** -/
theorem refersTo_encodePath {path suffix : List Char} (hne : path ≠ [])
    (hsuffix : IsSuffix suffix) : RefersTo (encodePath path ++ suffix) path suffix := by
  have hhead : encodePath path ≠ [] := encodePath_ne_nil hne
  have hsplit : splitSuffix (encodePath path ++ suffix) = (encodePath path, suffix) :=
    splitSuffix_append (fun c hc => beginsSuffix_of_mem_encodePath hc) hsuffix
  constructor
  · exact hasScheme_append hhead (not_mem_encodePath (by decide) (by decide)) hsuffix
  · rw [isFragment, List.head?_append_of_ne_nil _ hhead, beq_eq_false_iff_ne]
    intro hmark
    exact not_mem_encodePath (by decide) (by decide) (List.mem_of_head? hmark)
  · rw [hsplit]
  · rw [hsplit]
    exact hhead
  · rw [hsplit]
    exact decodeUrl_encodePath path

end TaskNotes
