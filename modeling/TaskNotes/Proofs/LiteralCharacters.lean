/-
# Characters taken literally

A reader of escapes goes through a text from left to right: it drops a backslash that stands before
ASCII punctuation and takes the character behind it literally (`readEscapes`).  On a text that has
been escaped it gives back the text that was escaped, and every character that could be markup is
taken literally (`readEscapes_escapeText`).

Inside a line the reading is known exactly: the characters taken literally are those that need an
escape (`readEscapes_escapeAfter`).  The start of a line is escaped on top of that, by one more
backslash, which never stands before another one: so the reading keeps its characters, and what was
taken literally stays so (`KeepsLiterals`).

The reader of escapes is not the reader of inline markup: it knows nothing of emphasis, code or
links, and goes through the text once.  That makes it a measure of the escapes alone.  A character
that could be markup and is not taken literally might become markup in some context; one that is
taken literally cannot in any.

What could be markup is said of a character and its two neighbours, as they are in the text that
was escaped.  This is less than what gets an escape: a bracket, an angle bracket, an ampersand or a
backslash is escaped as well, depending on what follows it.
-/
import TaskNotes.Proofs.EscapedText

namespace TaskNotes

/-! ## 1. Reading escapes

A backslash that stands before anything but ASCII punctuation is a character like any other, and so
is one at the end of a text. -/

/-- A character that has been read, and whether it was taken literally. -/
structure Taken where
  char : Char
  literal : Bool
deriving DecidableEq, Repr

/-- Reads a text from left to right: a backslash before ASCII punctuation is dropped, and the
character behind it is taken literally. -/
def readEscapes : List Char → List Taken
  | [] => []
  | [c] => [⟨c, false⟩]
  | c :: d :: rest =>
    if c = '\\' ∧ isAsciiPunctuation d then ⟨d, true⟩ :: readEscapes rest
    else ⟨c, false⟩ :: readEscapes (d :: rest)

/-- Whether a character could be markup, given its neighbours: an asterisk, a backtick, a tilde
beside another one, or an underscore that does not stand between two alphanumeric characters. -/
def couldBeMarkup (before : Option Char) (c : Char) (after : Option Char) : Bool :=
  c == '*' || c == '\x60' || (c == '~' && (before == some '~' || after == some '~'))
    || (c == '_' && !(before.any isAlphanumeric && after.any isAlphanumeric))

/-- Whether a reading is disarmed: every character that could be markup is taken literally. -/
def IsDisarmed (read : List Taken) : Prop :=
  ∀ before t after, read = before ++ t :: after →
    couldBeMarkup (before.getLast?.map Taken.char) t.char (after.head?.map Taken.char) = true →
      t.literal = true

section

variable {c d : Char} {rest : List Char}

theorem readEscapes_escape (hd : isAsciiPunctuation d = true) (rest : List Char) :
    readEscapes ('\\' :: d :: rest) = ⟨d, true⟩ :: readEscapes rest := by
  rw [readEscapes, if_pos ⟨rfl, hd⟩]

theorem readEscapes_cons (h : c = '\\' → headIs isAsciiPunctuation rest = false) :
    readEscapes (c :: rest) = ⟨c, false⟩ :: readEscapes rest := by
  cases rest with
  | nil => rfl
  | cons d rest =>
    rw [readEscapes, if_neg]
    rintro ⟨hc, hd⟩
    have hnone : isAsciiPunctuation d = false := h hc
    rw [hnone] at hd
    cases hd

theorem readEscapes_append (h : ∀ c ∈ rest, c ≠ '\\') (more : List Char) :
    readEscapes (rest ++ more) = rest.map (⟨·, false⟩) ++ readEscapes more := by
  induction rest with
  | nil => rfl
  | cons c rest ih =>
    have hc : c ≠ '\\' := h c List.mem_cons_self
    rw [List.cons_append, readEscapes_cons fun hback => absurd hback hc,
      ih fun d hd => h d (List.mem_cons_of_mem _ hd)]
    rfl

/-- What cannot be escaped parts a reading in two. -/
theorem readEscapes_append_cons (hd : isAsciiPunctuation d = false) (cs more : List Char) :
    readEscapes (cs ++ d :: more) = readEscapes cs ++ ⟨d, false⟩ :: readEscapes more := by
  have hback : d ≠ '\\' := by
    rintro rfl
    exact absurd hd (by decide)
  fun_induction readEscapes cs with
  | case1 => exact readEscapes_cons fun h => absurd h hback
  | case2 c =>
    have hnone : headIs isAsciiPunctuation (d :: more) = false := hd
    rw [List.singleton_append, readEscapes_cons fun _ => hnone,
      readEscapes_cons fun h => absurd h hback]
    rfl
  | case3 c e rest hescape ih =>
    obtain ⟨rfl, he⟩ := hescape
    rw [List.cons_append, List.cons_append, readEscapes_escape he, ih]
    rfl
  | case4 c e rest hplain ih =>
    rw [List.cons_append, List.cons_append, readEscapes, if_neg hplain, ← List.cons_append, ih]
    rfl

end

/-! ## 2. Inside a line

The induction is on the text, with the character in front left open, since it decides about the
next one.  A backslash needs an escape before punctuation only, and this is what keeps the reader
in step with the writer. -/

/-- The characters of a text, each with whether it needs an escape. -/
def escapedChars (before : Option Char) : List Char → List Taken
  | [] => []
  | c :: rest => ⟨c, needsEscape before c rest⟩ :: escapedChars (some c) rest

theorem map_char_escapedChars (b : Option Char) (cs : List Char) :
    (escapedChars b cs).map Taken.char = cs := by
  induction cs generalizing b with
  | nil => rfl
  | cons c cs ih => rw [escapedChars, List.map_cons, ih]

/-- **Inside a line exactly what needs an escape is taken literally.**  A backslash that needs none
stands before what needs none either, so it escapes nothing. -/
theorem readEscapes_escapeAfter (b : Option Char) (cs : List Char) :
    readEscapes (escapeAfter b cs) = escapedChars b cs := by
  induction cs generalizing b with
  | nil => rfl
  | cons c cs ih =>
    rw [escapeAfter, escapedChars]
    cases hescape : needsEscape b c cs with
    | true =>
      have hc := isAsciiPunctuation_of_mem_escapable c (mem_escapable_of_needsEscape hescape)
      rw [if_pos rfl, readEscapes_escape hc, ih]
    | false =>
      rw [if_neg Bool.false_ne_true, readEscapes_cons, ih]
      rintro rfl
      cases cs with
      | nil => rfl
      | cons d cs =>
        have hd : isAsciiPunctuation d = false := hescape
        have hne : d ∉ escapable := fun hmem => by
          rw [isAsciiPunctuation_of_mem_escapable d hmem] at hd
          cases hd
        rw [escapeAfter_cons_of_not_mem hne]
        exact hd

theorem literal_of_escapedChars {b : Option Char} {cs : List Char} {before after : List Taken}
    {t : Taken} (h : escapedChars b cs = before ++ t :: after) :
    t.literal = needsEscape ((before.getLast?.map Taken.char).or b) t.char
      (after.map Taken.char) := by
  induction before generalizing b cs with
  | nil =>
    cases cs with
    | nil => cases h
    | cons c cs =>
      obtain ⟨rfl, rfl⟩ := List.cons.inj h
      rw [map_char_escapedChars]
      rfl
  | cons s before ih =>
    cases cs with
    | nil => cases h
    | cons c cs =>
      obtain ⟨rfl, hrest⟩ := List.cons.inj h
      rw [ih hrest, List.getLast?_cons]
      cases before.getLast? <;> rfl

theorem needsEscape_of_couldBeMarkup {b : Option Char} {c : Char} {rest : List Char}
    (h : couldBeMarkup b c rest.head? = true) : needsEscape b c rest = true := by
  have hhead (p : Char → Bool) : rest.head?.any p = headIs p rest := by
    cases rest with
    | nil => rfl
    | cons d rest => rfl
  simp only [couldBeMarkup, Bool.or_eq_true, Bool.and_eq_true, beq_iff_eq, hhead] at h
  rcases h with ((rfl | rfl) | ⟨rfl, hbeside⟩) | ⟨rfl, hword⟩
  · rfl
  · rfl
  · rcases hbeside with rfl | hnext
    · exact Bool.or_true _
    · cases rest with
      | nil => cases hnext
      | cons d rest =>
        obtain rfl := Option.some.inj hnext
        rfl
  · cases b with
    | none => rfl
    | some b => exact hword

theorem isDisarmed_escapedChars (cs : List Char) : IsDisarmed (escapedChars none cs) := by
  intro before t after hread hmarkup
  rw [literal_of_escapedChars hread, Option.or_none]
  refine needsEscape_of_couldBeMarkup ?_
  rwa [List.head?_map]

/-! ## 3. The start of a line

At the start of a line there may be marks, such as the number of an item, that are no markup
elsewhere.  Of such a mark one character is escaped, and it is never a backslash nor behind one. -/

/-- Whether a reading has the characters of another one and takes literally what is taken literally
there. -/
def KeepsLiterals : List Taken → List Taken → Prop :=
  List.Forall₂ fun s t => s.char = t.char ∧ (s.literal = true → t.literal = true)

theorem KeepsLiterals.refl (read : List Taken) : KeepsLiterals read read :=
  List.forall₂_same.mpr fun _ _ => ⟨rfl, id⟩

theorem KeepsLiterals.map_char_eq {read other : List Taken} (h : KeepsLiterals read other) :
    other.map Taken.char = read.map Taken.char := by
  induction h with
  | nil => rfl
  | cons hst _ ih => rw [List.map_cons, List.map_cons, hst.1, ih]

theorem KeepsLiterals.isDisarmed {read other : List Taken} (h : KeepsLiterals read other)
    (hread : IsDisarmed read) : IsDisarmed other := by
  rintro before t after rfl hmarkup
  have hbefore : KeepsLiterals (read.take before.length) before :=
    List.forall₂_take_append read before (t :: after) h
  have hmore : KeepsLiterals (read.drop before.length) (t :: after) :=
    List.forall₂_drop_append read before (t :: after) h
  obtain ⟨s, after', hst, hafter, hsplit⟩ := List.forall₂_cons_right_iff.mp hmore
  have hwhole : read = read.take before.length ++ s :: after' := by
    rw [← hsplit, List.take_append_drop]
  refine hst.2 (hread _ s after' hwhole ?_)
  rw [← List.getLast?_map, ← List.head?_map] at hmarkup ⊢
  rwa [hst.1, ← hbefore.map_char_eq, ← KeepsLiterals.map_char_eq hafter]

section

variable {c : Char} {before : List Char}

/-- One more backslash before punctuation that is no backslash. -/
theorem keepsLiterals_insert (hc : isAsciiPunctuation c = true) (hback : c ≠ '\\')
    (hbefore : ∀ d ∈ before, d ≠ '\\') (rest : List Char) :
    KeepsLiterals (readEscapes (before ++ c :: rest))
      (readEscapes (before ++ '\\' :: c :: rest)) := by
  rw [readEscapes_append hbefore, readEscapes_append hbefore, readEscapes_escape hc,
    readEscapes_cons fun h => absurd h hback]
  exact List.rel_append (KeepsLiterals.refl _) (.cons ⟨rfl, nofun⟩ (KeepsLiterals.refl _))

/-- A line reads the same with its start escaped, but for one more character that is taken
literally. -/
theorem keepsLiterals_escapeLineStart (line : List Char) :
    KeepsLiterals (readEscapes line) (readEscapes (escapeLineStart line)) := by
  rw [escapeLineStart]
  split
  next hblock =>
    obtain ⟨c, rest, rfl, hc⟩ := exists_of_opensBlock hblock
    have hmarks : ∀ c ∈ ['#', '>', '-', '+', '='], isAsciiPunctuation c = true ∧ c ≠ '\\' := by
      decide
    have hnothing : ∀ d ∈ ([] : List Char), d ≠ '\\' := List.forall_mem_nil _
    exact keepsLiterals_insert (hmarks c hc).1 (hmarks c hc).2 hnothing rest
  next =>
    rcases escapeOrdered_eq line with hsame | ⟨digits, c, rest, hdigits, hc, hline, hordered⟩
    · rw [hsame]
      exact KeepsLiterals.refl _
    · have hmark : isAsciiPunctuation c = true ∧ c ≠ '\\' := by
        rcases hc with rfl | rfl <;> decide
      rw [hordered, hline]
      refine keepsLiterals_insert hmark.1 hmark.2 ?_ rest
      rintro d hd rfl
      exact absurd (hdigits _ hd) (by decide)

end

/-! ## 4. Texts of several lines

A line feed is no punctuation, so no escape reaches over it, and the lines are read one by one. -/

theorem keepsLiterals_joinLines {lines others : List (List Char)}
    (h : List.Forall₂ (fun line other => KeepsLiterals (readEscapes line) (readEscapes other))
      lines others) :
    KeepsLiterals (readEscapes (joinLines lines)) (readEscapes (joinLines others)) := by
  induction h with
  | nil => exact KeepsLiterals.refl _
  | @cons line other lines others hline hlines ih =>
    cases hlines with
    | nil => exact hline
    | cons =>
      rw [joinLines_cons_cons, joinLines_cons_cons, readEscapes_append_cons (by decide),
        readEscapes_append_cons (by decide)]
      exact List.rel_append hline (.cons ⟨rfl, id⟩ ih)

/-- What is escaped at the start of its lines, besides what is escaped inside them. -/
theorem keepsLiterals_escapeText (value : List Char) (lineStart : Bool) :
    KeepsLiterals (escapedChars none value) (readEscapes (escapeText value lineStart)) := by
  have hwhole : escapedChars none value =
      readEscapes (joinLines (splitLines (escapeAfter none value))) := by
    rw [joinLines_splitLines, readEscapes_escapeAfter]
  rw [hwhole, escapeText]
  obtain ⟨first, others, hlines⟩ :=
    List.exists_cons_of_ne_nil (splitLines_ne_nil (escapeAfter none value))
  rw [hlines]
  refine keepsLiterals_joinLines
    (.cons ?_ (List.forall₂_map_right_iff.mpr (List.forall₂_same.mpr ?_)))
  · cases lineStart with
    | false => exact KeepsLiterals.refl _
    | true => exact keepsLiterals_escapeLineStart first
  · exact fun line _ => keepsLiterals_escapeLineStart line

/-- **An escaped text is read as the text it was**, whether or not it begins a line, and every
character of it that could be markup is taken literally. -/
theorem readEscapes_escapeText (value : List Char) (lineStart : Bool) :
    (readEscapes (escapeText value lineStart)).map Taken.char = value ∧
      IsDisarmed (readEscapes (escapeText value lineStart)) := by
  have hkeeps := keepsLiterals_escapeText value lineStart
  refine ⟨?_, hkeeps.isDisarmed (isDisarmed_escapedChars value)⟩
  rw [hkeeps.map_char_eq, map_char_escapedChars]

/-- Backslashes in front of what is escaped, underscores, and a line that begins like an item. -/
example : readEscapes (escapeText "\\*a_b\n1. _".toList true) =
    [⟨'\\', true⟩, ⟨'*', true⟩, ⟨'a', false⟩, ⟨'_', false⟩, ⟨'b', false⟩, ⟨'\n', false⟩,
      ⟨'1', false⟩, ⟨'.', true⟩, ⟨' ', false⟩, ⟨'_', true⟩] := by
  decide

end TaskNotes
