/-
# Where cleaning up escaped boxes leaves a document alone

`unescapeBoxes` looks at lines: where an escaped box stands behind the first marker of a line, it
takes the backslashes away.  It is meant for escapes that formatting has added, and it cannot tell
them from what a document says.  This module says of every tree whether it leaves its text as it is
(`unescapeBoxes_render_eq_self_iff`).

A text that is put together from blocks is left alone iff every block is left alone where it stands
(`keptFrom_joinBlocks`), and for the first line of a block there are three places to stand
(`LineStart`).  So only the texts of paragraphs, headings, code and HTML have to be looked at, and
of items without a box whether their content would be read as one.

The place of a line decides, and not the line alone.  A line of code that says `- \[ ] x` begins a
line of the document, and the clean-up takes its marker for that of an item.  The same content
behind another marker is left alone, because only the first marker of a line counts; and a number
of ten digits is no marker at all, although items are written with it.  So the condition cannot be
read off the source without going through the blocks again, and `keepTexts` is this walk.
-/
import TaskNotes.Format.Box
import TaskNotes.Proofs.Blank
import TaskNotes.Proofs.Identifier
import TaskNotes.Proofs.WrittenLines
import Mathlib.Data.List.Induction

namespace TaskNotes

open Format

/-! ## 1. One line -/

section

variable {cs rest line : List Char}

theorem isSuffix_of_afterMarker? (h : afterMarker? cs = some rest) : rest <:+ cs := by
  cases cs with
  | nil => cases h
  | cons c tail =>
    rw [afterMarker?] at h
    split at h
    · split at h
      · rw [← Option.some.inj h]
        exact List.dropWhile_suffix _
      · cases h
    · split at h
      · rw [← Option.some.inj h]
        exact List.suffix_cons c _
      · simp only at h
        split at h
        next mark after hdrop =>
          split at h
          · rw [← Option.some.inj h]
            exact (List.suffix_cons mark after).trans (hdrop ▸ List.drop_suffix _ _)
          · cases h
        next => cases h

theorem of_escapedBox? {c : Char} {after : List Char} (h : escapedBox? cs = some (c, after)) :
    cs = '\\' :: '[' :: c :: ']' :: after ∨ cs = '\\' :: '[' :: c :: '\\' :: ']' :: after := by
  unfold escapedBox? at h
  split at h
  next d tail =>
    split at h
    next =>
      split at h
      next =>
        cases h
        exact .inl rfl
      next =>
        cases h
        exact .inr rfl
      next => cases h
    next => cases h
  next => cases h

/-- A box that is written plainly is shorter. -/
theorem length_of_escapedBox? {c : Char} {after : List Char}
    (h : escapedBox? cs = some (c, after)) : after.length + 3 < cs.length := by
  rcases of_escapedBox? h with rfl | rfl
  · simp only [List.length_cons]
    omega
  · simp only [List.length_cons]
    omega

/-- Whether an escaped box stands behind the first marker of a line. -/
def hasEscapedBox (line : List Char) : Bool :=
  match afterMarker? (line.dropWhile fun c => isSpaceOrTab c || c == '>') with
  | none => false
  | some rest =>
    (escapedBox? (rest.dropWhile isSpaceOrTab)).isSome &&
      decide ((rest.dropWhile isSpaceOrTab).length < rest.length)

/-- A line is left as it is iff it has no escaped box. -/
theorem unescapeBox_eq_self_iff (line : List Char) :
    unescapeBox line = line ↔ hasEscapedBox line = false := by
  rw [unescapeBox, hasEscapedBox]
  cases hmarker : afterMarker? (line.dropWhile fun c => isSpaceOrTab c || c == '>') with
  | none => simp
  | some rest =>
    simp only
    cases hbox : escapedBox? (rest.dropWhile isSpaceOrTab) with
    | none => simp
    | some found =>
      obtain ⟨c, after⟩ := found
      by_cases hblank : (rest.dropWhile isSpaceOrTab).length < rest.length
      · simp only [hblank, if_true, Option.isSome_some, decide_true, Bool.and_self,
          Bool.true_eq_false, iff_false]
        intro heq
        have hlength := congrArg List.length heq
        have hrest : rest.length ≤ line.length :=
          ((isSuffix_of_afterMarker? hmarker).trans (List.dropWhile_suffix _)).length_le
        have hshorter := length_of_escapedBox? hbox
        simp only [List.length_append, List.length_take, List.length_cons] at hlength
        omega
      · simp [hblank]

/-- Blanks and the marks of quotations in front of a line do not count. -/
theorem hasEscapedBox_cons {c : Char} (h : (isSpaceOrTab c || c == '>') = true)
    (line : List Char) : hasEscapedBox (c :: line) = hasEscapedBox line := by
  rw [hasEscapedBox, hasEscapedBox, List.dropWhile_cons, if_pos h]

theorem hasEscapedBox_replicate_append (width : Nat) (line : List Char) :
    hasEscapedBox (List.replicate width ' ' ++ line) = hasEscapedBox line := by
  induction width with
  | zero => rfl
  | succ width ih =>
    rw [List.replicate_succ, List.cons_append, hasEscapedBox_cons (by decide), ih]

theorem escapedBox?_eq_none_of_not_mem (h : '\\' ∉ cs) : escapedBox? cs = none := by
  cases hbox : escapedBox? cs with
  | none => rfl
  | some found =>
    rcases of_escapedBox? hbox with hcs | hcs
    · exact absurd (hcs ▸ List.mem_cons_self) h
    · exact absurd (hcs ▸ List.mem_cons_self) h

/-- A line without a backslash has no escaped box. -/
theorem hasEscapedBox_of_not_mem (h : '\\' ∉ line) : hasEscapedBox line = false := by
  rw [hasEscapedBox]
  cases hmarker : afterMarker? (line.dropWhile fun c => isSpaceOrTab c || c == '>') with
  | none => rfl
  | some rest =>
    have hsuffix : rest.dropWhile isSpaceOrTab <:+ line :=
      (List.dropWhile_suffix _).trans
        ((isSuffix_of_afterMarker? hmarker).trans (List.dropWhile_suffix _))
    simp only
    rw [escapedBox?_eq_none_of_not_mem fun hmem => h (hsuffix.subset hmem)]
    rfl

theorem not_mem_unescapeBox (h : '\n' ∉ line) : '\n' ∉ unescapeBox line := by
  rw [unescapeBox]
  cases hmarker : afterMarker? (line.dropWhile fun c => isSpaceOrTab c || c == '>') with
  | none => exact h
  | some rest =>
    simp only
    cases hbox : escapedBox? (rest.dropWhile isSpaceOrTab) with
    | none => exact h
    | some found =>
      simp only
      split
      · have hsuffix : rest.dropWhile isSpaceOrTab <:+ line :=
          (List.dropWhile_suffix _).trans
            ((isSuffix_of_afterMarker? hmarker).trans (List.dropWhile_suffix _))
        have hboxed : '\n' ∉ rest.dropWhile isSpaceOrTab := fun hmem => h (hsuffix.subset hmem)
        have htake : '\n' ∉ line.take (line.length - (rest.dropWhile isSpaceOrTab).length) :=
          fun hmem => h (List.mem_of_mem_take hmem)
        have hafter : '\n' ∉ '[' :: found.1 :: ']' :: found.2 := by
          rcases of_escapedBox? hbox with hcs | hcs
          · rw [hcs, List.mem_cons, not_or] at hboxed
            exact hboxed.2
          · rw [hcs] at hboxed
            simpa using hboxed
        rw [List.mem_append, not_or]
        exact ⟨htake, hafter⟩
      · exact h

end

/-! ## 2. Markers -/

section

variable {marker first : List Char}

/-- Whether a marker with a space behind it is taken for one. -/
def readsAsMarker (marker : List Char) : Bool := afterMarker? marker == some [' ']

/-- Behind a marker the box comes first, blanks aside. -/
theorem hasEscapedBox_append {after : List Char}
    (hlead : ∀ c ∈ marker.head?, (isSpaceOrTab c || c == '>') = false) (hne : marker ≠ [])
    (hmarker : afterMarker? (marker ++ first) = some after) :
    hasEscapedBox (marker ++ first) =
      ((escapedBox? (after.dropWhile isSpaceOrTab)).isSome &&
        decide ((after.dropWhile isSpaceOrTab).length < after.length)) := by
  obtain ⟨c, tail, rfl⟩ := List.exists_cons_of_ne_nil hne
  have hc := hlead c rfl
  rw [hasEscapedBox, List.cons_append, List.dropWhile_cons, hc, if_neg Bool.false_ne_true,
    ← List.cons_append, hmarker]

theorem hasEscapedBox_append_of_none
    (hlead : ∀ c ∈ marker.head?, (isSpaceOrTab c || c == '>') = false) (hne : marker ≠ [])
    (hmarker : afterMarker? (marker ++ first) = none) :
    hasEscapedBox (marker ++ first) = false := by
  obtain ⟨c, tail, rfl⟩ := List.exists_cons_of_ne_nil hne
  have hc := hlead c rfl
  rw [hasEscapedBox, List.cons_append, List.dropWhile_cons, hc, if_neg Bool.false_ne_true,
    ← List.cons_append, hmarker]

/-- One space is passed over behind a marker, and more blanks. -/
theorem isSome_escapedBox?_cons_space (first : List Char) :
    ((escapedBox? ((' ' :: first).dropWhile isSpaceOrTab)).isSome &&
        decide (((' ' :: first).dropWhile isSpaceOrTab).length < (' ' :: first).length)) =
      (escapedBox? (first.dropWhile isSpaceOrTab)).isSome := by
  have hlength := (List.dropWhile_suffix (l := first) isSpaceOrTab).length_le
  rw [List.dropWhile_cons, if_pos (by decide), List.length_cons, decide_eq_true (by omega),
    Bool.and_true]

/-- The markers that items are written with: bullets, and numbers, which may be negative. -/
inductive IsItemMarker : List Char → Prop
  | bullet {c : Char} (h : c = '-' ∨ c = '*') : IsItemMarker [c, ' ']
  | number (n : Nat) {mark : Char} (h : mark = '.' ∨ mark = ')') :
      IsItemMarker (decimal n ++ [mark, ' '])
  | negative (n : Nat) {mark : Char} (h : mark = '.' ∨ mark = ')') :
      IsItemMarker ('-' :: (decimal n ++ [mark, ' ']))

theorem isItemMarker_itemMarker (ordered : Bool) (start : Option Int) (alternate : Bool)
    (offset : Nat) : IsItemMarker (itemMarker ordered start alternate offset) := by
  have hmark : (if alternate then ')' else '.') = '.' ∨ (if alternate then ')' else '.') = ')' := by
    cases alternate
    · exact .inl rfl
    · exact .inr rfl
  rw [itemMarker]
  split
  · cases start.getD 1 + (offset : Int) with
    | ofNat n => exact .number n hmark
    | negSucc n => exact .negative (n + 1) hmark
  · refine .bullet ?_
    cases alternate
    · exact .inl rfl
    · exact .inr rfl

theorem isDigit_mark {mark : Char} (h : mark = '.' ∨ mark = ')') : isDigit mark = false := by
  rcases h with rfl | rfl
  · decide
  · decide

/-- A number and its mark are a marker unless there are more than nine digits. -/
theorem afterMarker?_decimal (n : Nat) {mark : Char} (h : mark = '.' ∨ mark = ')')
    (after : List Char) :
    afterMarker? (decimal n ++ mark :: after) =
      if (decimal n).length ≤ 9 then some after else none := by
  have hrun : DigitRun (decimal n) (mark :: after) := by
    refine digitRun_decimal n ?_
    intro c hc
    rw [← Option.some.inj hc]
    exact isDigit_mark h
  have htake := hrun.takeWhile_eq
  obtain ⟨c, tail, hdigits⟩ := List.exists_cons_of_ne_nil hrun.ne_nil
  rw [hdigits] at htake ⊢
  have hc : isDigit c = true := hrun.isDigit_of_mem c (hdigits ▸ List.mem_cons_self)
  have hne (d : Char) (hd : isDigit d = false) : c ≠ d := by
    rintro rfl
    rw [hc] at hd
    cases hd
  have hbullet : ¬(c = '-' ∨ c = '*' ∨ c = '+') := by
    rintro (hc | hc | hc)
    · exact hne '-' (by decide) hc
    · exact hne '*' (by decide) hc
    · exact hne '+' (by decide) hc
  rw [List.cons_append] at htake
  rw [List.cons_append, afterMarker?, if_neg (hne '#' (by decide)), if_neg hbullet]
  simp only [htake]
  rw [← List.cons_append, List.drop_left]
  simp [h]

theorem head?_decimal_append {n : Nat} {after : List Char} {c : Char}
    (h : (decimal n ++ after).head? = some c) : isDigit c = true := by
  obtain ⟨d, tail, hdigits⟩ := List.exists_cons_of_ne_nil (l := decimal n) Nat.toDigits_ne_nil
  rw [hdigits] at h
  obtain rfl : d = c := Option.some.inj h
  exact isDigit_of_mem_decimal (n := n) (hdigits ▸ List.mem_cons_self)

theorem isSpaceOrTab_eq_false_of_isDigit {c : Char} (h : isDigit c = true) :
    isSpaceOrTab c = false := by
  by_contra hspace
  rw [Bool.not_eq_false] at hspace
  rw [isDigit_eq_false_of_isBlank (isBlank_of_isSpaceOrTab hspace)] at h
  cases h

namespace IsItemMarker

theorem ne_nil (h : IsItemMarker marker) : marker ≠ [] := by
  cases h with
  | bullet h => exact List.cons_ne_nil _ _
  | number n h => simp
  | negative n h => exact List.cons_ne_nil _ _

/-- A marker is written with none of the characters that are special here. -/
theorem not_mem (h : IsItemMarker marker) {d : Char} (hdigit : isDigit d = false)
    (hd : d ∉ ['-', '*', '.', ')', ' ']) : d ∉ marker := by
  have hdecimal (n : Nat) : d ∉ decimal n := by
    intro hmem
    rw [isDigit_of_mem_decimal hmem] at hdigit
    cases hdigit
  simp only [List.mem_cons, List.not_mem_nil, or_false, not_or] at hd
  obtain ⟨hminus, hstar, hstop, hparenthesis, hspace⟩ := hd
  cases h with
  | bullet h => rcases h with rfl | rfl <;> simp [hminus, hstar, hspace]
  | number n h => rcases h with rfl | rfl <;> simp [hdecimal n, hstop, hparenthesis, hspace]
  | negative n h =>
    rcases h with rfl | rfl <;> simp [hdecimal n, hminus, hstop, hparenthesis, hspace]

/-- A marker begins with neither a blank nor the mark of a quotation. -/
theorem lead_eq_false (h : IsItemMarker marker) :
    ∀ c ∈ marker.head?, (isSpaceOrTab c || c == '>') = false := by
  intro c hc
  cases h with
  | bullet h =>
    obtain rfl := Option.some.inj hc
    rcases h with rfl | rfl
    · decide
    · decide
  | number n h =>
    have hdigit := head?_decimal_append hc
    rw [isSpaceOrTab_eq_false_of_isDigit hdigit, Bool.false_or]
    refine beq_false_of_ne ?_
    rintro rfl
    exact absurd hdigit (by decide)
  | negative n h =>
    obtain rfl := Option.some.inj hc
    decide

/-- Behind the marker of an item an escaped box counts if the marker is taken for one. -/
theorem hasEscapedBox_append (h : IsItemMarker marker) (first : List Char) :
    hasEscapedBox (marker ++ first) =
      (readsAsMarker marker && (escapedBox? (first.dropWhile isSpaceOrTab)).isSome) := by
  have hlead := h.lead_eq_false
  have hne := h.ne_nil
  cases h with
  | bullet h =>
    have hread (after : List Char) : ∀ c, c = '-' ∨ c = '*' →
        afterMarker? (c :: after) = some after := by
      rintro c (rfl | rfl)
      · rfl
      · rfl
    rw [TaskNotes.hasEscapedBox_append hlead hne (hread _ _ h), readsAsMarker, hread _ _ h,
      beq_self_eq_true, Bool.true_and]
    exact isSome_escapedBox?_cons_space first
  | @number n mark h =>
    have hread (after : List Char) : afterMarker? (decimal n ++ [mark, ' '] ++ after) =
        if (decimal n).length ≤ 9 then some (' ' :: after) else none := by
      rw [List.append_assoc]
      exact afterMarker?_decimal n h _
    have hself := hread []
    rw [List.append_nil] at hself
    by_cases hlength : (decimal n).length ≤ 9
    · rw [TaskNotes.hasEscapedBox_append hlead hne ((hread first).trans (if_pos hlength)),
        readsAsMarker, hself, if_pos hlength, beq_self_eq_true, Bool.true_and]
      exact isSome_escapedBox?_cons_space first
    · rw [hasEscapedBox_append_of_none hlead hne ((hread first).trans (if_neg hlength)),
        readsAsMarker, hself, if_neg hlength]
      rfl
  | @negative n mark h =>
    -- the minus sign is the marker, and no blank follows it
    have hread (after : List Char) : afterMarker? ('-' :: (decimal n ++ [mark, ' ']) ++ after) =
        some (decimal n ++ [mark, ' '] ++ after) := rfl
    have hself := hread []
    rw [List.append_nil, List.append_nil] at hself
    have hdrop (after : List Char) : (decimal n ++ [mark, ' '] ++ after).dropWhile isSpaceOrTab =
        decimal n ++ [mark, ' '] ++ after := by
      obtain ⟨c, tail, hdigits⟩ := List.exists_cons_of_ne_nil (l := decimal n) Nat.toDigits_ne_nil
      have hc := isSpaceOrTab_eq_false_of_isDigit (isDigit_of_mem_decimal (n := n)
        (hdigits ▸ List.mem_cons_self))
      rw [hdigits, List.cons_append, List.cons_append, List.dropWhile_cons, hc,
        if_neg Bool.false_ne_true]
    have hlonger : decimal n ++ [mark, ' '] ≠ [' '] := by
      intro heq
      have := congrArg List.length heq
      have hpos := List.length_pos_of_ne_nil (Nat.toDigits_ne_nil (n := n) (b := 10))
      rw [List.length_append, decimal] at this
      simp only [List.length_cons, List.length_nil] at this
      omega
    rw [TaskNotes.hasEscapedBox_append hlead hne (hread first), hdrop, readsAsMarker, hself,
      decide_eq_false (Nat.lt_irrefl _), Bool.and_false]
    simp [hlonger]

end IsItemMarker

end

/-! ## 3. Texts that are left as they are

`keptFrom` asks a text line by line, and only its first line is asked where it stands.  Putting
blocks together means to put line feeds between them; so a text that is put together is left alone
iff each part is, and the place of a first line is handed down from the whole to its first part
that is not empty. -/

/-- Where the first line of a block stands: it begins a line of the document, the marks of
quotations aside; or it stands right behind the first marker of its line; or further behind. -/
inductive LineStart
  | line
  | behindMarker
  | inside
deriving DecidableEq

namespace LineStart

/-- Whether a first line that stands there is left as it is. -/
def keeps : LineStart → List Char → Bool
  | .line, first => !hasEscapedBox first
  | .behindMarker, first => (escapedBox? (first.dropWhile isSpaceOrTab)).isNone
  | .inside, _ => true

/-- Where the first line of a quotation stands. -/
def quoted : LineStart → LineStart
  | .line => .line
  | _ => .inside

/-- Where what follows a marker stands. -/
def behind (start : LineStart) (marker : List Char) : LineStart :=
  if start = .line ∧ readsAsMarker marker = true then .behindMarker else .inside

/-- Where the next block stands, after a block with the given text. -/
def after (start : LineStart) (text : List Char) : LineStart :=
  if text.isEmpty then start else .line

end LineStart

/-- Whether lines are left as they are, the first one where it stands. -/
def keptLines (start : LineStart) : List (List Char) → Bool
  | [] => true
  | first :: others => start.keeps first && others.all fun line => !hasEscapedBox line

/-- Whether a text is left as it is where its first line stands. -/
def keptFrom (start : LineStart) (text : List Char) : Bool := keptLines start (splitLines text)

/-- Whether the items of a list are left as they are, the first one where it stands. -/
def keptItems (start : LineStart) : List (List Char) → Bool
  | [] => true
  | item :: items => keptFrom start item && keptItems .line items

/-- Whether blocks are left as they are, the first one that is not empty where it stands. -/
def keptBlocks (start : LineStart) : List (List Char) → Bool
  | [] => true
  | block :: blocks => keptFrom start block && keptBlocks (start.after block) blocks

section

variable {start : LineStart}

/-- **A text is left as it is iff its lines are.** -/
theorem unescapeBoxes_eq_self_iff (text : List Char) :
    unescapeBoxes text = text ↔ keptFrom .line text = true := by
  have hlines : keptFrom .line text = (splitLines text).all fun line => !hasEscapedBox line := by
    rw [keptFrom]
    cases splitLines text with
    | nil => rfl
    | cons first others => rfl
  rw [unescapeBoxes, mapLines_eq_self_iff (fun _ => not_mem_unescapeBox), hlines,
    List.all_eq_true]
  simp only [unescapeBox_eq_self_iff, Bool.not_eq_true']

theorem LineStart.keeps_of_not_mem {first : List Char} (h : '\\' ∉ first) (start : LineStart) :
    start.keeps first = true := by
  cases start with
  | line => rw [keeps, hasEscapedBox_of_not_mem h, Bool.not_false]
  | behindMarker =>
    rw [keeps, escapedBox?_eq_none_of_not_mem fun hmem =>
      h ((List.dropWhile_suffix _).subset hmem), Option.isNone_none]
  | inside => rfl

/-- A text without a backslash is left as it is. -/
theorem keptFrom_of_not_mem {text : List Char} (h : '\\' ∉ text) (start : LineStart) :
    keptFrom start text = true := by
  have hline : ∀ line ∈ splitLines text, '\\' ∉ line := fun line hline hmem =>
    h (mem_of_mem_splitLines hline hmem)
  obtain ⟨first, others, hlines⟩ := List.exists_cons_of_ne_nil (splitLines_ne_nil text)
  rw [hlines] at hline
  rw [keptFrom, hlines, keptLines, start.keeps_of_not_mem (hline first List.mem_cons_self),
    Bool.true_and, List.all_eq_true]
  intro line hmem
  rw [hasEscapedBox_of_not_mem (hline line (List.mem_cons_of_mem _ hmem)), Bool.not_false]

@[simp] theorem keptFrom_nil (start : LineStart) : keptFrom start [] = true :=
  keptFrom_of_not_mem List.not_mem_nil start

theorem keptLines_line (lines : List (List Char)) :
    keptLines .line lines = lines.all fun line => !hasEscapedBox line := by
  cases lines with
  | nil => rfl
  | cons first others => rfl

/-- A line feed begins a line. -/
theorem keptFrom_append_lineFeed (start : LineStart) (text more : List Char) :
    keptFrom start (text ++ '\n' :: more) = (keptFrom start text && keptFrom .line more) := by
  obtain ⟨first, others, hlines⟩ := List.exists_cons_of_ne_nil (splitLines_ne_nil text)
  rw [keptFrom, keptFrom, keptFrom, splitLines_append_lineFeed, hlines, List.cons_append,
    keptLines, keptLines, keptLines_line, List.all_append, Bool.and_assoc]

theorem keptFrom_gap (start : LineStart) (spread : Bool) (text more : List Char) :
    keptFrom start (text ++ gap spread ++ more) = (keptFrom start text && keptFrom .line more) := by
  cases spread with
  | true =>
    have hempty : keptFrom .line ('\n' :: more) = keptFrom .line more := by
      rw [← List.nil_append ('\n' :: more), keptFrom_append_lineFeed, keptFrom_nil, Bool.true_and]
    rw [gap, if_pos rfl, List.append_assoc, List.cons_append, List.cons_append, List.nil_append,
      keptFrom_append_lineFeed, hempty]
  | false =>
    rw [gap, if_neg Bool.false_ne_true, List.append_assoc, List.singleton_append,
      keptFrom_append_lineFeed]

/-- Items that are put together are left as they are iff each of them is. -/
theorem keptFrom_joinWith_gap (spread : Bool) :
    ∀ (start : LineStart) (items : List (List Char)),
      keptFrom start (joinWith (gap spread) items) = keptItems start items
  | start, [] => keptFrom_nil start
  | start, [item] => by rw [joinWith, keptItems, keptItems, Bool.and_true]
  | start, item :: next :: items => by
    rw [joinWith, keptFrom_gap, keptFrom_joinWith_gap spread .line (next :: items)]
    rfl

theorem keptItems_line (items : List (List Char)) :
    keptItems .line items = items.all (keptFrom .line) := by
  induction items with
  | nil => rfl
  | cons item items ih => rw [keptItems, ih, List.all_cons]

theorem keptBlocks_line (blocks : List (List Char)) :
    keptBlocks .line blocks = blocks.all (keptFrom .line) := by
  induction blocks with
  | nil => rfl
  | cons block blocks ih =>
    have hafter : LineStart.line.after block = .line := by
      rw [LineStart.after]
      split
      · rfl
      · rfl
    rw [keptBlocks, hafter, ih, List.all_cons]

/-- **Blocks that are put together are left as they are iff each of them is.** -/
theorem keptFrom_joinBlocks (start : LineStart) (spread : Bool) (blocks : List (List Char)) :
    keptFrom start (joinBlocks (gap spread) blocks) = keptBlocks start blocks := by
  induction blocks with
  | nil => exact keptFrom_nil start
  | cons block blocks ih =>
    rw [joinBlocks, List.filter_cons, keptBlocks, LineStart.after]
    cases hempty : block.isEmpty with
    | true =>
      rw [List.isEmpty_iff.mp hempty, keptFrom_nil, Bool.true_and]
      exact ih
    | false =>
      have hothers (text : List Char) :
          keptFrom .line text = true ∨ text.isEmpty = false := by
        cases text with
        | nil => exact .inl (keptFrom_nil _)
        | cons c text => exact .inr rfl
      rw [Bool.not_false, if_pos rfl, keptFrom_joinWith_gap, keptItems, keptItems_line,
        if_neg Bool.false_ne_true, keptBlocks_line, List.all_filter]
      congr 1
      refine List.all_congr rfl ?_
      intro text
      cases hothers text with
      | inl h => simp [h]
      | inr h => simp [h]

theorem keptBlocks_append (start : LineStart) (blocks others : List (List Char)) :
    keptBlocks start (blocks ++ others) =
      (keptBlocks start blocks && keptBlocks (blocks.foldl LineStart.after start) others) := by
  induction blocks generalizing start with
  | nil => rfl
  | cons block blocks ih =>
    rw [List.cons_append, keptBlocks, keptBlocks, ih, List.foldl_cons, Bool.and_assoc]

/-! ### Quotations and items -/

theorem hasEscapedBox_quoteLine (line : List Char) :
    hasEscapedBox (quoteLine line) = hasEscapedBox line := by
  rw [quoteLine]
  split
  next h =>
    rw [List.isEmpty_iff.mp h]
    rfl
  next => rw [hasEscapedBox_cons (by decide), hasEscapedBox_cons (by decide)]

theorem hasEscapedBox_indentLine (width : Nat) (line : List Char) :
    hasEscapedBox (indentLine width line) = hasEscapedBox line := by
  rw [indentLine]
  split
  next h => rw [List.isEmpty_iff.mp h]
  next => exact hasEscapedBox_replicate_append width line

theorem keeps_quoteLine (start : LineStart) (first : List Char) :
    start.keeps (quoteLine first) = start.quoted.keeps first := by
  cases start with
  | line => rw [LineStart.keeps, hasEscapedBox_quoteLine]; rfl
  | behindMarker =>
    rw [LineStart.keeps, quoteLine]
    split
    · rfl
    · rfl
  | inside => rfl

/-- Quoting a text keeps its lines at the beginnings of lines. -/
theorem keptFrom_quoteLines (start : LineStart) (content : List Char) :
    keptFrom start (quoteLines content) = keptFrom start.quoted content := by
  obtain ⟨first, others, hlines⟩ := List.exists_cons_of_ne_nil (splitLines_ne_nil content)
  rw [keptFrom, keptFrom, splitLines_quoteLines, hlines, List.map_cons, keptLines, keptLines,
    keeps_quoteLine, List.all_map]
  congr 2
  funext line
  rw [Function.comp_apply, hasEscapedBox_quoteLine]

theorem IsItemMarker.keeps_append {marker : List Char} (h : IsItemMarker marker)
    (start : LineStart) (first : List Char) :
    start.keeps (marker ++ first) = (start.behind marker).keeps first := by
  cases start with
  | line =>
    rw [LineStart.keeps, h.hasEscapedBox_append, LineStart.behind]
    cases hreads : readsAsMarker marker with
    | true => simp [LineStart.keeps]
    | false => simp [LineStart.keeps]
  | behindMarker =>
    have hlead := h.lead_eq_false
    have hbackslash : '\\' ∉ marker := h.not_mem (by decide) (by decide)
    obtain ⟨c, tail, rfl⟩ := List.exists_cons_of_ne_nil h.ne_nil
    have hc := hlead c rfl
    rw [Bool.or_eq_false_iff] at hc
    rw [LineStart.keeps, List.cons_append, List.dropWhile_cons, hc.1, if_neg Bool.false_ne_true]
    have hnone : escapedBox? (c :: (tail ++ first)) = none := by
      cases hbox : escapedBox? (c :: (tail ++ first)) with
      | none => rfl
      | some found =>
        rw [List.mem_cons, not_or] at hbackslash
        rcases of_escapedBox? hbox with hcs | hcs
        · exact absurd (List.cons.inj hcs).1.symm hbackslash.1
        · exact absurd (List.cons.inj hcs).1.symm hbackslash.1
    rw [hnone]
    rfl
  | inside => rfl

/-- Behind a marker the first line stands behind it, and the others begin lines. -/
theorem keptFrom_indentBehind {marker : List Char} (h : IsItemMarker marker) (start : LineStart)
    (content : List Char) :
    keptFrom start (indentBehind marker content) = keptFrom (start.behind marker) content := by
  by_cases hcontent : content = []
  · have hbackslash : '\\' ∉ dropEndWhile isBlank marker := fun hmem =>
      h.not_mem (by decide) (by decide) (mem_of_mem_dropEndWhile hmem)
    rw [hcontent, keptFrom_nil, indentBehind, List.isEmpty_nil, if_pos rfl,
      keptFrom_of_not_mem hbackslash]
  · obtain ⟨first, others, hlines⟩ := List.exists_cons_of_ne_nil (splitLines_ne_nil content)
    rw [keptFrom, keptFrom, hlines,
      splitLines_indentBehind (h.not_mem (by decide) (by decide)) hcontent hlines, keptLines,
      keptLines, h.keeps_append, List.all_map]
    congr 2
    funext line
    rw [Function.comp_apply, hasEscapedBox_indentLine]

/-- A box in front of the content of an item is written plainly. -/
theorem keptFrom_boxedContent_some {start : LineStart} (hstart : start ≠ .line) (checked : Bool)
    (content : List Char) :
    keptFrom start (boxedContent (some checked) content) = keptFrom .inside content := by
  have hbox : ∀ state : BoxState, '\\' ∉ state.marker ∧ '\n' ∉ state.marker := by
    intro state
    cases state <;> decide
  have hmarker := hbox (BoxState.ofChecked checked)
  rw [boxedContent]
  by_cases hempty : content.isEmpty = true
  · rw [List.isEmpty_iff.mp hempty, keptFrom_nil]
    exact keptFrom_of_not_mem hmarker.1 start
  · obtain ⟨first, others, hlines⟩ := List.exists_cons_of_ne_nil (splitLines_ne_nil content)
    have hword : '\n' ∉ (BoxState.ofChecked checked).marker ++ [' '] := by
      rw [List.mem_append, not_or]
      exact ⟨hmarker.2, by decide⟩
    have hfirst : start.keeps ((BoxState.ofChecked checked).marker ++ [' '] ++ first) = true := by
      cases start with
      | line => exact absurd rfl hstart
      | behindMarker => rfl
      | inside => rfl
    simp only [if_neg hempty]
    rw [← List.singleton_append (x := ' '), ← List.append_assoc, keptFrom, keptFrom, hlines,
      splitLines_append_of_not_mem hword hlines, keptLines, keptLines, hfirst]
    rfl

theorem of_looksLikeBox {content : List Char} (h : looksLikeBox content = true) :
    ∃ c rest, content = '[' :: c :: ']' :: rest ∧ (c = ' ' ∨ c = 'x' ∨ c = 'X') := by
  unfold looksLikeBox at h
  split at h
  next c rest =>
    rw [Bool.and_eq_true, Bool.or_eq_true, Bool.or_eq_true, beq_iff_eq, beq_iff_eq,
      beq_iff_eq] at h
    exact ⟨c, rest, rfl, or_assoc.mp h.1⟩
  next => cases h

/-- Without a box the content of an item is left as it is, unless it would be read as a box and is
escaped. -/
theorem keptFrom_boxedContent_none {start : LineStart} (hstart : start ≠ .line)
    (content : List Char) :
    keptFrom start (boxedContent none content) =
      (!(start == .behindMarker && looksLikeBox content) && keptFrom start content) := by
  rw [boxedContent]
  cases hlooks : looksLikeBox content with
  | false => rw [if_neg Bool.false_ne_true, Bool.and_false, Bool.not_false, Bool.true_and]
  | true =>
    obtain ⟨first, others, hlines⟩ := List.exists_cons_of_ne_nil (splitLines_ne_nil content)
    rw [if_pos rfl, ← List.singleton_append, keptFrom, keptFrom, hlines,
      splitLines_append_of_not_mem (by decide) hlines, keptLines, keptLines, Bool.and_true]
    cases start with
    | line => exact absurd rfl hstart
    | behindMarker =>
      obtain ⟨c, rest, rfl, hc⟩ := of_looksLikeBox hlooks
      obtain ⟨last, more, hrest⟩ := List.exists_cons_of_ne_nil (splitLines_ne_nil rest)
      have hbox : '\n' ∉ ['[', c, ']'] := by
        rcases hc with rfl | rfl | rfl <;> decide
      have hsplit := splitLines_append_of_not_mem hbox hrest
      obtain rfl : ['[', c, ']'] ++ last = first :=
        (List.cons.inj (hsplit.symm.trans hlines)).1
      rcases hc with rfl | rfl | rfl <;> rfl
    | inside => rfl

end

/-! ## 4. Trees

The recursion is that of rendering, with the place of the first line as one more argument.  Inline
content is gathered until the next block, as it is in rendering, so that a run of it is asked as
one text. -/

/-- Where the content of an item stands, given where the item stands. -/
def Place.startOfContent : Place → LineStart → LineStart
  | .amongBlocks _, start => start.behind ['-', ' ']
  | .inList, start => start

mutual
/-- Whether the text of a block is left as it is where its first line stands. -/
def Node.keepsText (place : Place) (start : LineStart) : Node → Bool
  | .leaf kind => keptFrom start (renderBlockLeaf kind)
  | .branch kind cs =>
    match kind with
    | .root => keepTexts start .start cs
    | .heading depth => keptFrom start (renderHeading depth (tidyLines (renderInlines false cs)))
    | .paragraph => keptFrom start (tidyLines (renderInlines true cs))
    | .blockquote => keepTexts start.quoted .start cs
    | .list ordered first _ => itemsKeepTexts start (itemMarker ordered first place.alternate) 0 cs
    | .listItem checked spread =>
      let inner := place.startOfContent start
      match checked with
      | some _ => keepTexts .inside .start cs
      | none =>
        !(inner == .behindMarker && looksLikeBox (joinBlocks (gap spread) (renderBlocks .start cs)))
          && keepTexts inner .start cs
    | _ => true

/-- Whether the texts of the children of a node are. -/
def keepTexts (start : LineStart) (s : Siblings) : List Node → Bool
  | [] => keptBlocks start s.flush
  | c :: cs =>
    if c.isPhrasing then keepTexts start (s.extend (renderInline s.atLineStart c)) cs
    else
      let start' := s.flush.foldl LineStart.after start
      keptBlocks start s.flush && c.keepsText (s.place c) start'
        && keepTexts (start'.after (renderBlock (s.place c) c)) (s.after c) cs

/-- Whether the texts of the items of a list are. -/
def itemsKeepTexts (start : LineStart) (marker : Nat → List Char) (offset : Nat) :
    List Node → Bool
  | [] => true
  | c :: cs =>
    let inner := start.behind (marker offset)
    (if c.isPhrasing then keptFrom inner (tidyLines (renderInline true c))
      else c.keepsText .inList inner) && itemsKeepTexts .line marker (offset + 1) cs
end

section

theorem LineStart.behind_ne_line (start : LineStart) (marker : List Char) :
    start.behind marker ≠ .line := by
  rw [behind]
  split
  · nofun
  · nofun

mutual
theorem keptFrom_renderBlock (place : Place) (start : LineStart) (c : Node)
    (h : place = .inList → start ≠ .line) :
    keptFrom start (renderBlock place c) = c.keepsText place start := by
  match c with
  | .leaf kind => rw [renderBlock, Node.keepsText]
  | .root cs => rw [renderBlock, Node.keepsText, keptFrom_joinBlocks, keptBlocks_renderBlocks]
  | .heading depth cs => rw [renderBlock, Node.keepsText]
  | .paragraph cs => rw [renderBlock, Node.keepsText]
  | .blockquote cs =>
    rw [renderBlock, Node.keepsText, keptFrom_quoteLines, keptFrom_joinBlocks,
      keptBlocks_renderBlocks]
  | .list ordered first spread cs =>
    rw [renderBlock, Node.keepsText, keptFrom_joinWith_gap,
      keptItems_renderItems (isItemMarker_itemMarker ordered first place.alternate)]
  | .listItem checked spread cs =>
    have hinner : place.startOfContent start ≠ .line := by
      cases place with
      | amongBlocks alternate => exact start.behind_ne_line _
      | inList => exact h rfl
    have hmark (content : List Char) :
        keptFrom start (place.mark content) = keptFrom (place.startOfContent start) content := by
      cases place with
      | amongBlocks alternate => exact keptFrom_indentBehind (.bullet (.inl rfl)) start content
      | inList => rfl
    rw [renderBlock, hmark]
    cases checked with
    | some checked =>
      rw [keptFrom_boxedContent_some hinner, Node.keepsText, keptFrom_joinBlocks,
        keptBlocks_renderBlocks]
    | none =>
      rw [keptFrom_boxedContent_none hinner, Node.keepsText, keptFrom_joinBlocks,
        keptBlocks_renderBlocks]
  | .emphasis cs => exact keptFrom_nil start
  | .strong cs => exact keptFrom_nil start
  | .delete cs => exact keptFrom_nil start
  | .link url title cs => exact keptFrom_nil start

theorem keptBlocks_renderBlocks (start : LineStart) (s : Siblings) (cs : List Node) :
    keptBlocks start (renderBlocks s cs) = keepTexts start s cs := by
  match cs with
  | [] => rw [renderBlocks, keepTexts]
  | c :: cs =>
    rw [renderBlocks, keepTexts]
    split
    next => exact keptBlocks_renderBlocks _ _ cs
    next =>
      have hplace : s.place c = .inList → s.flush.foldl LineStart.after start ≠ .line := by
        intro hplace
        unfold Siblings.place at hplace
        split at hplace <;> cases hplace
      rw [keptBlocks_append, keptBlocks, keptFrom_renderBlock _ _ c hplace,
        keptBlocks_renderBlocks _ _ cs, Bool.and_assoc]

theorem keptItems_renderItems {marker : Nat → List Char} (hmarker : ∀ n, IsItemMarker (marker n))
    (start : LineStart) (offset : Nat) (cs : List Node) :
    keptItems start (renderItems marker offset cs) = itemsKeepTexts start marker offset cs := by
  match cs with
  | [] => rw [renderItems, itemsKeepTexts, keptItems]
  | c :: cs =>
    rw [renderItems, itemsKeepTexts, keptItems, keptFrom_indentBehind (hmarker offset),
      keptItems_renderItems hmarker .line (offset + 1) cs]
    congr 1
    split
    next => rfl
    next => exact keptFrom_renderBlock .inList _ c fun _ => start.behind_ne_line _
end

/-! ## 5. Documents -/

theorem keptFrom_dropWhile_isLineFeed (text : List Char) :
    keptFrom .line (text.dropWhile isLineFeed) = keptFrom .line text := by
  induction text with
  | nil => rfl
  | cons c text ih =>
    rw [List.dropWhile_cons]
    split
    next hc =>
      obtain rfl : c = '\n' := beq_iff_eq.mp hc
      rw [ih, ← List.nil_append ('\n' :: text), keptFrom_append_lineFeed, keptFrom_nil,
        Bool.true_and]
    next => rfl

theorem keptFrom_dropEndWhile_isLineFeed (text : List Char) :
    keptFrom .line (dropEndWhile isLineFeed text) = keptFrom .line text := by
  induction text using List.reverseRecOn with
  | nil => rfl
  | append_singleton text c ih =>
    rw [dropEndWhile, List.reverse_append, List.reverse_singleton, List.singleton_append,
      List.dropWhile_cons]
    split
    next hc =>
      obtain rfl : c = '\n' := beq_iff_eq.mp hc
      rw [keptFrom_append_lineFeed, keptFrom_nil, Bool.and_true, ← ih, dropEndWhile]
    next => rw [List.reverse_cons, List.reverse_reverse]

/-- Line feeds around a document make no difference. -/
theorem keptFrom_renderDocument (children : List Node) :
    keptFrom .line (renderDocument children) = keepTexts .line .start children := by
  rw [← keptBlocks_renderBlocks, ← keptFrom_joinBlocks .line true, renderDocument]
  split
  next hblank =>
    rw [keptFrom_nil, keptFrom_of_not_mem]
    intro hmem
    exact absurd (List.all_eq_true.mp hblank _ hmem) (by decide)
  next =>
    rw [keptFrom_append_lineFeed, keptFrom_nil, Bool.and_true, trimBoth,
      keptFrom_dropEndWhile_isLineFeed, keptFrom_dropWhile_isLineFeed]

end

/-- **When cleaning up leaves a document as it is**: exactly when it leaves every block as it is
where the block stands, and no item without a box, right behind the first marker of its line, has
content that would be read as a box. -/
theorem unescapeBoxes_render_eq_self_iff (tree : Node) :
    unescapeBoxes tree.render.toList = tree.render.toList ↔
      keepTexts .line .start tree.children = true := by
  rw [unescapeBoxes_eq_self_iff, Node.render, String.toList_ofList, keptFrom_renderDocument]

/-- An item without a box that says what a box says, and a line of code that does. -/
def literalBoxes : Node :=
  .root [.list false none false [.listItem none false [.paragraph [.text "[ ] literal"]]],
    .code none "- \\[ ] x"]

/-- Both are taken for boxes whose brackets have been escaped. -/
theorem unescapeBoxes_render_literalBoxes_ne :
    literalBoxes.render = "- \\[ ] literal\n\n```\n- \\[ ] x\n```\n" ∧
      unescapeBoxes literalBoxes.render.toList =
        "- [ ] literal\n\n```\n- [ ] x\n```\n".toList ∧
      unescapeBoxes literalBoxes.render.toList ≠ literalBoxes.render.toList := by
  decide +kernel

end TaskNotes
