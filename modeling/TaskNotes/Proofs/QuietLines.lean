/-
# Lines that begin no block

A line is quiet when it begins nothing but a paragraph (`Quiet`).  The lines that are written for
the plain parts of a paragraph are quiet (`linesMayStand_renderInlines`): a backslash or a code
span begins nothing, and a text is escaped at the start of its line.

Each kind of block has its own test of how a line begins: a fence, a quotation, a rule, an item,
HTML, a heading and an underline.  All of them look at the first character, and most need no more
than that.  The few characters that have a meaning at the start of a line are taken one by one, and
for each there is a condition on what follows (`quiet_cons`).  The writer escapes a line where this
condition fails.

A line need not be one text.  A text can be followed by a hard line break, which begins with a
backslash, or by code, which begins with a backtick, and the tests look at the line as a whole; so
it is shown for each condition that what follows a text does not change it (`FollowsInLine`).

One kind of line is not escaped though it has a meaning: a line of hyphens is a rule, or the
underline of a heading.  Such lines are left out.
-/
import TaskNotes.Proofs.InertInlines
import TaskNotes.Markup.Marker

namespace TaskNotes

open Markup

/-! ## 1. What lines begin with

First what a character rules out by itself, then the characters that begin something only together
with what follows them. -/

/-- Whether a line, its margin left out, begins nothing but a paragraph. -/
structure Quiet (line : List Char) : Prop where
  fence : fence? line = none
  quotation : line.head? ≠ some '>'
  rule : isRule line = false
  item : listMarker? line = none
  html : HtmlBlock.ofLine? line = none
  heading : atxHeading? line = none
  underline : underline? line = none

section

variable {c : Char} {rest : List Char}

theorem fence?_eq_none (h : c ≠ '\x60') (h' : c ≠ '~') : fence? (c :: rest) = none := by
  rw [fence?, if_neg]
  rintro ⟨rfl | rfl, -⟩
  · exact h rfl
  · exact h' rfl

theorem isRule_eq_false (h : c ∉ ['*', '-', '_']) : isRule (c :: rest) = false := by
  have hmark : (c == '*' || c == '-' || c == '_') = false := by
    simp only [List.mem_cons, List.not_mem_nil, or_false, not_or] at h
    simp [h]
  rw [isRule, hmark, Bool.false_and, Bool.false_and]

theorem listMarker?_eq_none (h : c ∉ ['*', '-', '+']) (hdigit : c.isDigit = false) :
    listMarker? (c :: rest) = none := by
  have hbullet : ¬(c = '*' ∨ c = '-' ∨ c = '+') := by simpa using h
  rw [listMarker?, if_neg hbullet]
  dsimp only
  rw [List.dropWhile_cons, hdigit, if_neg Bool.false_ne_true, List.takeWhile_cons, hdigit,
    if_neg Bool.false_ne_true]
  exact if_neg fun hlength => absurd hlength.1 (by decide)

theorem ofLine?_eq_none (h : c ≠ '<') : HtmlBlock.ofLine? (c :: rest) = none := by
  unfold HtmlBlock.ofLine?
  split
  next heq => exact absurd (List.cons.inj heq).1 h
  next => rfl

theorem atxHeading?_eq_none (h : c ≠ '#') : atxHeading? (c :: rest) = none := by
  rw [atxHeading?]
  dsimp only
  rw [List.takeWhile_cons, if_neg (beq_iff_eq.not.mpr h)]
  rfl

theorem underline?_eq_none (h : c ∉ ['=', '-']) : underline? (c :: rest) = none := by
  have hmark : ¬(c = '=' ∨ c = '-') := by simpa using h
  rw [underline?, if_neg]
  exact fun h => hmark h.1

/-! ### Characters with a meaning at the start of a line -/

theorem dropWord?_eq_none {name : List Char} (hname : headIs Char.isAlpha name = true)
    (hrest : headIs Char.isAlpha rest = false) : dropWord? name rest = none := by
  cases name with
  | nil => cases hname
  | cons e name =>
    cases rest with
    | nil => rfl
    | cons d rest =>
      rw [dropWord?, if_neg]
      rintro rfl
      have hd : d.isAlpha = false := hrest
      have hlower : d.toLower = d := by
        have hupper : d.isUpper = false := ((Bool.or_eq_false_iff).mp hd).1
        exact dif_neg (of_decide_eq_false hupper)
      rw [hlower] at hname
      exact absurd hname (by rw [headIs, hd]; decide)

theorem beginsWithName_eq_false {names : List (List Char)} {ends : List Char → Bool}
    (hnames : ∀ name ∈ names, headIs Char.isAlpha name = true)
    (hrest : headIs Char.isAlpha rest = false) : beginsWithName names ends rest = false := by
  refine List.any_eq_false.mpr fun name hname => ?_
  rw [dropWord?_eq_none (hnames name hname) hrest]
  exact Bool.false_ne_true

/-- A bracket begins no HTML where no tag begins inside a line. -/
theorem ofLine?_angle
    (h : headIs (fun d => d.isAlpha || d == '/' || d == '!' || d == '?') rest = false) :
    HtmlBlock.ofLine? ('<' :: rest) = none := by
  cases rest with
  | nil => rfl
  | cons d rest =>
    simp only [headIs, Bool.or_eq_false_iff, beq_eq_false_iff_ne] at h
    obtain ⟨⟨⟨halpha, hslash⟩, hmark⟩, hquestion⟩ := h
    have hverbatim : beginsWithName verbatimNames endsVerbatimName (d :: rest) = false :=
      beginsWithName_eq_false (by decide) halpha
    have hblock : beginsWithName blockNames endsBlockName (d :: rest) = false :=
      beginsWithName_eq_false (by decide) halpha
    have hlone : isLoneTag ('<' :: d :: rest) = false := by
      unfold isLoneTag
      split
      next heq => exact absurd (List.cons.inj (List.cons.inj heq).2).1 hslash
      next heq =>
        rw [← (List.cons.inj heq).2, openTag?, tagName?, if_neg (by rw [halpha]; decide)]
      next => rfl
    have hcomment : ['!', '-', '-'].isPrefixOf (d :: rest) = false := by
      rw [List.isPrefixOf, beq_eq_false_iff_ne.mpr (Ne.symm hmark), Bool.false_and]
    have hinstruction : ['?'].isPrefixOf (d :: rest) = false := by
      rw [List.isPrefixOf, beq_eq_false_iff_ne.mpr (Ne.symm hquestion), Bool.false_and]
    unfold HtmlBlock.ofLine?
    split
    next more heq =>
      rw [← (List.cons.inj heq).2, hverbatim, hcomment, hinstruction, hlone]
      simp only [Bool.false_eq_true, if_false]
      split
      next heq => exact absurd (List.cons.inj heq).1 hmark
      next =>
        split
        next heq => exact absurd (List.cons.inj heq).1 hslash
        next =>
          rw [hblock]
          rfl
    next => rfl

/-- A single tilde opens no fence. -/
theorem fence?_tilde (h : rest.head? ≠ some '~') : fence? ('~' :: rest) = none := by
  have hrun : ('~' :: rest).takeWhile (· == '~') = ['~'] := by
    rw [List.takeWhile_cons, if_pos (by decide)]
    cases rest with
    | nil => rfl
    | cons d rest =>
      rw [List.takeWhile_cons, if_neg]
      intro hd
      exact h (congrArg some (beq_iff_eq.mp hd))
  rw [fence?, hrun, if_neg]
  exact fun h => absurd h.2.1 (by decide)

/-- Whether a line is made of hyphens, with blanks among them or not. -/
def isHyphens (line : List Char) : Bool := line.all fun c => c == '-' || isSpaceOrTab c

theorem isRule_hyphen (h : isHyphens ('-' :: rest) = false) : isRule ('-' :: rest) = false := by
  rw [isHyphens] at h
  rw [isRule, h, Bool.and_false, Bool.false_and]

theorem underline?_hyphen (h : isHyphens ('-' :: rest) = false) :
    underline? ('-' :: rest) = none := by
  rw [underline?, if_neg]
  rintro ⟨-, hblank⟩
  have hhyphens : isHyphens ('-' :: rest) = true := by
    rw [isHyphens, ← List.takeWhile_append_dropWhile (p := (· == '-')) (l := '-' :: rest),
      List.all_append, Bool.and_eq_true]
    constructor
    · exact List.all_eq_true.mpr fun c hc => by rw [List.mem_takeWhile_imp hc, Bool.true_or]
    · exact List.all_eq_true.mpr fun c hc => by
        rw [List.all_eq_true.mp hblank c hc, Bool.or_true]
  rw [hhyphens] at h
  cases h

theorem listMarker?_bullet (h : c = '-' ∨ c = '+') (hends : endsListMarker rest = false) :
    listMarker? (c :: rest) = none := by
  rw [listMarker?, if_pos (.inr h), hends]
  rfl

theorem length_of_ofNat? {n : Nat} {depth : Depth} (h : Depth.ofNat? n = some depth) :
    1 ≤ n ∧ n ≤ 6 := by
  rw [Depth.ofNat?] at h
  split at h
  next hn => exact hn
  next => cases h

theorem atxHeading?_hash {line : List Char} (h : opensHeading line = false) :
    atxHeading? line = none := by
  rw [atxHeading?]
  dsimp only
  split
  next depth hdepth =>
    obtain ⟨hone, hsix⟩ := length_of_ofNat? hdepth
    have hends : endsMarker (line.dropWhile (· == '#')) = false := by
      rwa [opensHeading, decide_eq_true hone, decide_eq_true hsix, Bool.true_and,
        Bool.true_and] at h
    refine if_neg fun happart => ?_
    cases hdrop : line.dropWhile (· == '#') with
    | nil =>
      rw [hdrop] at hends
      cases hends
    | cons d more =>
      rw [hdrop] at hends happart
      have hspace : isSpaceOrTab d = true := happart
      have hnone : isSpaceOrTab d = false := hends
      rw [hspace] at hnone
      cases hnone
  next => rfl

/-- What a line may begin with so that it is quiet. -/
theorem quiet_cons (hc : c ∉ ['\x60', '>', '*', '_'])
    (htilde : c = '~' → rest.head? ≠ some '~')
    (hangle : c = '<' →
      headIs (fun d => d.isAlpha || d == '/' || d == '!' || d == '?') rest = false)
    (hbullet : c = '-' ∨ c = '+' → endsListMarker rest = false)
    (hhyphens : c = '-' → isHyphens (c :: rest) = false)
    (hhash : c = '#' → opensHeading (c :: rest) = false)
    (hequals : c = '=' → ((c :: rest).dropWhile (· == c)).all isSpaceOrTab = false)
    (hdigit : c.isDigit = true → listMarker? (c :: rest) = none) : Quiet (c :: rest) where
  fence := by
    by_cases h : c = '~'
    · subst h
      exact fence?_tilde (htilde rfl)
    · refine fence?_eq_none ?_ h
      rintro rfl
      exact hc (by decide)
  quotation := by
    intro hhead
    rw [Option.some.inj hhead] at hc
    exact hc (by decide)
  rule := by
    by_cases h : c = '-'
    · subst h
      exact isRule_hyphen (hhyphens rfl)
    · simp only [List.mem_cons, List.not_mem_nil, or_false, not_or] at hc
      exact isRule_eq_false (by simp [h, hc])
  item := by
    by_cases h : c = '-' ∨ c = '+'
    · exact listMarker?_bullet h (hbullet h)
    cases hd : c.isDigit with
    | true => exact hdigit hd
    | false =>
      simp only [List.mem_cons, List.not_mem_nil, or_false, not_or] at hc h
      exact listMarker?_eq_none (by simp [h, hc]) hd
  html := by
    by_cases h : c = '<'
    · subst h
      exact ofLine?_angle (hangle rfl)
    · exact ofLine?_eq_none h
  heading := by
    by_cases h : c = '#'
    · exact atxHeading?_hash (hhash h)
    · exact atxHeading?_eq_none h
  underline := by
    by_cases h : c = '-'
    · subst h
      exact underline?_hyphen (hhyphens rfl)
    by_cases h' : c = '='
    · rw [underline?, if_neg]
      rintro ⟨-, hblank⟩
      rw [hequals h'] at hblank
      cases hblank
    · exact underline?_eq_none (by simp [h, h'])

theorem quiet_backslash (rest : List Char) : Quiet ('\\' :: rest) := by
  refine quiet_cons (by decide) ?_ ?_ ?_ ?_ ?_ ?_ ?_
  all_goals exact fun h => absurd h (by decide)

/-- A code span opens no fence, because backticks follow. -/
theorem quiet_renderCodeSpan {value : List Char} (hvalue : value ≠ []) (rest : List Char) :
    Quiet (renderCodeSpan value ++ rest) := by
  obtain ⟨hne, hhead, -⟩ := ends_paddedCode hvalue
  have hfence : fence? (renderCodeSpan value ++ rest) = none := by
    have hstop : ∀ c ∈ (paddedCode value ++ (codeFence value ++ rest)).head?,
        (c == '\x60') = false := by
      rwa [List.head?_append_of_ne_nil _ hne]
    have hinfo : (renderCodeSpan value ++ rest).dropWhile (· == '\x60') =
        paddedCode value ++ (codeFence value ++ rest) := by
      rw [renderCodeSpan_eq, List.append_assoc, List.append_assoc,
        dropWhile_append_of_stop beq_of_mem_codeFence hstop]
    obtain ⟨used, hwritten, -⟩ := exists_renderCodeSpan value
    have htick : '\x60' ∈ paddedCode value ++ (codeFence value ++ rest) := by
      rw [codeFence, List.replicate_succ]
      exact List.mem_append_right _ List.mem_cons_self
    rw [hwritten, List.cons_append] at hinfo ⊢
    rw [fence?, hinfo, if_neg]
    exact fun h => h.2.2 ⟨rfl, htick⟩
  obtain ⟨used, hwritten, -⟩ := exists_renderCodeSpan value
  rw [hwritten, List.cons_append] at hfence ⊢
  exact ⟨hfence, fun hhead => absurd (Option.some.inj hhead) (by decide),
    isRule_eq_false (by decide), listMarker?_eq_none (by decide) (by decide),
    ofLine?_eq_none (by decide), atxHeading?_eq_none (by decide), underline?_eq_none (by decide)⟩

end

/-! ## 2. Lines of escaped text

Either the first character is escaped, and the line begins with a backslash; or it is the number of
an item, and the mark behind the digits is escaped; or nothing is, and then no test finds what it
looks for. -/

section

variable {c : Char} {line tail : List Char}

/-- What stands behind a text in its line. -/
def FollowsInLine (tail : List Char) : Prop := ∀ c ∈ tail.head?, c ∈ ['\\', '\x60']

theorem FollowsInLine.headIs_append (htail : FollowsInLine tail) {p : Char → Bool}
    (hp : ∀ c ∈ ['\\', '\x60'], p c = false) (cs : List Char) :
    headIs p (cs ++ tail) = headIs p cs := by
  refine TaskNotes.headIs_append ?_ cs
  cases tail with
  | nil => rfl
  | cons d tail => exact hp d (htail d rfl)

theorem FollowsInLine.takeWhile_append (htail : FollowsInLine tail) {p : Char → Bool}
    (hp : ∀ c ∈ ['\\', '\x60'], p c = false) (cs : List Char) :
    (cs ++ tail).takeWhile p = cs.takeWhile p ∧
      (cs ++ tail).dropWhile p = cs.dropWhile p ++ tail := by
  induction cs with
  | nil =>
    cases tail with
    | nil => exact ⟨rfl, rfl⟩
    | cons d tail =>
      have hd := hp d (htail d rfl)
      rw [List.nil_append, List.takeWhile_cons, List.dropWhile_cons, hd]
      exact ⟨rfl, rfl⟩
  | cons c cs ih =>
    rw [List.cons_append, List.takeWhile_cons, List.takeWhile_cons, List.dropWhile_cons,
      List.dropWhile_cons]
    split
    · exact ⟨congrArg (c :: ·) ih.1, ih.2⟩
    · exact ⟨rfl, rfl⟩

theorem isDigit_of_isAsciiDigit (h : c.isDigit = true) : isDigit c = true := by
  have hlow := toNat_of_isAlphanum (isAlphanum_of_isDigit h)
  rwa [isDigit, if_pos (by omega)]

theorem not_mem_of_isDigit {others : List Char} (hothers : ∀ d ∈ others, isDigit d = false)
    (hc : isDigit c = true) : c ∉ others := by
  intro hmem
  rw [hothers c hmem] at hc
  cases hc

/-- Behind its digits an item that is escaped has no full stop or parenthesis. -/
theorem listMarker?_digits {digits rest : List Char} (hdigits : ∀ d ∈ digits, isDigit d = true)
    (hne : digits ≠ []) : listMarker? (digits ++ '\\' :: rest) = none := by
  have hmark : ∀ mark after, (digits ++ '\\' :: rest).dropWhile Char.isDigit = mark :: after →
      mark ≠ '.' ∧ mark ≠ ')' := by
    intro mark after hdrop
    clear hne
    induction digits with
    | nil =>
      obtain rfl := (List.cons.inj hdrop).1
      decide
    | cons d digits ih =>
      have hd := hdigits d List.mem_cons_self
      rw [List.cons_append, List.dropWhile_cons] at hdrop
      split at hdrop
      · exact ih (fun e he => hdigits e (List.mem_cons_of_mem _ he)) hdrop
      · obtain rfl := (List.cons.inj hdrop).1
        have hnone : ∀ c ∈ ['.', ')'], isDigit c = false := by decide
        simpa using not_mem_of_isDigit hnone hd
  obtain ⟨d, digits, rfl⟩ := List.exists_cons_of_ne_nil hne
  have hbullet : d ∉ ['*', '-', '+'] :=
    not_mem_of_isDigit (by decide) (hdigits d List.mem_cons_self)
  rw [List.cons_append] at hmark ⊢
  rw [listMarker?, if_neg (by simpa using hbullet)]
  dsimp only
  split
  next mark after hdrop =>
    obtain ⟨hstop, hclose⟩ := hmark mark after hdrop
    exact if_neg fun h => h.2.2.1.elim hstop hclose
  next => rfl

theorem escapeOrdered_of_marker {digits rest : List Char} {mark : Char}
    (hdigits : ∀ d ∈ digits, isDigit d = true) (hone : 1 ≤ digits.length)
    (hnine : digits.length ≤ 9) (hmark : mark = '.' ∨ mark = ')')
    (hends : endsMarker rest = true) :
    escapeOrdered (digits ++ mark :: rest) = digits ++ '\\' :: mark :: rest := by
  have hstop : ∀ c ∈ (mark :: rest).head?, isDigit c = false := by
    intro c hc
    obtain rfl := Option.some.inj hc
    rcases hmark with rfl | rfl <;> decide
  rw [escapeOrdered, dropWhile_append_of_stop hdigits hstop,
    takeWhile_append_of_stop hdigits hstop]
  exact if_pos ⟨hone, hnine, hmark, hends⟩

/-- What does not begin what follows a text lies in the text. -/
theorem exists_of_append_eq (htail : FollowsInLine tail) {front after : List Char} {mark : Char}
    (hfront : ∀ d ∈ front, d ∉ ['\\', '\x60']) (hmark : mark ∉ ['\\', '\x60'])
    (h : front ++ mark :: after = line ++ tail) :
    ∃ rest, line = front ++ mark :: rest ∧ after = rest ++ tail := by
  rcases List.append_eq_append_iff.mp h with ⟨more, hline, hrest⟩ | ⟨more, rfl, htail'⟩
  · cases more with
    | nil =>
      exact absurd (htail mark (by rw [List.nil_append] at hrest; rw [← hrest]; rfl)) hmark
    | cons d more =>
      obtain ⟨rfl, rfl⟩ := List.cons.inj hrest
      exact ⟨more, hline, rfl⟩
  · cases more with
    | nil => exact absurd (htail mark (by rw [htail']; rfl)) hmark
    | cons d more =>
      refine absurd (htail d (by rw [htail']; rfl)) (hfront d ?_)
      exact List.mem_append_right _ List.mem_cons_self

/-- A marker that is not escaped is none. -/
theorem listMarker?_append (htail : FollowsInLine tail) (hc : c.isDigit = true)
    (hordered : escapeOrdered (c :: line) = c :: line) :
    listMarker? (c :: line ++ tail) = none := by
  have hbullet : c ∉ ['*', '-', '+'] :=
    not_mem_of_isDigit (by decide) (isDigit_of_isAsciiDigit hc)
  rw [List.cons_append, listMarker?, if_neg (by simpa using hbullet)]
  dsimp only
  split
  next mark after hdrop =>
    refine if_neg ?_
    rintro ⟨hone, hnine, hmark, hends⟩
    have hdigits : ∀ d ∈ (c :: (line ++ tail)).takeWhile Char.isDigit, isDigit d = true :=
      fun d hd => isDigit_of_isAsciiDigit (List.mem_takeWhile_imp hd)
    have hwhole : (c :: (line ++ tail)).takeWhile Char.isDigit ++ mark :: after =
        c :: line ++ tail := by
      rw [← hdrop]
      exact List.takeWhile_append_dropWhile
    obtain ⟨rest, hline, rfl⟩ := exists_of_append_eq htail
      (fun d hd => not_mem_of_isDigit (by decide) (hdigits d hd))
      (by rcases hmark with rfl | rfl <;> decide) hwhole
    have hmarker : endsMarker rest = true := by
      cases rest with
      | nil => rfl
      | cons d rest => exact hends
    rw [hline, escapeOrdered_of_marker hdigits hone hnine hmark hmarker,
      List.append_cancel_left_eq] at hordered
    rcases hmark with rfl | rfl
    · exact absurd (List.cons.inj hordered).1 (by decide)
    · exact absurd (List.cons.inj hordered).1 (by decide)
  next => rfl

/-- What follows a line does not end a marker in it. -/
theorem endsMarker_append (h : endsMarker line = false) : endsMarker (line ++ tail) = false := by
  cases line with
  | nil => cases h
  | cons d line => exact h

theorem endsListMarker_append (h : endsMarker line = false) :
    endsListMarker (line ++ tail) = false := by
  cases line with
  | nil => cases h
  | cons d line => exact h

theorem opensHeading_append (htail : FollowsInLine tail) (h : opensHeading line = false) :
    opensHeading (line ++ tail) = false := by
  obtain ⟨htake, hdrop⟩ := htail.takeWhile_append (p := (· == '#')) (by decide) line
  rw [opensHeading] at h ⊢
  rw [htake, hdrop]
  rcases Bool.and_eq_false_iff.mp h with h | h
  · rw [h, Bool.false_and]
  · rw [endsMarker_append h, Bool.and_false]

theorem all_dropWhile_append (htail : FollowsInLine tail)
    (h : (line.dropWhile (· == '=')).all isSpaceOrTab = false) :
    ((line ++ tail).dropWhile (· == '=')).all isSpaceOrTab = false := by
  rw [(htail.takeWhile_append (by decide) line).2, List.all_append, h, Bool.false_and]

/-- A line whose first character is not escaped. -/
theorem quiet_of_unescaped (htail : FollowsInLine tail) (hescape : needsEscape none c line = false)
    (hblock : opensBlock (c :: escapeAfter (some c) line) = false)
    (hordered : escapeOrdered (c :: escapeAfter (some c) line) = c :: escapeAfter (some c) line)
    (hhyphens : isHyphens (c :: escapeAfter (some c) line ++ tail) = false) :
    Quiet (c :: escapeAfter (some c) line ++ tail) := by
  simp only [opensBlock, Bool.or_eq_false_iff] at hblock
  obtain ⟨⟨⟨hheading, hquote⟩, hbullet⟩, hunderline⟩ := hblock
  have hhead {p : Char → Bool} (hp : ∀ c ∈ ['\\', '\x60'], p c = false)
      (h : headIs p line = false) : headIs p (escapeAfter (some c) line ++ tail) = false := by
    rw [htail.headIs_append hp]
    exact headIs_escapeAfter (hp '\\' (by decide)) h _
  refine quiet_cons ?_ ?_ ?_ ?_ (fun _ => hhyphens) ?_ ?_ ?_
  · intro hmem
    simp only [List.mem_cons, List.not_mem_nil, or_false] at hmem
    rcases hmem with rfl | rfl | rfl | rfl
    · cases hescape
    · cases hquote
    · cases hescape
    · cases hescape
  · rintro rfl
    have hnext := (Bool.or_eq_false_iff.mp hescape).1
    exact head?_ne_of_headIs (hhead (by decide) hnext) (by decide)
  · rintro rfl
    exact hhead (by decide) hescape
  · rintro (rfl | rfl)
    · exact endsListMarker_append hbullet
    · exact endsListMarker_append hbullet
  · rintro rfl
    exact opensHeading_append htail hheading
  · rintro rfl
    exact all_dropWhile_append htail hunderline
  · exact fun hc => listMarker?_append htail hc hordered

theorem quiet_digits {digits rest : List Char} (hdigits : ∀ d ∈ digits, isDigit d = true) :
    Quiet (digits ++ '\\' :: rest) := by
  cases digits with
  | nil => exact quiet_backslash rest
  | cons d digits =>
    have hd : ∀ c ∈ ['\x60', '~', '<', '-', '+', '#', '=', '>', '*', '_'], d ≠ c := by
      rintro c hc rfl
      exact not_mem_of_isDigit (by decide) (hdigits d List.mem_cons_self) hc
    refine quiet_cons ?_ ?_ ?_ ?_ ?_ ?_ ?_ ?_
    · intro hmem
      simp only [List.mem_cons, List.not_mem_nil, or_false] at hmem
      rcases hmem with h | h | h | h <;> exact hd _ (by decide) h
    · exact fun h => absurd h (hd _ (by decide))
    · exact fun h => absurd h (hd _ (by decide))
    · rintro (h | h)
      · exact absurd h (hd _ (by decide))
      · exact absurd h (hd _ (by decide))
    · exact fun h => absurd h (hd _ (by decide))
    · exact fun h => absurd h (hd _ (by decide))
    · exact fun h => absurd h (hd _ (by decide))
    · exact fun _ => listMarker?_digits hdigits (List.cons_ne_nil _ _)

/-- **An escaped line is quiet**, unless it is made of hyphens. -/
theorem quiet_escapeLine (hne : line ≠ []) (htail : FollowsInLine tail)
    (hhyphens : isHyphens (escapeLine true line ++ tail) = false) :
    Quiet (escapeLine true line ++ tail) := by
  obtain ⟨c, rest, rfl⟩ := List.exists_cons_of_ne_nil hne
  rw [escapeLine, if_pos rfl, escapeLineStart] at hhyphens ⊢
  cases hblock : opensBlock (escapeAfter none (c :: rest)) with
  | true => exact quiet_backslash _
  | false =>
    rw [hblock, if_neg Bool.false_ne_true] at hhyphens
    rw [if_neg Bool.false_ne_true]
    rcases escapeOrdered_eq (escapeAfter none (c :: rest)) with
      hsame | ⟨digits, mark, more, hdigits, -, -, hordered⟩
    · rw [hsame] at hhyphens ⊢
      rw [escapeAfter] at hsame hhyphens hblock ⊢
      cases hescape : needsEscape none c rest with
      | true => exact quiet_backslash _
      | false =>
        rw [hescape, if_neg Bool.false_ne_true] at hsame hhyphens hblock
        rw [if_neg Bool.false_ne_true]
        exact quiet_of_unescaped htail hescape hblock hsame hhyphens
    · rw [hordered, List.append_assoc]
      exact quiet_digits hdigits

end

/-! ## 3. Lines of plain parts

The induction is on the parts.  A part may begin in the middle of a line, and then its first line
is the end of another and not asked about. -/

section

variable {tail first value : List Char} {others : List (List Char)} {lineStart : Bool}
  {cs : List Node}

/-- Whether a line is quiet, unless it is empty or made of hyphens. -/
def MayStand (line : List Char) : Prop := line ≠ [] → isHyphens line = false → Quiet line

theorem mayStand_nil : MayStand [] := fun h => absurd rfl h

/-- Whether the lines of a text may stand, the first one only if it begins a line. -/
def LinesMayStand (lineStart : Bool) (text : List Char) : Prop :=
  ∀ first others, splitLines text = first :: others →
    (lineStart = true → MayStand first) ∧ ∀ line ∈ others, MayStand line

theorem LinesMayStand.mem (h : LinesMayStand true value) :
    ∀ line ∈ splitLines value, MayStand line := by
  obtain ⟨first, others, hlines⟩ := List.exists_cons_of_ne_nil (splitLines_ne_nil value)
  obtain ⟨hfirst, hothers⟩ := h first others hlines
  rw [hlines]
  exact List.forall_mem_cons.mpr ⟨hfirst rfl, hothers⟩

theorem FollowsInLine.firstLine (htail : FollowsInLine tail)
    (hlines : splitLines tail = first :: others) : FollowsInLine first := by
  cases tail with
  | nil =>
    obtain ⟨rfl, -⟩ := List.cons.inj hlines
    nofun
  | cons c tail =>
    have hc := htail c rfl
    have hfeed : c ≠ '\n' := by
      rintro rfl
      exact absurd hc (by decide)
    rw [splitLines, if_neg hfeed] at hlines
    obtain ⟨line, lines, htail'⟩ := List.exists_cons_of_ne_nil (splitLines_ne_nil tail)
    rw [htail'] at hlines
    obtain ⟨rfl, -⟩ := List.cons.inj hlines
    intro d hd
    obtain rfl := Option.some.inj hd
    exact hc

theorem mayStand_escapeLine (htail : FollowsInLine tail) (hnil : first = [] → MayStand tail) :
    MayStand (escapeLine true first ++ tail) := by
  cases first with
  | nil => exact hnil rfl
  | cons c first => exact fun _ => quiet_escapeLine (List.cons_ne_nil c first) htail

theorem beginsLineAfter_append_lineFeed (lineStart : Bool) (line rest : List Char) :
    beginsLineAfter lineStart (line ++ '\n' :: rest) = beginsLineAfter true rest := by
  rw [beginsLineAfter, List.getLast?_append, List.getLast?_cons, beginsLineAfter]
  cases rest.getLast? <;> rfl

/-- The lines of a written text may stand, if what follows it may. -/
theorem linesMayStand_escapeLines (htail : FollowsInLine tail)
    (hfeed : ∀ line ∈ first :: others, '\n' ∉ line)
    (hrest : LinesMayStand
      (beginsLineAfter true
        (joinLines (escapeLine lineStart first :: others.map (escapeLine true)))) tail) :
    LinesMayStand lineStart
      (joinLines (escapeLine lineStart first :: others.map (escapeLine true)) ++ tail) := by
  obtain ⟨firstTail, othersTail, htailLines⟩ := List.exists_cons_of_ne_nil (splitLines_ne_nil tail)
  have hfirst := not_mem_escapeLine (by decide) lineStart (hfeed first List.mem_cons_self)
  induction others generalizing lineStart first with
  | nil =>
    intro line lines hlines
    rw [List.map_nil, joinLines, joinWith] at hrest hlines
    rw [splitLines_append_of_not_mem hfirst htailLines] at hlines
    obtain ⟨rfl, rfl⟩ := List.cons.inj hlines
    obtain ⟨hbehind, hothers⟩ := hrest _ _ htailLines
    refine ⟨?_, hothers⟩
    rintro rfl
    refine mayStand_escapeLine (htail.firstLine htailLines) ?_
    rintro rfl
    exact hbehind rfl
  | cons next others ih =>
    have hothers : LinesMayStand true
        (joinLines (escapeLine true next :: others.map (escapeLine true)) ++ tail) := by
      refine ih (fun line hline => hfeed line (List.mem_cons_of_mem _ hline)) ?_ ?_
      · rwa [List.map_cons, joinLines_cons_cons, beginsLineAfter_append_lineFeed] at hrest
      · exact not_mem_escapeLine (by decide) true (hfeed next (by simp))
    intro line lines hlines
    rw [List.map_cons, joinLines_cons_cons, List.append_assoc, List.cons_append,
      splitLines_append_lineFeed, splitLines_of_not_mem hfirst] at hlines
    obtain ⟨rfl, rfl⟩ := List.cons.inj hlines
    refine ⟨?_, hothers.mem⟩
    rintro rfl
    have hnothing : FollowsInLine [] := by
      intro c hc
      cases hc
    have halone : MayStand (escapeLine true first ++ []) :=
      mayStand_escapeLine hnothing fun _ => mayStand_nil
    rwa [List.append_nil] at halone

theorem beginsLineAfter_of_ne_nil {written : List Char} (h : written ≠ []) (lineStart : Bool) :
    beginsLineAfter lineStart written = beginsLineAfter true written := by
  rw [beginsLineAfter, beginsLineAfter, List.getLast?_eq_some_getLast h]

theorem not_mem_renderCodeSpan (h : '\n' ∉ value) : '\n' ∉ renderCodeSpan value := by
  have hfence : '\n' ∉ codeFence value := fun hmem =>
    absurd (List.eq_of_mem_replicate hmem) (by decide)
  have hpadded : '\n' ∉ paddedCode value := by
    rw [paddedCode]
    split <;> simp [h]
  rw [renderCodeSpan_eq]
  simp [hfence, hpadded]

/-- **The lines of plain parts are quiet**, unless they are empty or made of hyphens. -/
theorem linesMayStand_renderInlines (hplain : arePlainParts cs = true) (lineStart : Bool) :
    LinesMayStand lineStart (renderInlines lineStart cs) := by
  induction cs generalizing lineStart with
  | nil =>
    intro line lines hlines
    obtain ⟨rfl, rfl⟩ := List.cons.inj hlines
    exact ⟨fun _ => mayStand_nil, List.forall_mem_nil _⟩
  | cons c cs ih =>
    simp only [arePlainParts, Bool.and_eq_true] at hplain
    obtain ⟨⟨hpart, hapart⟩, hplain⟩ := hplain
    rw [renderInlines]
    cases c with
    | branch kind label => cases hpart
    | leaf kind =>
    cases kind with
    | text value =>
      simp only [Node.isPlainPart, Bool.and_eq_true, Bool.not_eq_true',
        List.isEmpty_eq_false_iff] at hpart
      have htail := head?_renderInlines hplain hapart
      obtain ⟨first, others, hlines⟩ :=
        List.exists_cons_of_ne_nil (splitLines_ne_nil value.toList)
      have hwritten : renderInline lineStart (.text value) =
          joinLines (escapeLine lineStart first :: others.map (escapeLine true)) :=
        escapeText_eq lineStart hlines
      have hne : renderInline lineStart (.text value) ≠ [] := fun hempty =>
        hpart.1 (List.sublist_nil.mp (hempty ▸ sublist_escapeText value.toList lineStart))
      rw [beginsLineAfter_of_ne_nil hne, hwritten]
      refine linesMayStand_escapeLines (htail _) ?_ (ih hplain _)
      exact fun line hline => not_mem_of_mem_splitLines (hlines ▸ hline)
    | hardBreak =>
      intro line lines hlines
      have hsplit : splitLines (['\\', '\n'] ++ renderInlines true cs) =
          ['\\'] :: splitLines (renderInlines true cs) :=
        splitLines_append_lineFeed ['\\'] (renderInlines true cs)
      obtain ⟨rfl, rfl⟩ := List.cons.inj (hsplit.symm.trans hlines)
      exact ⟨fun _ _ _ => quiet_backslash [], (ih hplain true).mem⟩
    | inlineCode value =>
      simp only [Node.isPlainPart, Bool.and_eq_true, Bool.not_eq_true', List.isEmpty_eq_false_iff,
        List.contains_eq_mem, decide_eq_false_iff_not] at hpart
      obtain ⟨⟨hvalue, hfeed⟩, -⟩ := hpart
      intro line lines hlines
      obtain ⟨firstTail, othersTail, htail⟩ := List.exists_cons_of_ne_nil (splitLines_ne_nil
        (renderInlines (beginsLineAfter lineStart (renderInline lineStart (.inlineCode value))) cs))
      have hsplit := splitLines_append_of_not_mem (not_mem_renderCodeSpan hfeed) htail
      obtain ⟨rfl, rfl⟩ := List.cons.inj (hsplit.symm.trans hlines)
      exact ⟨fun _ _ _ => quiet_renderCodeSpan hvalue _, (ih hplain _ _ _ htail).2⟩
    | code _ _ | thematicBreak | html _ | image _ _ _ => cases hpart

end

end TaskNotes
