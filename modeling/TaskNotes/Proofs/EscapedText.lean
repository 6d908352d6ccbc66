/-
# Escaped text

What is written for a text is inert, and reads as that text again: within one line
(`readsAs_escapeAfter`), at the start of a line (`ReadsAs.escapeLineStart`), and for a text of
several lines (`readsAs_escapeText`).

Whether a character is escaped depends on what follows it in the text, and what it does when it is
read depends on what follows it in the source.  The two differ by backslashes, and by what stands
behind the text, but not where it matters: no condition that escaping looks at begins to hold when a
backslash, a backtick or a line feed comes next.

Two texts are not written so that they are read back, and the theorems leave them out: one with a
line that ends with a backslash, which escapes what is written behind it; and one with `<` where an
`@` follows, because a mail address between angle brackets need not begin with a letter.

A text is read back from its end: the reader is asked what it makes of the escaped text and of
whatever stands behind it (`ReadsAs`), given what it makes of that.  So the three results are about
texts in front of something, and can be put one in front of the other, with hard line breaks and
code spans between them.
-/
import TaskNotes.Render.Inline
import TaskNotes.Proofs.InertSource
import TaskNotes.Proofs.WrittenLines
import Mathlib.Data.List.Chain
import Mathlib.Data.List.TakeWhile

namespace TaskNotes

open Markup

/-! ## 1. What escaping looks at

Escaping decides about a character by the next one, or by the letters and digits up to a semicolon.
Reading decides in the same way, but sees what has been written: some of these characters with a
backslash in front, and behind the last of them what stands behind the text.  Every question is
therefore shown to have the same answer for the text as it is, with something behind it, and
escaped. -/

/-- The characters that may have to be escaped wherever they stand. -/
def escapable : List Char := ['\\', '*', '\x60', '~', '<', '&', ']', '_']

/-- Whether a text is empty or begins with what can stand behind an escaped text: a line feed, a
hard line break or a code span. -/
def CanFollow (tail : List Char) : Prop := ∀ c ∈ tail.head?, c ∈ ['\n', '\\', '\x60']

section

variable {b : Option Char} {c : Char} {rest tail : List Char} {p : Char → Bool}

theorem canFollow_lineFeed (rest : List Char) : CanFollow ('\n' :: rest) := by
  intro c hc
  obtain rfl := Option.some.inj hc
  decide

theorem mem_escapable_of_needsEscape (h : needsEscape b c rest = true) : c ∈ escapable := by
  unfold needsEscape at h
  split at h
  case h_9 => cases h
  all_goals exact of_decide_eq_true rfl

theorem isAsciiPunctuation_of_mem_escapable : ∀ c ∈ escapable, isAsciiPunctuation c = true := by
  decide

theorem escapeAfter_cons_of_not_mem (h : c ∉ escapable) :
    escapeAfter b (c :: rest) = c :: escapeAfter (some c) rest := by
  rw [escapeAfter, if_neg fun hc => h (mem_escapable_of_needsEscape hc)]

/-! ### The next character -/

theorem headIs_eq_false_of_canFollow (htail : CanFollow tail)
    (hp : ∀ c ∈ ['\n', '\\', '\x60'], p c = false) : headIs p tail = false := by
  cases tail with
  | nil => rfl
  | cons d tail => exact hp d (htail d rfl)

theorem headIs_append (htail : headIs p tail = false) (cs : List Char) :
    headIs p (cs ++ tail) = headIs p cs := by
  cases cs with
  | nil => exact htail
  | cons c cs => rfl

/-- What does not hold of the next character, nor of a backslash, does not hold of the next
character when it is escaped. -/
theorem headIs_escapeAfter (hp : p '\\' = false) (h : headIs p rest = false) (b : Option Char) :
    headIs p (escapeAfter b rest) = false := by
  cases rest with
  | nil => rfl
  | cons c rest =>
    rw [escapeAfter]
    split
    · exact hp
    · exact h

/-- A class that none of the escaped characters belongs to is not touched by escaping. -/
theorem headIs_escapeAfter_eq (hp : ∀ c ∈ escapable, p c = false) (b : Option Char)
    (cs : List Char) : headIs p (escapeAfter b cs) = headIs p cs := by
  cases cs with
  | nil => rfl
  | cons c cs =>
    rw [escapeAfter]
    split
    next hescape =>
      have hc : p c = false := hp c (mem_escapable_of_needsEscape hescape)
      exact (hp '\\' (by decide)).trans hc.symm
    next => rfl

/-! ### Character references -/

/-- Whether a text goes on with letters or digits and a semicolon. -/
def nameFollows (cs : List Char) : Bool :=
  headIs Char.isAlphanum cs && headIs (· == ';') (cs.dropWhile Char.isAlphanum)

theorem nameFollows_eq_match (cs : List Char) :
    nameFollows cs =
      match cs.dropWhile Char.isAlphanum with
      | ';' :: _ => !(cs.takeWhile Char.isAlphanum).isEmpty
      | _ => false := by
  have hempty : (!(cs.takeWhile Char.isAlphanum).isEmpty) = headIs Char.isAlphanum cs := by
    cases cs with
    | nil => rfl
    | cons c cs =>
      rw [List.takeWhile_cons, headIs]
      cases c.isAlphanum <;> rfl
  rw [nameFollows, ← hempty]
  cases cs.dropWhile Char.isAlphanum with
  | nil => simp [headIs]
  | cons d more =>
    split
    next heq => simp [headIs, (List.cons.inj heq).1]
    next hne =>
      have hd : d ≠ ';' := by
        rintro rfl
        exact hne more rfl
      simp [headIs, hd]

theorem referenceFollows_eq (rest : List Char) :
    referenceFollows rest =
      nameFollows (if headIs (· == '#') rest then rest.drop 1 else rest) := by
  cases rest with
  | nil => rfl
  | cons c rest =>
    by_cases hc : c = '#'
    · rw [hc]
      exact (nameFollows_eq_match rest).symm
    · have hhead : headIs (· == '#') (c :: rest) = false := beq_eq_false_iff_ne.mpr hc
      rw [hhead, if_neg Bool.false_ne_true]
      refine (nameFollows_eq_match _).symm.trans (congrArg nameFollows ?_)
      split
      next heq => exact absurd (List.cons.inj heq).1 hc
      next => rfl

theorem headIs_dropWhile_append (htail : CanFollow tail) (cs : List Char) :
    headIs (· == ';') ((cs ++ tail).dropWhile Char.isAlphanum) =
      headIs (· == ';') (cs.dropWhile Char.isAlphanum) := by
  induction cs with
  | nil =>
    cases tail with
    | nil => rfl
    | cons d tail =>
      have hnone : ∀ c ∈ ['\n', '\\', '\x60'], c.isAlphanum = false ∧ (c == ';') = false := by
        decide
      obtain ⟨halphanum, hsemicolon⟩ := hnone d (htail d rfl)
      rw [List.nil_append, List.dropWhile_cons, halphanum, if_neg Bool.false_ne_true]
      exact hsemicolon
  | cons c cs ih =>
    rw [List.cons_append, List.dropWhile_cons, List.dropWhile_cons]
    split
    · exact ih
    · rfl

theorem nameFollows_append (htail : CanFollow tail) (cs : List Char) :
    nameFollows (cs ++ tail) = nameFollows cs := by
  rw [nameFollows, nameFollows, headIs_append (headIs_eq_false_of_canFollow htail (by decide)),
    headIs_dropWhile_append htail]

theorem referenceFollows_append (htail : CanFollow tail) (cs : List Char) :
    referenceFollows (cs ++ tail) = referenceFollows cs := by
  rw [referenceFollows_eq, referenceFollows_eq,
    headIs_append (headIs_eq_false_of_canFollow htail (by decide))]
  cases cs with
  | nil =>
    rw [headIs, if_neg Bool.false_ne_true, if_neg Bool.false_ne_true, nameFollows_append htail]
  | cons c cs =>
    rw [List.cons_append, List.drop_succ_cons, List.drop_succ_cons, List.drop_zero, List.drop_zero,
      ← List.cons_append]
    split
    · exact nameFollows_append htail cs
    · exact nameFollows_append htail (c :: cs)

theorem headIs_dropWhile_escapeAfter (b : Option Char) (cs : List Char) :
    headIs (· == ';') ((escapeAfter b cs).dropWhile Char.isAlphanum) =
      headIs (· == ';') (cs.dropWhile Char.isAlphanum) := by
  induction cs generalizing b with
  | nil => rfl
  | cons c cs ih =>
    rw [escapeAfter]
    split
    next hescape =>
      have hnone : ∀ c ∈ escapable, c.isAlphanum = false ∧ (c == ';') = false := by decide
      obtain ⟨halphanum, hsemicolon⟩ := hnone c (mem_escapable_of_needsEscape hescape)
      rw [List.dropWhile_cons, if_neg (by decide), List.dropWhile_cons, halphanum,
        if_neg Bool.false_ne_true]
      exact hsemicolon.symm
    next =>
      rw [List.dropWhile_cons, List.dropWhile_cons]
      split
      · exact ih (some c)
      · rfl

theorem nameFollows_escapeAfter (b : Option Char) (cs : List Char) :
    nameFollows (escapeAfter b cs) = nameFollows cs := by
  rw [nameFollows, nameFollows, headIs_escapeAfter_eq (by decide), headIs_dropWhile_escapeAfter]

/-- Escaping what follows an ampersand neither makes a reference of it nor hides one. -/
theorem referenceFollows_escapeAfter (b : Option Char) (cs : List Char) :
    referenceFollows (escapeAfter b cs) = referenceFollows cs := by
  rw [referenceFollows_eq, referenceFollows_eq, headIs_escapeAfter_eq (by decide)]
  by_cases hhash : headIs (· == '#') cs = true
  · cases cs with
    | nil => cases hhash
    | cons c cs =>
      have hc : c ∉ escapable := by
        rw [beq_iff_eq.mp hhash]
        decide
      rw [if_pos hhash, if_pos hhash, escapeAfter_cons_of_not_mem hc]
      exact nameFollows_escapeAfter (some c) cs
  · rw [if_neg hhash, if_neg hhash, nameFollows_escapeAfter]

end

/-! ## 2. What is not escaped is text -/

section

variable {rest : List Char}

theorem isAlphanum_of_isHexDigitChar {c : Char} (h : isHexDigitChar c = true) :
    c.isAlphanum = true := by
  simp only [isHexDigitChar, Bool.or_eq_true, Bool.and_eq_true, decide_eq_true_eq] at h
  delta Char.isAlphanum Char.isAlpha Char.isUpper Char.isLower
  simp only [Bool.or_eq_true, Bool.and_eq_true, decide_eq_true_eq]
  rcases h with (h | ⟨hlow, hhigh⟩) | ⟨hlow, hhigh⟩
  · exact .inr h
  · exact .inl (.inr ⟨hlow, Nat.le_trans hhigh (by decide)⟩)
  · exact .inl (.inl ⟨hlow, Nat.le_trans hhigh (by decide)⟩)

theorem isAlphanum_of_isDigit {c : Char} (h : c.isDigit = true) : c.isAlphanum = true :=
  (Bool.or_eq_true _ _).mpr (.inr h)

/-- Characters of a smaller class before a semicolon. -/
theorem nameFollows_of_class {isPart : Char → Bool}
    (hpart : ∀ c, isPart c = true → c.isAlphanum = true) {more : List Char}
    (hdrop : rest.dropWhile isPart = ';' :: more) (hsome : rest.takeWhile isPart ≠ []) :
    nameFollows rest = true := by
  cases rest with
  | nil => cases hdrop
  | cons c rest =>
    have hc : isPart c = true := by
      by_contra hc
      rw [List.takeWhile_cons, if_neg hc] at hsome
      exact hsome rfl
    have hbehind : (c :: rest).dropWhile Char.isAlphanum = ';' :: more := by
      have hdropped := dropWhile_dropWhile_append hpart [] (c :: rest)
      rw [List.append_nil, List.append_nil, hdrop] at hdropped
      rw [← hdropped]
      rfl
    rw [nameFollows, hbehind, headIs, hpart c hc]
    rfl

theorem nameFollows_cons {c : Char} (hc : c.isAlphanum = true) (h : nameFollows rest = true) :
    nameFollows (c :: rest) = true := by
  rw [nameFollows, Bool.and_eq_true] at h ⊢
  rw [List.dropWhile_cons, if_pos hc]
  exact ⟨hc, h.2⟩

theorem nameFollows_of_digits {isPart : Char → Bool}
    (hpart : ∀ c, isPart c = true → c.isAlphanum = true) {limit value : Nat}
    {found : Nat × List Char}
    (h : (match rest.dropWhile isPart with
      | ';' :: more => if 1 ≤ (rest.takeWhile isPart).length ∧
          (rest.takeWhile isPart).length ≤ limit then some (value, more) else none
      | _ => none) = some found) : nameFollows rest = true := by
  split at h
  next more hdrop =>
    split at h
    next hlength => exact nameFollows_of_class hpart hdrop (List.length_pos_iff.mp hlength.1)
    next => cases h
  next => cases h

theorem nameFollows_of_referenceNumber? {hexDigits decimalDigits : Nat} {found : Nat × List Char}
    (h : referenceNumber? hexDigits decimalDigits rest = some found) :
    nameFollows rest = true := by
  unfold referenceNumber? at h
  split at h
  next isHex body hbody =>
    split at hbody
    next more =>
      obtain ⟨rfl, rfl⟩ := Prod.mk.inj hbody
      exact nameFollows_cons (by decide)
        (nameFollows_of_digits (fun _ => isAlphanum_of_isHexDigitChar) h)
    next more =>
      obtain ⟨rfl, rfl⟩ := Prod.mk.inj hbody
      exact nameFollows_cons (by decide)
        (nameFollows_of_digits (fun _ => isAlphanum_of_isHexDigitChar) h)
    next =>
      obtain ⟨rfl, rfl⟩ := Prod.mk.inj hbody
      exact nameFollows_of_digits (fun _ => isAlphanum_of_isDigit) h

theorem nameFollows_of_referenceName? {found : List Char × List Char}
    (h : referenceName? rest = some found) : nameFollows rest = true := by
  unfold referenceName? at h
  dsimp only at h
  split at h
  next first others more hname hdrop =>
    exact nameFollows_of_class (fun _ => id) hdrop (hname ▸ List.cons_ne_nil _ _)
  next => cases h

/-- An ampersand is text where no name or number of a character follows up to a semicolon. -/
theorem charRef?_eq_none (h : referenceFollows rest = false) : charRef? rest = none := by
  rw [referenceFollows_eq] at h
  unfold charRef?
  split
  next number =>
    have hnumber : nameFollows number = false := h
    cases href : referenceNumber? 6 7 number with
    | none => rfl
    | some found =>
      rw [nameFollows_of_referenceNumber? href] at hnumber
      cases hnumber
  next hhash =>
    cases href : referenceName? rest with
    | none => rfl
    | some found =>
      have hname := nameFollows_of_referenceName? href
      have hhead : headIs (· == '#') rest = false := by
        cases rest with
        | nil => rfl
        | cons c rest =>
          refine beq_eq_false_iff_ne.mpr ?_
          rintro rfl
          exact hhash rest rfl
      rw [hhead, if_neg Bool.false_ne_true, hname] at h
      cases h

/-- A bracket is text where neither a tag nor an address follows. -/
theorem autolink?_eq_none (h : headIs Char.isAlpha rest = false) (hat : '@' ∉ rest) :
    Markup.autolink? ('<' :: rest) = none := by
  simp only [Markup.autolink?]
  split
  next after heq =>
    have htext : (rest.takeWhile fun c => c != '<' && c != '>') <+: rest := List.takeWhile_prefix _
    generalize rest.takeWhile (fun c => c != '<' && c != '>') = text at htext
    have hletter (p : Char → Bool) :
        ((text.takeWhile p).head?.map Char.isAlpha).getD false = false := by
      cases text with
      | nil => rfl
      | cons c text =>
        obtain ⟨tail, rfl⟩ := htext
        rw [List.takeWhile_cons]
        split
        · exact h
        · rfl
    have haddress : isAddressText text = false := by
      unfold isAddressText
      dsimp only
      split
      next tail hdrop => rw [hletter, Bool.false_and, Bool.false_and, Bool.false_and]
      next => rfl
    have hmail : isMailText text = false := by
      unfold isMailText
      dsimp only
      split
      next host hdrop =>
        have hmem : '@' ∈ dropLastFeed text := List.mem_of_mem_drop (hdrop ▸ List.mem_cons_self)
        rw [dropLastFeed] at hmem
        split at hmem
        · exact absurd (htext.subset (List.dropLast_subset _ hmem)) hat
        · exact absurd (htext.subset hmem) hat
      next => rfl
    rw [haddress, hmail]
    rfl
  next => rfl

theorem rawHtml?_eq_none
    (h : headIs (fun d => d.isAlpha || d == '/' || d == '!' || d == '?') rest = false) :
    rawHtml? ('<' :: rest) = none := by
  cases rest with
  | nil => rfl
  | cons c rest =>
    simp only [headIs, Bool.or_eq_false_iff, beq_eq_false_iff_ne] at h
    obtain ⟨⟨⟨halpha, hslash⟩, hmark⟩, hquestion⟩ := h
    have hsecond {d : Char} {xs ys : List Char} (heq : '<' :: c :: xs = '<' :: d :: ys) : c = d :=
      (List.cons.inj (List.cons.inj heq).2).1
    unfold rawHtml?
    split
    next heq => exact absurd (hsecond heq) hslash
    next heq => exact absurd (hsecond heq) hquestion
    next heq => exact absurd (hsecond heq) hmark
    next heq => exact absurd (hsecond heq) hmark
    next heq =>
      obtain rfl := (List.cons.inj heq).2
      rw [openTag?, tagName?, if_neg (by rw [halpha]; decide)]
    next => rfl

end

/-! ## 3. One line

The induction is on the line, and a backslash takes the character behind it along.  What the reader
has just passed is the character in front, which decides whether an underscore can begin or end an
emphasis. -/

section

variable {b : Option Char} {c before : Char} {rest line tail : List Char} {nodes : List Node}

theorem head?_ne_of_headIs {p : Char → Bool} {cs : List Char} (h : headIs p cs = false)
    (hc : p c = true) : cs.head? ≠ some c := by
  cases cs with
  | nil => nofun
  | cons d cs =>
    rintro hd
    obtain rfl := Option.some.inj hd
    exact absurd hc (by rw [show p d = false from h]; decide)

/-- What need not be escaped in a text is text in the source, behind which the rest of the text is
escaped. -/
theorem isPlainAt_of_needsEscape (htail : CanFollow tail) (hc : needsEscape b c rest = false)
    (hfeed : c ≠ '\n') (hbackslash : c ≠ '\\') (hunderscore : c ≠ '_')
    (hangle : c = '<' → '@' ∉ escapeAfter (some c) rest ++ tail) :
    IsPlainAt c (escapeAfter (some c) rest ++ tail) := by
  have hhead {p : Char → Bool} (hp : ∀ c ∈ ['\n', '\\', '\x60'], p c = false)
      (h : headIs p rest = false) : headIs p (escapeAfter (some c) rest ++ tail) = false := by
    rw [headIs_append (headIs_eq_false_of_canFollow htail hp)]
    exact headIs_escapeAfter (hp '\\' (by decide)) h _
  refine ⟨?_, ?_, ?_, ?_, ?_⟩
  · simp only [List.mem_cons, List.not_mem_nil, or_false, not_or]
    refine ⟨hfeed, hbackslash, ?_, ?_, hunderscore⟩
    · rintro rfl
      cases hc
    · rintro rfl
      cases hc
  · rintro rfl
    obtain ⟨hnext, -⟩ := Bool.or_eq_false_iff.mp hc
    exact head?_ne_of_headIs (hhead (by decide) hnext) (by decide)
  · rintro rfl
    have hnext := hhead (p := fun d => d == '(' || d == ':') (by decide) hc
    exact ⟨head?_ne_of_headIs hnext (by decide), head?_ne_of_headIs hnext (by decide)⟩
  · rintro rfl
    have hnext := hhead (p := fun d => d.isAlpha || d == '/' || d == '!' || d == '?')
      (by decide) hc
    have halpha : headIs Char.isAlpha (escapeAfter (some '<') rest ++ tail) = false := by
      generalize escapeAfter (some '<') rest ++ tail = cs at hnext
      cases cs with
      | nil => rfl
      | cons d cs =>
        simp only [headIs, Bool.or_eq_false_iff] at hnext
        exact hnext.1.1.1
    exact ⟨autolink?_eq_none halpha (hangle rfl), rawHtml?_eq_none hnext⟩
  · rintro rfl
    rw [charRef?_eq_none]
    rw [referenceFollows_append htail, referenceFollows_escapeAfter]
    exact hc

theorem prependText_cons_cons (c : Char) (cs : List Char) (nodes : List Node) :
    prependText (String.ofList (c :: cs)) nodes =
      prependText (String.ofList [c]) (prependText (String.ofList cs) nodes) :=
  prependText_append [c] cs nodes

/-- **An escaped line reads as the line it was.**  A backslash that is not escaped is passed over
together with the character behind it. -/
theorem readsAs_escapeAfter {b : Option Char} {before : Char} (htail : CanFollow tail)
    (line : List Char) (hb : ∀ c ∈ b, c = before) (hfeed : '\n' ∉ line)
    (hlast : line.getLast? ≠ some '\\')
    (hangle : '<' ∉ line ∨ '@' ∉ escapeAfter b line ++ tail)
    (h : ReadsAs (line.getLast?.getD before) tail nodes) :
    ReadsAs before (escapeAfter b line ++ tail) (prependText (String.ofList line) nodes) := by
  match line with
  | [] => exact h
  | c :: rest =>
    obtain ⟨hc, hfeed'⟩ := not_or.mp (List.mem_cons.not.mp hfeed)
    rw [List.getLast?_cons, Option.getD_some] at h
    have hlast' : rest.getLast? ≠ some '\\' := by
      cases rest with
      | nil => nofun
      | cons d rest => simpa using hlast
    have hself : ∀ d ∈ some c, d = c := fun d hd => (Option.some.inj hd).symm
    cases hescape : needsEscape b c rest with
    | true =>
      rw [escapeAfter, hescape, if_pos rfl] at hangle ⊢
      rw [prependText_cons_cons]
      refine .escape (isAsciiPunctuation_of_mem_escapable c (mem_escapable_of_needsEscape hescape))
        (readsAs_escapeAfter htail rest hself hfeed' hlast' ?_ h)
      exact hangle.imp (mt (List.mem_cons_of_mem _))
        (mt fun hmem => List.mem_cons_of_mem _ (List.mem_cons_of_mem _ hmem))
    | false =>
      rw [escapeAfter, hescape, if_neg Bool.false_ne_true] at hangle ⊢
      have hangle' : '<' ∉ rest ∨ '@' ∉ escapeAfter (some c) rest ++ tail :=
        hangle.imp (mt (List.mem_cons_of_mem _)) (mt (List.mem_cons_of_mem _))
      by_cases hbackslash : c = '\\'
      · subst hbackslash
        cases rest with
        | nil => exact absurd rfl hlast
        | cons d rest =>
          have hd : isAsciiPunctuation d = false := hescape
          have hne : d ∉ escapable := fun hmem => by
            rw [isAsciiPunctuation_of_mem_escapable d hmem] at hd
            cases hd
          obtain ⟨hfeed', hrest⟩ := not_or.mp (List.mem_cons.not.mp hfeed')
          rw [escapeAfter_cons_of_not_mem hne] at hangle' ⊢
          have htext : prependText (String.ofList ('\\' :: d :: rest)) nodes =
              prependText (String.ofList ['\\', d]) (prependText (String.ofList rest) nodes) :=
            prependText_append ['\\', d] rest nodes
          rw [htext]
          refine .backslash hd (Ne.symm hfeed') (readsAs_escapeAfter htail rest ?_ hrest ?_ ?_ ?_)
          · exact fun e he => (Option.some.inj he).symm
          · cases rest with
            | nil => nofun
            | cons e rest => simpa using hlast'
          · exact hangle'.imp (mt (List.mem_cons_of_mem _)) (mt (List.mem_cons_of_mem _))
          · rwa [List.getLast?_cons, Option.getD_some] at h
      rw [prependText_cons_cons]
      have hrest := readsAs_escapeAfter htail rest hself hfeed' hlast' hangle' h
      by_cases hunderscore : c = '_'
      · subst hunderscore
        have hword : ((b.map isAlphanumeric).getD false && headIs isAlphanumeric rest) = true := by
          rwa [needsEscape, Bool.not_eq_false'] at hescape
        obtain ⟨hbefore, hafter⟩ := (Bool.and_eq_true _ _).mp hword
        have hbefore : isAlphanumeric before = true := by
          cases b with
          | none => cases hbefore
          | some e => rwa [← hb e rfl]
        cases rest with
        | nil => cases hafter
        | cons d rest =>
          have hd : d ∉ escapable := fun hmem => by
            have hnone : ∀ c ∈ escapable, isAlphanumeric c = false := by decide
            rw [headIs, hnone d hmem] at hafter
            cases hafter
          rw [escapeAfter_cons_of_not_mem hd] at hrest ⊢
          exact .underscore hbefore hafter hrest
      · refine .plain
          (isPlainAt_of_needsEscape htail hescape (Ne.symm hc) hbackslash hunderscore ?_) hrest
        rintro rfl
        rcases hangle with hmem | hmem
        · exact absurd List.mem_cons_self hmem
        · exact fun hat => hmem (List.mem_cons_of_mem _ hat)
termination_by line.length

end

/-! ## 4. The start of a line

At the start of a line there are characters that would begin a block.  They are punctuation, and a
backslash in front of punctuation only makes it literal; so a line with its start escaped reads as
the line without. -/

section

variable {before : Char} {line tail : List Char} {nodes : List Node}

theorem exists_of_opensBlock (h : opensBlock line = true) :
    ∃ c rest, line = c :: rest ∧ c ∈ ['#', '>', '-', '+', '='] := by
  cases line with
  | nil => cases h
  | cons c rest =>
    refine ⟨c, rest, rfl, ?_⟩
    simp only [opensBlock, Bool.or_eq_true] at h
    rcases h with ((h | h) | h) | h
    · have hc : c = '#' := by
        by_contra hc
        simp [opensHeading, hc] at h
      rw [hc]
      decide
    · rw [beq_iff_eq.mp h]
      decide
    · unfold opensBullet at h
      split at h
      next heq =>
        rw [(List.cons.inj heq).1]
        decide
      next heq =>
        rw [(List.cons.inj heq).1]
        decide
      next => cases h
    · obtain ⟨h, -⟩ := (Bool.and_eq_true _ _).mp h
      rw [beq_iff_eq.mp h]
      decide

/-- A line is escaped as an item behind its digits, or it is left alone. -/
theorem escapeOrdered_eq (line : List Char) :
    escapeOrdered line = line ∨ ∃ digits c rest, (∀ d ∈ digits, isDigit d = true) ∧
      (c = '.' ∨ c = ')') ∧ line = digits ++ c :: rest ∧
        escapeOrdered line = digits ++ '\\' :: c :: rest := by
  have hwhole : line.takeWhile isDigit ++ line.dropWhile isDigit = line :=
    List.takeWhile_append_dropWhile
  rw [escapeOrdered]
  split
  next c rest hdrop =>
    split
    next hmark =>
      refine .inr ⟨_, c, rest, fun d hd => List.mem_takeWhile_imp hd, hmark.2.2.1, ?_, rfl⟩
      rw [← hdrop, hwhole]
    next => exact .inl rfl
  next => exact .inl rfl

/-- A line reads the same with its start escaped. -/
theorem readsAs_escapeLineStart (h : ReadsAs before (line ++ tail) nodes) :
    ReadsAs before (escapeLineStart line ++ tail) nodes := by
  rw [escapeLineStart]
  split
  next hblock =>
    obtain ⟨c, rest, rfl, hc⟩ := exists_of_opensBlock hblock
    have hplain : ∀ c ∈ ['#', '>', '-', '+', '='], isAsciiPunctuation c = true ∧
        c ∉ ['\n', '\\', '\x60', '*', '_'] := by decide
    exact h.insert_backslash (hplain c hc).1 (hplain c hc).2
  next =>
    rcases escapeOrdered_eq line with hsame | ⟨digits, c, rest, hdigits, hc, hline, hordered⟩
    · rwa [hsame]
    · have hplain : isAsciiPunctuation c = true ∧ c ∉ ['\n', '\\', '\x60', '*', '_'] := by
        rcases hc with rfl | rfl <;> decide
      rw [hline, List.append_assoc, List.cons_append] at h
      rw [hordered, List.append_assoc, List.cons_append, List.cons_append]
      refine h.insert_backslash_behind ?_ hplain.1 hplain.2
      intro d hd hmem
      have hnone : ∀ c ∈ ['\n', '\\', '\x60', '*', '_', '~', ']', '<', '&'], isDigit c = false := by
        decide
      have hdigit := hdigits d hd
      rw [hnone d hmem] at hdigit
      cases hdigit

/-! ### What escaping keeps -/

theorem sublist_escapeAfter (b : Option Char) (line : List Char) :
    line.Sublist (escapeAfter b line) := by
  induction line generalizing b with
  | nil => exact .slnil
  | cons c line ih =>
    rw [escapeAfter]
    split
    · exact .cons _ ((ih _).cons_cons _)
    · exact (ih _).cons_cons _

theorem sublist_escapeLineStart (line : List Char) : line.Sublist (escapeLineStart line) := by
  rw [escapeLineStart]
  split
  · exact List.sublist_cons_self _ _
  · rcases escapeOrdered_eq line with hsame | ⟨digits, c, rest, -, -, hline, hordered⟩
    · rw [hsame]
    · rw [hordered]
      conv => lhs; rw [hline]
      exact (List.Sublist.refl _).append (List.sublist_cons_self _ _)

theorem not_mem_escapeAfter {d : Char} (hd : d ≠ '\\') (b : Option Char) (h : d ∉ line) :
    d ∉ escapeAfter b line := by
  induction line generalizing b with
  | nil => exact h
  | cons c line ih =>
    obtain ⟨hc, h⟩ := not_or.mp (List.mem_cons.not.mp h)
    rw [escapeAfter]
    split
    · simp [hd, hc, ih _ h]
    · simp [hc, ih _ h]

theorem not_mem_escapeLineStart {d : Char} (hd : d ≠ '\\') (h : d ∉ line) :
    d ∉ escapeLineStart line := by
  rw [escapeLineStart]
  split
  · simp [hd, h]
  · rcases escapeOrdered_eq line with hsame | ⟨digits, c, rest, -, -, hline, hordered⟩
    · rwa [hsame]
    · rw [hordered]
      rw [hline] at h
      simpa [hd] using h

end

/-! ## 5. Texts of several lines

A line feed in a text is a soft line break, and the blanks on either side of it are dropped when it
is read.  Hence the condition on neighbouring characters (`Apart`): no blank is beside a line feed.
-/

section

variable {b : Option Char} {c before : Char} {line rest value tail : List Char} {nodes : List Node}

/-- No line is escaped otherwise because another one follows. -/
theorem needsEscape_append_lineFeed (b : Option Char) (c : Char) (rest more : List Char) :
    needsEscape b c (rest ++ '\n' :: more) = needsEscape b c rest := by
  have hhead {p : Char → Bool} (hp : p '\n' = false) :
      headIs p (rest ++ '\n' :: more) = headIs p rest := by
    have hfeed : headIs p ('\n' :: more) = false := hp
    exact headIs_append hfeed rest
  unfold needsEscape
  split
  · exact hhead (by decide)
  · rfl
  · rfl
  · rw [hhead (by decide)]
  · exact hhead (by decide)
  · exact referenceFollows_append (canFollow_lineFeed more) rest
  · exact hhead (by decide)
  · rw [hhead (by decide)]
  · rfl

theorem escapeAfter_some_lineFeed (cs : List Char) :
    escapeAfter (some '\n') cs = escapeAfter none cs := by
  cases cs with
  | nil => rfl
  | cons c cs =>
    have hsame : needsEscape (some '\n') c cs = needsEscape none c cs := by
      unfold needsEscape
      split <;> rfl
    rw [escapeAfter, escapeAfter, hsame]

theorem escapeAfter_append_lineFeed (b : Option Char) (h : '\n' ∉ line) (more : List Char) :
    escapeAfter b (line ++ '\n' :: more) = escapeAfter b line ++ '\n' :: escapeAfter none more := by
  induction line generalizing b with
  | nil =>
    rw [List.nil_append, escapeAfter_cons_of_not_mem (by decide), escapeAfter_some_lineFeed]
    rfl
  | cons c line ih =>
    have ih := ih (some c) fun hmem => h (List.mem_cons_of_mem _ hmem)
    rw [List.cons_append, escapeAfter, escapeAfter, needsEscape_append_lineFeed, ih]
    split <;> rfl

theorem escapeAfter_joinLines {lines : List (List Char)} (h : ∀ line ∈ lines, '\n' ∉ line) :
    escapeAfter none (joinLines lines) = joinLines (lines.map (escapeAfter none)) := by
  induction lines with
  | nil => rfl
  | cons line lines ih =>
    cases lines with
    | nil => rfl
    | cons next lines =>
      rw [joinLines_cons_cons, escapeAfter_append_lineFeed none (h line List.mem_cons_self),
        ih fun line hline => h line (List.mem_cons_of_mem _ hline)]
      exact (joinLines_cons_cons _ _ _).symm

/-- The lines of a text are escaped one by one. -/
theorem splitLines_escapeAfter (value : List Char) :
    splitLines (escapeAfter none value) = (splitLines value).map (escapeAfter none) := by
  have hfeed : ∀ line ∈ splitLines value, '\n' ∉ line := fun line => not_mem_of_mem_splitLines
  conv => lhs; rw [← joinLines_splitLines value]
  rw [escapeAfter_joinLines hfeed]
  refine splitLines_joinLines (by simpa using splitLines_ne_nil value) ?_
  intro escaped hescaped
  obtain ⟨line, hline, rfl⟩ := List.mem_map.mp hescaped
  exact not_mem_escapeAfter (by decide) none (hfeed line hline)

/-- A line as it is written, its start escaped or not. -/
def escapeLine (lineStart : Bool) (line : List Char) : List Char :=
  if lineStart then escapeLineStart (escapeAfter none line) else escapeAfter none line

theorem escapeText_eq (lineStart : Bool) {first : List Char} {others : List (List Char)}
    (h : splitLines value = first :: others) :
    escapeText value lineStart =
      joinLines (escapeLine lineStart first :: others.map (escapeLine true)) := by
  rw [escapeText, splitLines_escapeAfter, h, List.map_cons]
  dsimp only
  rw [List.map_map]
  rfl

theorem getLast?_escapeAfter (b : Option Char) (line : List Char) :
    (escapeAfter b line).getLast? = line.getLast? := by
  induction line generalizing b with
  | nil => rfl
  | cons c line ih =>
    rw [escapeAfter]
    split
    · rw [List.getLast?_cons, List.getLast?_cons, Option.getD_some, List.getLast?_cons, ih]
    · rw [List.getLast?_cons, List.getLast?_cons, ih]

theorem getLast?_escapeLine (lineStart : Bool) (line : List Char) :
    (escapeLine lineStart line).getLast? = line.getLast? := by
  have hstart (line : List Char) : (escapeLineStart line).getLast? = line.getLast? := by
    rw [escapeLineStart]
    split
    next hblock =>
      obtain ⟨c, rest, rfl, -⟩ := exists_of_opensBlock hblock
      rw [List.getLast?_cons_cons]
    next =>
      rcases escapeOrdered_eq line with hsame | ⟨digits, c, rest, -, -, hline, hordered⟩
      · rw [hsame]
      · rw [hordered, hline, List.getLast?_append, List.getLast?_append, List.getLast?_cons_cons]
  rw [escapeLine]
  split
  · rw [hstart, getLast?_escapeAfter]
  · rw [getLast?_escapeAfter]

theorem not_mem_escapeLine {d : Char} (hd : d ≠ '\\') (lineStart : Bool) (h : d ∉ line) :
    d ∉ escapeLine lineStart line := by
  rw [escapeLine]
  split
  · exact not_mem_escapeLineStart hd (not_mem_escapeAfter hd none h)
  · exact not_mem_escapeAfter hd none h

theorem readsAs_escapeLine (lineStart : Bool) (htail : CanFollow tail) (hfeed : '\n' ∉ line)
    (hlast : line.getLast? ≠ some '\\')
    (hangle : '<' ∉ line ∨ '@' ∉ escapeLine lineStart line ++ tail)
    (h : ReadsAs (line.getLast?.getD before) tail nodes) :
    ReadsAs before (escapeLine lineStart line ++ tail)
      (prependText (String.ofList line) nodes) := by
  rw [escapeLine] at hangle ⊢
  cases lineStart with
  | false => exact readsAs_escapeAfter htail line nofun hfeed hlast hangle h
  | true =>
    refine readsAs_escapeLineStart (readsAs_escapeAfter htail line nofun hfeed hlast ?_ h)
    refine hangle.imp_right (mt fun hmem => ?_)
    exact ((sublist_escapeLineStart _).append (.refl tail)).mem hmem

/-- Whether two neighbouring characters are no blank beside a line feed. -/
def Apart (x y : Char) : Prop :=
  (x = '\n' → isBlank y = false) ∧ (y = '\n' → isBlank x = false)

theorem dropWhile_eq_self_of_isChain (h : ('\n' :: rest).IsChain Apart) :
    rest.dropWhile isSpaceOrTab = rest := by
  cases rest with
  | nil => rfl
  | cons c rest =>
    have hc : isBlank c = false := (List.isChain_cons_cons.mp h).1.1 rfl
    have hspace : isSpaceOrTab c ≠ true := fun hspace => by
      rw [isBlank_of_isSpaceOrTab hspace] at hc
      cases hc
    rw [List.dropWhile_cons, if_neg hspace]

theorem readsAs_escapeLines (htail : CanFollow tail) (h : ∀ b, ReadsAs b tail nodes)
    {lineStart : Bool} {before : Char} {first : List Char} {others : List (List Char)}
    (hlines : ∀ line ∈ first :: others, '\n' ∉ line ∧ line.getLast? ≠ some '\\')
    (hangle : '<' ∉ joinLines (first :: others) ∨
      '@' ∉ joinLines (escapeLine lineStart first :: others.map (escapeLine true)) ++ tail)
    (hchain : (before :: (joinLines (escapeLine lineStart first :: others.map (escapeLine true)) ++
      tail)).IsChain Apart) :
    ReadsAs before (joinLines (escapeLine lineStart first :: others.map (escapeLine true)) ++ tail)
      (prependText (String.ofList (joinLines (first :: others))) nodes) := by
  obtain ⟨hfeed, hlast⟩ := hlines first List.mem_cons_self
  induction others generalizing lineStart before first with
  | nil => exact readsAs_escapeLine lineStart htail hfeed hlast hangle (h _)
  | cons next others ih =>
    have hnext := hlines next (by simp)
    have hwritten : joinLines (escapeLine lineStart first ::
        (next :: others).map (escapeLine true)) ++ tail =
        escapeLine lineStart first ++
          '\n' :: (joinLines (escapeLine true next :: others.map (escapeLine true)) ++ tail) := by
      rw [List.map_cons, joinLines_cons_cons, List.append_assoc, List.cons_append]
    rw [hwritten] at hangle hchain ⊢
    rw [joinLines_cons_cons] at hangle ⊢
    rw [prependText_append, prependText_cons_cons]
    rw [← List.cons_append] at hchain
    obtain ⟨-, hbehind, hbetween⟩ := List.isChain_append.mp hchain
    refine readsAs_escapeLine lineStart (canFollow_lineFeed _) hfeed hlast ?_
      (.softBreak ?_ (dropWhile_eq_self_of_isChain hbehind) (ih ?_ ?_ ?_ hnext.1 hnext.2))
    · exact hangle.imp_left (mt (List.mem_append_left _))
    · have hapart := (hbetween _ List.getLast?_cons '\n' rfl).2 rfl
      rw [getLast?_escapeLine] at hapart
      rintro hspace
      rw [hspace] at hapart
      cases hapart
    · exact fun line hline => hlines line (List.mem_cons_of_mem _ hline)
    · exact hangle.imp (mt fun hmem => List.mem_append_right _ (List.mem_cons_of_mem _ hmem))
        (mt fun hmem => List.mem_append_right _ (List.mem_cons_of_mem _ hmem))
    · exact hbehind

/-- **An escaped text reads as the text it was**, before a hard line break, a code span or nothing,
unless one of its lines ends with a backslash. -/
theorem readsAs_escapeText {lineStart : Bool} (htail : CanFollow tail)
    (h : ∀ b, ReadsAs b tail nodes)
    (hlast : ∀ line ∈ splitLines value, line.getLast? ≠ some '\\')
    (hangle : '<' ∉ value ∨ '@' ∉ escapeText value lineStart ++ tail)
    (hchain : (before :: (escapeText value lineStart ++ tail)).IsChain Apart) :
    ReadsAs before (escapeText value lineStart ++ tail)
      (prependText (String.ofList value) nodes) := by
  obtain ⟨first, others, hlines⟩ := List.exists_cons_of_ne_nil (splitLines_ne_nil value)
  have hvalue : joinLines (first :: others) = value := by rw [← hlines, joinLines_splitLines]
  rw [escapeText_eq lineStart hlines] at hangle hchain ⊢
  rw [← hvalue] at hangle ⊢
  refine readsAs_escapeLines htail h ?_ hangle hchain
  intro line hline
  rw [← hlines] at hline
  exact ⟨not_mem_of_mem_splitLines hline, hlast line hline⟩

end

end TaskNotes
