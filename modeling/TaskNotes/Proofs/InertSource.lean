/-
# Sources without markup that matters

A source is inert when each of its characters is text, or belongs to an escape, to a line break or
to a code span (`Inert`): no bracket in it begins a link, and no delimiter in it opens or closes
anything.  What such a source is made of can be read off token by token, and this is what the
reader finds (`readSpans_of_inert`).

The reader looks ahead at an opening bracket, and remembers where the tokens it has passed over
end.  So the proof follows the places where tokens begin: the reader is only ever at such a place,
and at none of them does a bracket close that a parenthesis follows.

`Inert` follows the tokens of the reader, with a constructor for each, and says nothing of what the
reader does meanwhile.  There are no constructors for links, images, emphasis, addresses or HTML.
This is all that the round trip of plain documents needs, and it keeps the proof away from the one
part of the reader whose result depends on a whole line: where delimiters are matched with each
other.
-/
import TaskNotes.Markup.Tree
import TaskNotes.Proofs.WordCharacters
import Mathlib.Data.List.Chain
import Mathlib.Data.List.Forall2

namespace TaskNotes.Markup

/-! ## 1. Inert sources -/

/-- Whether a character in front of a text is text, wherever the two stand. -/
structure IsPlainAt (c : Char) (rest : List Char) : Prop where
  /-- It begins neither a line break, nor an escape, a code span or a delimiter. -/
  not_special : c ∉ ['\n', '\\', '\x60', '*', '_']
  tilde : c = '~' → rest.head? ≠ some '~'
  /-- It closes no label of a link or a definition. -/
  bracket : c = ']' → rest.head? ≠ some '(' ∧ rest.head? ≠ some ':'
  angle : c = '<' → autolink? (c :: rest) = none ∧ rawHtml? (c :: rest) = none
  reference : c = '&' → charRef? rest = none

/-- Whether two neighbouring characters are not those with which the label of a definition ends. -/
def EndsNoLabel (x y : Char) : Prop := x = ']' → y ≠ ':'

instance : DecidableRel EndsNoLabel := fun x y => inferInstanceAs (Decidable (x = ']' → y ≠ ':'))

/-- Whether a source, behind a character, reads as spans that hold no other spans.  An underscore
is text inside a word. -/
inductive Inert : Char → List Char → List Span → Prop
  | nil (before : Char) : Inert before [] []
  | plain {before c : Char} {rest : List Char} {spans : List Span} (hc : IsPlainAt c rest)
      (hrest : Inert c rest spans) : Inert before (c :: rest) (.text [c] :: spans)
  | underscore {before after : Char} {rest : List Char} {spans : List Span}
      (hbefore : isAlphanumeric before = true) (hafter : isAlphanumeric after = true)
      (hrest : Inert '_' (after :: rest) spans) :
      Inert before ('_' :: after :: rest) (.text ['_'] :: spans)
  | escape {before c : Char} {rest : List Char} {spans : List Span}
      (hc : isAsciiPunctuation c = true) (hrest : Inert c rest spans) :
      Inert before ('\\' :: c :: rest) (.text [c] :: spans)
  | backslash {before c : Char} {rest : List Char} {spans : List Span}
      (hc : isAsciiPunctuation c = false) (hfeed : c ≠ '\n') (hrest : Inert c rest spans) :
      Inert before ('\\' :: c :: rest) (.text ['\\', c] :: spans)
  | lastBackslash (before : Char) : Inert before ['\\'] [.text ['\\']]
  | softBreak {before : Char} {rest : List Char} {spans : List Span} (hbefore : before ≠ ' ')
      (hblank : rest.dropWhile isSpaceOrTab = rest) (hrest : Inert '\n' rest spans) :
      Inert before ('\n' :: rest) (.softBreak :: spans)
  | hardBreak {before : Char} {rest : List Char} {spans : List Span}
      (hblank : rest.dropWhile isSpaceOrTab = rest) (hrest : Inert '\n' rest spans) :
      Inert before ('\\' :: '\n' :: rest) (.hardBreak :: spans)
  | code {before : Char} {used value rest : List Char} {spans : List Span}
      (hcode : codeSpan? ('\x60' :: (used ++ rest)) = some (value, rest))
      (hlast : ('\x60' :: used).getLast? = some '\x60')
      (hlabel : ('\x60' :: used).IsChain EndsNoLabel) (hrest : Inert '\x60' rest spans) :
      Inert before ('\x60' :: (used ++ rest)) (.code value :: spans)

/-- Whether a token of an inert source begins at a text. -/
def BeginsToken (cs : List Char) : Prop := ∃ before spans, Inert before cs spans

theorem beginsToken_nil : BeginsToken [] := ⟨' ', [], .nil _⟩

/-- What follows a bracket that closes. -/
theorem BeginsToken.of_bracket {rest : List Char} (h : BeginsToken (']' :: rest)) :
    rest.head? ≠ some '(' ∧ rest.head? ≠ some ':' ∧ BeginsToken rest := by
  obtain ⟨before, spans, h⟩ := h
  cases h with
  | plain hc hrest => exact ⟨(hc.bracket rfl).1, (hc.bracket rfl).2, _, _, hrest⟩

/-! ## 2. Passing over tokens

At an opening bracket the reader looks for the bracket that closes, and on its way it remembers
where tokens end, so as not to read them again.  What it remembers is right (`Memory.Sound`),
whatever it has looked at before; the induction is on how deep labels may be nested, and inside of
it on how far the reader looks. -/

section

variable {source : List Char}

/-- Whether a text is the rest of a source from a token on. -/
structure IsRest (source cs : List Char) : Prop where
  suffix : cs <:+ source
  beginsToken : BeginsToken cs

/-- Whether tokens end where it is remembered that they do. -/
structure Memory.Sound (source : List Char) (m : Memory) : Prop where
  beyond_eq : m.beyond = 0
  ends : ∀ p ∈ m.ends, ∀ cs, cs <:+ source → cs.length = p.1 → IsRest source (cs.drop (p.1 - p.2))

theorem Memory.sound_empty : Memory.empty.Sound source := ⟨rfl, nofun⟩

theorem Memory.Sound.withEnd {m : Memory} (h : m.Sound source) {cs after : List Char}
    (hcs : cs <:+ source) (hafter : IsRest source after) (hsuffix : after <:+ cs) :
    (m.withEnd cs after).Sound source where
  beyond_eq := h.beyond_eq
  ends := by
    intro p hp ds hds hlength
    rcases List.mem_cons.mp hp with rfl | hp
    · simp only [h.beyond_eq, Nat.add_zero] at hlength ⊢
      obtain rfl : ds = cs := by
        rw [List.suffix_iff_eq_drop.mp hds, List.suffix_iff_eq_drop.mp hcs, hlength]
      rwa [← List.suffix_iff_eq_drop.mp hsuffix]
    · exact h.ends p hp ds hds hlength

theorem Memory.Sound.tokenEnd? {m : Memory} (h : m.Sound source) {cs after : List Char}
    (hcs : cs <:+ source) (hafter : m.tokenEnd? cs = some after) : IsRest source after := by
  obtain ⟨left, hlookup, rfl⟩ := Option.map_eq_some_iff.mp hafter
  rw [h.beyond_eq, Nat.add_zero] at hlookup ⊢
  obtain ⟨front, behind, hends, -⟩ := List.lookup_eq_some_iff.mp hlookup
  have hmem : (cs.length, left) ∈ m.ends := by
    rw [hends]
    exact List.mem_append_right _ List.mem_cons_self
  exact h.ends _ hmem cs hcs rfl

/-- A token that holds no bracket ends where the next one begins. -/
theorem isRest_afterSimpleToken {c : Char} {cs : List Char} (h : IsRest source (c :: cs)) :
    IsRest source (afterSimpleToken c cs) ∧ afterSimpleToken c cs <:+ cs := by
  have hcs : cs <:+ source := (List.suffix_cons c cs).trans h.suffix
  suffices hafter : afterSimpleToken c cs <:+ cs ∧ BeginsToken (afterSimpleToken c cs) from
    ⟨⟨hafter.1.trans hcs, hafter.2⟩, hafter.1⟩
  obtain ⟨before, spans, hinert⟩ := h.beginsToken
  cases hinert with
  | plain hc hrest =>
    have hself : afterSimpleToken c cs = cs := by
      unfold afterSimpleToken
      split
      · exact absurd List.mem_cons_self hc.not_special
      · exact absurd (by decide) hc.not_special
      · obtain ⟨hauto, hraw⟩ := hc.angle rfl
        rw [hauto]
        dsimp only
        split
        · rw [hraw]
          rfl
        · rfl
      · rw [hc.reference rfl]
      · exact absurd (by decide) hc.not_special
      · rfl
    rw [hself]
    exact ⟨List.suffix_refl _, _, _, hrest⟩
  | underscore hbefore hafter hrest => exact ⟨List.suffix_refl _, _, _, hrest⟩
  | @escape _ d rest _ hd hrest =>
    have hnext : afterSimpleToken '\\' (d :: rest) = rest := by
      simp only [afterSimpleToken]
      split
      next heq =>
        rw [(List.cons.inj heq).1] at hd
        exact absurd hd (by decide)
      next => rfl
    rw [hnext]
    exact ⟨List.suffix_cons _ _, _, _, hrest⟩
  | @backslash _ d rest _ hd hfeed hrest =>
    have hnext : afterSimpleToken '\\' (d :: rest) = rest := by
      simp only [afterSimpleToken]
      split
      next heq => exact absurd (List.cons.inj heq).1 hfeed
      next => rfl
    rw [hnext]
    exact ⟨List.suffix_cons _ _, _, _, hrest⟩
  | lastBackslash => exact ⟨List.suffix_refl _, beginsToken_nil⟩
  | softBreak hbefore hblank hrest =>
    have hnext : afterSimpleToken '\n' cs = cs := hblank
    rw [hnext]
    exact ⟨List.suffix_refl _, _, _, hrest⟩
  | @hardBreak _ rest _ hblank hrest =>
    have hnext : afterSimpleToken '\\' ('\n' :: rest) = rest := hblank
    rw [hnext]
    exact ⟨List.suffix_cons _ _, _, _, hrest⟩
  | @code _ used value rest _ hcode hlast hlabel hrest =>
    have hnext : afterSimpleToken '\x60' (used ++ rest) = rest := by
      simp only [afterSimpleToken, hcode]
    rw [hnext]
    exact ⟨List.suffix_append _ _, _, _, hrest⟩

/-- Whether passing over tokens leads from token to token and remembers nothing wrong. -/
def PassSound (source : List Char) (pass : Pass) : Prop :=
  ∀ m cs, m.Sound source → IsRest source cs →
    (pass m cs).1.Sound source ∧ IsRest source (pass m cs).2

variable {pass : Pass} {nested : Bool}

/-- The bracket that closes a label is one that stands by itself. -/
theorem labelEnd?_sound (hpass : PassSound source pass) :
    ∀ (fuel level : Nat) (m : Memory) (cs : List Char), m.Sound source → IsRest source cs →
      (labelEnd? pass nested fuel level m cs).1.Sound source ∧
        ∀ rest, (labelEnd? pass nested fuel level m cs).2 = some rest →
          rest.head? = some ']' ∧ IsRest source rest
  | 0, _, m, cs, hm, _ => ⟨hm, nofun⟩
  | _ + 1, _, m, [], hm, _ => ⟨hm, nofun⟩
  | fuel + 1, level, m, c :: cs, hm, hcs => by
    obtain ⟨hm', hafter⟩ := hpass m (c :: cs) hm hcs
    simp only [labelEnd?]
    split
    next hend =>
      refine ⟨hm, ?_⟩
      rintro rest hrest
      obtain rfl := Option.some.inj hrest
      exact ⟨by rw [hend.1]; rfl, hcs⟩
    next =>
      split
      · split
        · exact labelEnd?_sound hpass fuel _ _ _ hm' hafter
        · split
          · exact labelEnd?_sound hpass fuel _ _ _ hm' hafter
          · exact ⟨hm', nofun⟩
      · exact labelEnd?_sound hpass fuel _ _ _ hm' hafter

theorem label?_sound (hpass : PassSound source pass) {m : Memory} {inside : List Char}
    (hm : m.Sound source) (hinside : IsRest source inside) :
    (label? pass nested m inside).1.Sound source ∧
      ∀ label after, (label? pass nested m inside).2 = some (label, after) →
        after.head? ≠ some '(' := by
  obtain ⟨hm', hfound⟩ :=
    @labelEnd?_sound source pass nested hpass (inside.length + 1) 0 m inside hm hinside
  refine ⟨hm', ?_⟩
  intro label after h
  obtain ⟨rest, hrest, h⟩ := Option.map_eq_some_iff.mp h
  obtain ⟨hhead, hrest⟩ := hfound rest hrest
  obtain ⟨-, rfl⟩ := Prod.mk.inj h
  cases rest with
  | nil => cases hhead
  | cons c more =>
    obtain rfl := Option.some.inj hhead
    exact hrest.beginsToken.of_bracket.1

/-- **There is no link in an inert source.** -/
theorem link?_eq_none (hpass : PassSound source pass) {m : Memory} {inside : List Char}
    (hm : m.Sound source) (hinside : IsRest source inside) :
    ∃ m', m'.Sound source ∧ link? [] pass m inside = (m', none) := by
  obtain ⟨hm', hfound⟩ := @label?_sound source pass false hpass m inside hm hinside
  simp only [link?]
  cases hlabel : label? pass false m inside with
  | mk m' found =>
    rw [hlabel] at hm' hfound
    refine ⟨m', hm', ?_⟩
    cases found with
    | none => rfl
    | some found =>
      obtain ⟨label, after⟩ := found
      have hhead := hfound label after rfl
      dsimp only
      split
      next parens => exact absurd rfl hhead
      next => rfl

/-- There is no image in one. -/
theorem image?_eq_none (hpass : PassSound source pass) {m : Memory} {inside : List Char}
    (hm : m.Sound source) (hinside : IsRest source inside) :
    ∃ m', m'.Sound source ∧ image? [] pass m inside = (m', none) := by
  obtain ⟨hm', hfound⟩ := @label?_sound source pass true hpass m inside hm hinside
  simp only [image?]
  cases hlabel : label? pass true m inside with
  | mk m' found =>
    rw [hlabel] at hm' hfound
    refine ⟨m', hm', ?_⟩
    cases found with
    | none => rfl
    | some found =>
      obtain ⟨label, after⟩ := found
      have hhead := hfound label after rfl
      dsimp only
      split
      next parens => exact absurd rfl hhead
      next => rfl

/-- What follows an opening bracket. -/
theorem IsRest.of_open {cs : List Char} (h : IsRest source ('[' :: cs)) : IsRest source cs := by
  obtain ⟨before, spans, hinert⟩ := h.beginsToken
  cases hinert with
  | plain hc hrest => exact ⟨(List.suffix_cons _ _).trans h.suffix, _, _, hrest⟩

/-- What follows the mark of an image. -/
theorem IsRest.of_mark {cs : List Char} (h : IsRest source ('!' :: cs)) : IsRest source cs := by
  obtain ⟨before, spans, hinert⟩ := h.beginsToken
  cases hinert with
  | plain hc hrest => exact ⟨(List.suffix_cons _ _).trans h.suffix, _, _, hrest⟩

theorem passToken_sound : ∀ depth : Nat, PassSound source (passToken [] depth)
  | depth, m, [], hm, hcs => by
    rw [passToken]
    exact ⟨hm, hcs⟩
  | 0, m, c :: cs, hm, hcs => by
    rw [passToken]
    split
    next after hafter => exact ⟨hm, hm.tokenEnd? hcs.suffix hafter⟩
    next =>
      have hnil : IsRest source [] := ⟨List.nil_suffix, beginsToken_nil⟩
      exact ⟨hm.withEnd hcs.suffix hnil List.nil_suffix, hnil⟩
  | depth + 1, m, c :: cs, hm, hcs => by
    have hpass := passToken_sound depth
    unfold passToken
    dsimp only
    split
    next after hafter => exact ⟨hm, hm.tokenEnd? hcs.suffix hafter⟩
    next =>
      split
      next =>
        obtain ⟨m', hm', hlink⟩ := link?_eq_none hpass hm hcs.of_open
        rw [hlink]
        exact ⟨hm'.withEnd hcs.suffix hcs.of_open (List.suffix_cons _ _), hcs.of_open⟩
      next inside =>
        obtain ⟨m', hm', himage⟩ := image?_eq_none hpass hm hcs.of_mark.of_open
        rw [himage]
        exact ⟨hm'.withEnd hcs.suffix hcs.of_mark (List.suffix_cons _ _), hcs.of_mark⟩
      next =>
        obtain ⟨hafter, hsuffix⟩ := isRest_afterSimpleToken hcs
        exact ⟨hm.withEnd hcs.suffix hafter (hsuffix.trans (List.suffix_cons _ _)), hafter⟩

end

/-! ## 3. Texts side by side

The reader gathers plain characters and puts them out as one text, and `Inert` has one text for
each character.  The two are compared after neighbouring texts have been joined. -/

section

variable {a b : List Span}

theorem joinTexts_cons_congr (s : Span) (h : joinTexts a = joinTexts b) :
    joinTexts (s :: a) = joinTexts (s :: b) := by
  cases s with
  | text value => simp only [joinTexts, h]
  | _ => simp only [joinTexts, h]

theorem joinTexts_append_congr (front : List Span) (h : joinTexts a = joinTexts b) :
    joinTexts (front ++ a) = joinTexts (front ++ b) := by
  induction front with
  | nil => exact h
  | cons s front ih => exact joinTexts_cons_congr s ih

theorem joinTexts_text_append (first second : List Char) (rest : List Span) :
    joinTexts (.text (first ++ second) :: rest) =
      joinTexts (.text first :: .text second :: rest) := by
  simp only [joinTexts]
  cases joinTexts rest with
  | nil =>
    cases second with
    | nil => simp
    | cons c second => simp
  | cons s others =>
    cases s with
    | text more => simp
    | _ =>
      cases second with
      | nil => simp
      | cons c second => simp

/-- The text that has been read, its last character first, as a span. -/
def pendingSpans (pending : List Char) : List Span :=
  if pending.isEmpty then [] else [.text pending.reverse]

theorem joinTexts_pendingSpans_cons (c : Char) (pending : List Char) (rest : List Span) :
    joinTexts (pendingSpans (c :: pending) ++ rest) =
      joinTexts (pendingSpans pending ++ .text [c] :: rest) := by
  cases pending with
  | nil => rfl
  | cons d pending =>
    rw [pendingSpans, List.reverse_cons]
    exact joinTexts_text_append _ _ _

end

/-! ## 4. Pieces -/

/-- Whether a span holds no other spans. -/
def Span.isFlat : Span → Bool
  | .text _ | .softBreak | .hardBreak | .code _ => true
  | _ => false

/-- What a piece comes to that is a span without others inside, or a delimiter that can neither
open nor close anything. -/
inductive Piece.Settles : Piece → Span → Prop
  | span {s : Span} (h : s.isFlat = true) : Settles (.span s) s
  | delimiter {d : Delimiter} (hopens : d.opens = false) (hcloses : d.closes = false) :
      Settles (.delimiter d) (.text d.text)

/-- Whether pieces come to certain spans, once neighbouring texts are joined. -/
def ReadAs (pieces : List Piece) (spans : List Span) : Prop :=
  ∃ settled, List.Forall₂ Piece.Settles pieces settled ∧ joinTexts settled = joinTexts spans

section

variable {pieces others : List Piece} {spans rest : List Span}

theorem ReadAs.append {front : List Span} (hfront : List.Forall₂ Piece.Settles pieces front)
    (h : ReadAs others rest) : ReadAs (pieces ++ others) (front ++ rest) := by
  obtain ⟨settled, hsettled, hjoin⟩ := h
  exact ⟨front ++ settled, List.rel_append hfront hsettled, joinTexts_append_congr front hjoin⟩

theorem ReadAs.congr (h : ReadAs pieces spans) (hjoin : joinTexts spans = joinTexts rest) :
    ReadAs pieces rest := by
  obtain ⟨settled, hsettled, hsame⟩ := h
  exact ⟨settled, hsettled, hsame.trans hjoin⟩

theorem settles_pendingPieces (pending : List Char) :
    List.Forall₂ Piece.Settles (pendingPieces pending) (pendingSpans pending) := by
  rw [pendingPieces, pendingSpans]
  split
  · exact .nil
  · exact .cons (.span rfl) .nil

/-- Matching delimiters changes nothing where none of them matches. -/
theorem foldl_add_of_settles {settled : List Span}
    (h : List.Forall₂ Piece.Settles pieces settled) (parts : List Part) :
    pieces.foldl Matching.add ⟨[], parts⟩ = ⟨[], (settled.map Part.span).reverse ++ parts⟩ := by
  induction h generalizing parts with
  | nil => rfl
  | @cons piece s pieces settled hfirst _ ih =>
    have hadd : Matching.add ⟨[], parts⟩ piece = ⟨[], .span s :: parts⟩ := by
      cases hfirst with
      | span => rfl
      | @delimiter d hopens hcloses =>
        simp [Matching.add, Matching.delimiter, hopens, hcloses, Matching.push]
    rw [List.foldl_cons, hadd, ih, List.map_cons, List.reverse_cons, List.append_assoc]
    rfl

theorem tidy_of_isFlat {s : Span} (h : s.isFlat = true) : s.tidy = s := by
  cases s with
  | text | softBreak | hardBreak | code => rfl
  | _ => cases h

theorem tidySpans_of_settles {settled : List Span}
    (h : List.Forall₂ Piece.Settles pieces settled) : tidySpans settled = settled := by
  induction h with
  | nil => rfl
  | @cons _ s _ _ hfirst _ ih =>
    have hflat : s.isFlat = true := by
      cases hfirst with
      | span h => exact h
      | delimiter => rfl
    rw [tidySpans, tidy_of_isFlat hflat, ih]

theorem matchDelimiters_of_readAs (h : ReadAs pieces spans) :
    matchDelimiters pieces = joinTexts spans := by
  obtain ⟨settled, hsettled, hjoin⟩ := h
  have hfinish : (pieces.foldl Matching.add ⟨[], []⟩).finish = settled := by
    rw [foldl_add_of_settles hsettled, Matching.finish]
    simp [Matching.unopened, Part.toSpan, Function.comp_def]
  rw [matchDelimiters, hfinish, tidySpans_of_settles hsettled, hjoin]

end

/-! ## 5. Reading an inert source

What one token adds to the pieces is said token by token, and the induction on `Inert` puts this
together.  The fuel of the reader is the length of the rest, which every token shortens. -/

/-- The reader of a line in a document without definitions. -/
def lineReader : Reader := ⟨[], true, spanLimit, 0⟩

section

variable {source : List Char} {m : Memory} {before c : Char} {pending rest : List Char} {fuel : Nat}

/-- Plain text is read character by character. -/
theorem pieces_plain (fuel : Nat) (before : Char) (pending : List Char) (hc : IsPlainAt c rest)
    (hm : m.Sound source) (hsource : IsRest source (c :: rest)) :
    ∃ m', m'.Sound source ∧ Reader.pieces (fuel + 1) lineReader m before pending (c :: rest) =
      Reader.pieces fuel lineReader m' c (c :: pending) rest := by
  have hpass : PassSound source (passToken [] spanLimit) := passToken_sound _
  have hspecial := hc.not_special
  simp only [List.mem_cons, List.not_mem_nil, or_false, not_or] at hspecial
  obtain ⟨hfeed, hbackslash, htick, hstar, hunderscore⟩ := hspecial
  have htilde : ¬(c = '~' ∧ lineReader.strikes = true ∧
      1 ≤ (rest.takeWhile (· == c)).length) := by
    rintro ⟨rfl, -, hrun⟩
    have hhead := hc.tilde rfl
    cases rest with
    | nil => simp at hrun
    | cons d rest =>
      have hne : (d == '~') = false := by
        rw [beq_eq_false_iff_ne]
        rintro rfl
        exact hhead rfl
      simp [hne] at hrun
  rw [Reader.pieces.eq_def]
  dsimp only
  rw [if_neg (by decide), if_neg hfeed, if_neg hbackslash, if_neg htick, if_neg htilde,
    if_neg (not_or.mpr ⟨hstar, hunderscore⟩)]
  by_cases hopen : c = '['
  · subst hopen
    obtain ⟨m', hm', hlink⟩ := link?_eq_none hpass hm hsource.of_open
    rw [if_pos rfl, lineReader, hlink]
    exact ⟨m', hm', rfl⟩
  rw [if_neg hopen]
  by_cases hmark : c = '!' ∧ rest.head? = some '['
  · obtain ⟨rfl, hhead⟩ := hmark
    have hinside : IsRest source (rest.drop 1) := by
      cases rest with
      | nil => cases hhead
      | cons d rest =>
        obtain rfl := Option.some.inj hhead
        exact hsource.of_mark.of_open
    obtain ⟨m', hm', himage⟩ := image?_eq_none hpass hm hinside
    rw [if_pos ⟨rfl, hhead⟩, lineReader, himage]
    exact ⟨m', hm', rfl⟩
  refine ⟨m, hm, ?_⟩
  rw [if_neg hmark]
  by_cases hangle : c = '<'
  · obtain ⟨hauto, hraw⟩ := hc.angle hangle
    have hraw : (if 2 ≤ rest.length then rawHtml? (c :: rest) else none) = none := by
      rw [hraw, ite_self]
    rw [if_pos hangle, hauto, hraw]
  rw [if_neg hangle]
  by_cases href : c = '&'
  · rw [if_pos href, hc.reference href]
  · rw [if_neg href]

/-- An underscore inside a word can neither open nor close. -/
theorem flanking_of_isAlphanumeric {after : Char} (hbefore : isAlphanumeric before = true)
    (hafter : isAlphanumeric after = true) : flanking false before after = (false, false) := by
  simp only [flanking, isSpacing_eq_false_of_isAlphanumeric hbefore,
    isSpacing_eq_false_of_isAlphanumeric hafter,
    isPunctuationOrSymbol_eq_false_of_isAlphanumeric hbefore,
    isPunctuationOrSymbol_eq_false_of_isAlphanumeric hafter]
  rfl

theorem pieces_underscore (fuel : Nat) (m : Memory) (pending rest : List Char) {after : Char}
    (hbefore : isAlphanumeric before = true) (hafter : isAlphanumeric after = true) :
    ∃ d : Delimiter, d.opens = false ∧ d.closes = false ∧ d.text = ['_'] ∧
      Reader.pieces (fuel + 1) lineReader m before pending ('_' :: after :: rest) =
        pendingPieces pending ++ [.delimiter d] ++
          Reader.pieces fuel lineReader m '_' [] (after :: rest) := by
  have hne : (after == '_') = false := by
    rw [beq_eq_false_iff_ne]
    rintro rfl
    exact absurd hafter (by decide)
  refine ⟨⟨'_', ['_'], 1, false, false, rest.length + 1⟩, rfl, rfl, rfl, ?_⟩
  rw [Reader.pieces.eq_def]
  simp [lineReader, spanLimit, hne, emphasisPieces, flanking_of_isAlphanumeric hbefore hafter]

theorem pieces_softBreak (hbefore : before ≠ ' ') (hpending : ∀ c ∈ pending.head?, c = before)
    (hblank : rest.dropWhile isSpaceOrTab = rest) :
    Reader.pieces (fuel + 1) lineReader m before pending ('\n' :: rest) =
      pendingPieces pending ++ [.span .softBreak] ++
        Reader.pieces fuel lineReader m '\n' [] rest := by
  have hkept : pending.dropWhile (· == ' ') = pending := by
    cases pending with
    | nil => rfl
    | cons c pending =>
      have hc : (c == ' ') = false := by
        rw [beq_eq_false_iff_ne, hpending c rfl]
        exact hbefore
      rw [List.dropWhile_cons, hc]
      rfl
  rw [Reader.pieces.eq_def]
  simp [lineReader, spanLimit, hblank, feedPieces, hkept]

theorem pieces_hardBreak (hblank : rest.dropWhile isSpaceOrTab = rest) :
    Reader.pieces (fuel + 1) lineReader m before pending ('\\' :: '\n' :: rest) =
      pendingPieces pending ++ [.span .hardBreak] ++
        Reader.pieces fuel lineReader m '\n' [] rest := by
  have htwo : rest.length + 1 + 1 - rest.length = 2 := by omega
  rw [Reader.pieces.eq_def]
  simp [lineReader, spanLimit, hblank, htwo]

theorem pieces_escape (hc : c ≠ '\n') :
    Reader.pieces (fuel + 1) lineReader m before pending ('\\' :: c :: rest) =
      pendingPieces pending ++
        [.span (.text (if isAsciiPunctuation c = true then [c] else ['\\', c]))] ++
          Reader.pieces fuel lineReader m c [] rest := by
  have htwo : rest.length + 1 + 1 - rest.length = 2 := by omega
  rw [Reader.pieces.eq_def]
  simp [lineReader, spanLimit, hc, Reader.special, htwo]

theorem pieces_code {used value : List Char}
    (hcode : codeSpan? ('\x60' :: (used ++ rest)) = some (value, rest))
    (hlast : ('\x60' :: used).getLast? = some '\x60') :
    Reader.pieces (fuel + 1) lineReader m before pending ('\x60' :: (used ++ rest)) =
      pendingPieces pending ++ [.span (.code value)] ++
        Reader.pieces fuel lineReader m '\x60' [] rest := by
  have htake : ('\x60' :: (used ++ rest)).take ((used ++ rest).length + 1 - rest.length) =
      '\x60' :: used := by
    have hlength : (used ++ rest).length + 1 - rest.length = used.length + 1 := by simp; omega
    rw [hlength, List.take_succ_cons, List.take_left]
  rw [Reader.pieces.eq_def]
  dsimp only
  rw [if_neg (by decide), if_neg (by decide), if_neg (by decide), if_pos rfl, hcode]
  dsimp only
  rw [htake, hlast]
  rfl

/-- A piece between what is pending and what follows. -/
theorem readAs_of_piece {piece : Piece} {s : Span} {others : List Piece} {spans : List Span}
    (hpiece : piece.Settles s) (h : ReadAs others (pendingSpans [] ++ spans)) :
    ReadAs (pendingPieces pending ++ [piece] ++ others) (pendingSpans pending ++ s :: spans) := by
  rw [List.append_cons (pendingSpans pending)]
  exact h.append (List.rel_append (settles_pendingPieces pending) (.cons hpiece .nil))

/-- **The reader finds in an inert source what it is made of.** -/
theorem pieces_readAs {spans : List Span} (h : Inert before rest spans) :
    ∀ {fuel : Nat} {m : Memory} {pending : List Char}, rest.length < fuel → m.Sound source →
      IsRest source rest → (∀ c ∈ pending.head?, c = before) →
      ReadAs (Reader.pieces fuel lineReader m before pending rest)
        (pendingSpans pending ++ spans) := by
  induction h with
  | nil before =>
    intro fuel m pending hfuel _ _ _
    obtain ⟨fuel, rfl⟩ := Nat.exists_eq_add_of_lt hfuel
    rw [Reader.pieces.eq_def, List.append_nil]
    exact ⟨_, settles_pendingPieces pending, rfl⟩
  | @plain before c rest spans hc hrest ih =>
    intro fuel m pending hfuel hm hsource _
    obtain ⟨fuel, rfl⟩ : ∃ n, fuel = n + 1 := ⟨fuel - 1, by omega⟩
    have hnext : IsRest source rest := ⟨(List.suffix_cons _ _).trans hsource.suffix, _, _, hrest⟩
    obtain ⟨m', hm', hpieces⟩ := pieces_plain fuel before pending hc hm hsource
    rw [hpieces]
    refine (ih (Nat.lt_of_succ_lt_succ hfuel) hm' hnext ?_).congr
      (joinTexts_pendingSpans_cons c pending spans)
    simp
  | @underscore before after rest spans hbefore hafter hrest ih =>
    intro fuel m pending hfuel hm hsource _
    obtain ⟨fuel, rfl⟩ : ∃ n, fuel = n + 1 := ⟨fuel - 1, by omega⟩
    have hnext : IsRest source (after :: rest) :=
      ⟨(List.suffix_cons _ _).trans hsource.suffix, _, _, hrest⟩
    obtain ⟨d, hopens, hcloses, htext, hpieces⟩ :=
      pieces_underscore fuel m pending rest hbefore hafter
    rw [hpieces, ← htext]
    exact readAs_of_piece (.delimiter hopens hcloses)
      (ih (Nat.lt_of_succ_lt_succ hfuel) hm hnext nofun)
  | @escape before c rest spans hc hrest ih =>
    intro fuel m pending hfuel hm hsource _
    obtain ⟨fuel, rfl⟩ : ∃ n, fuel = n + 1 := ⟨fuel - 1, by omega⟩
    have hfeed : c ≠ '\n' := by
      rintro rfl
      exact absurd hc (by decide)
    have hnext : IsRest source rest :=
      ⟨((List.suffix_cons _ _).trans (List.suffix_cons _ _)).trans hsource.suffix, _, _, hrest⟩
    rw [pieces_escape hfeed, if_pos hc]
    exact readAs_of_piece (.span rfl) (ih (by simp at hfuel; omega) hm hnext nofun)
  | @backslash before c rest spans hc hfeed hrest ih =>
    intro fuel m pending hfuel hm hsource _
    obtain ⟨fuel, rfl⟩ : ∃ n, fuel = n + 1 := ⟨fuel - 1, by omega⟩
    have hnext : IsRest source rest :=
      ⟨((List.suffix_cons _ _).trans (List.suffix_cons _ _)).trans hsource.suffix, _, _, hrest⟩
    rw [pieces_escape hfeed, if_neg (by rw [hc]; decide)]
    exact readAs_of_piece (.span rfl) (ih (by simp at hfuel; omega) hm hnext nofun)
  | lastBackslash before =>
    intro fuel m pending hfuel _ _ _
    obtain ⟨fuel, rfl⟩ : ∃ n, fuel = n + 1 := ⟨fuel - 1, by omega⟩
    have hpieces : Reader.pieces (fuel + 1) lineReader m before pending ['\\'] =
        pendingPieces ('\\' :: pending) := by
      rw [Reader.pieces.eq_def]
      cases fuel <;> simp [lineReader, spanLimit, Reader.pieces.eq_def]
    rw [hpieces]
    refine ReadAs.congr ⟨_, settles_pendingPieces _, rfl⟩ ?_
    rw [← joinTexts_pendingSpans_cons, List.append_nil]
  | @softBreak before rest spans hbefore hblank hrest ih =>
    intro fuel m pending hfuel hm hsource hpending
    obtain ⟨fuel, rfl⟩ : ∃ n, fuel = n + 1 := ⟨fuel - 1, by omega⟩
    have hnext : IsRest source rest := ⟨(List.suffix_cons _ _).trans hsource.suffix, _, _, hrest⟩
    rw [pieces_softBreak hbefore hpending hblank]
    exact readAs_of_piece (.span rfl) (ih (Nat.lt_of_succ_lt_succ hfuel) hm hnext nofun)
  | @hardBreak before rest spans hblank hrest ih =>
    intro fuel m pending hfuel hm hsource _
    obtain ⟨fuel, rfl⟩ : ∃ n, fuel = n + 1 := ⟨fuel - 1, by omega⟩
    have hnext : IsRest source rest :=
      ⟨((List.suffix_cons _ _).trans (List.suffix_cons _ _)).trans hsource.suffix, _, _, hrest⟩
    rw [pieces_hardBreak hblank]
    exact readAs_of_piece (.span rfl) (ih (by simp at hfuel; omega) hm hnext nofun)
  | @code before used value rest spans hcode hlast _ hrest ih =>
    intro fuel m pending hfuel hm hsource _
    obtain ⟨fuel, rfl⟩ : ∃ n, fuel = n + 1 := ⟨fuel - 1, by omega⟩
    have hnext : IsRest source rest :=
      ⟨(List.suffix_append ('\x60' :: used) rest).trans hsource.suffix, _, _, hrest⟩
    rw [pieces_code hcode hlast]
    exact readAs_of_piece (.span rfl) (ih (by simp at hfuel; omega) hm hnext nofun)

/-- **An inert source reads as what it is made of.** -/
theorem readSpans_of_inert {spans : List Span} (h : Inert ' ' source spans) :
    readSpans [] true source = joinTexts spans := by
  have hread : ReadAs (Reader.pieces (source.length + 1) lineReader .empty ' ' [] source) spans :=
    pieces_readAs h (Nat.lt_succ_self _) Memory.sound_empty
      ⟨List.suffix_refl _, _, _, h⟩ nofun
  exact matchDelimiters_of_readAs hread

end

/-! ## 6. The nodes of spans -/

section

variable {nodes : List Node}

theorem prependText_nil (nodes : List Node) : prependText (String.ofList []) nodes = nodes := rfl

theorem prependText_cons (c : Char) (cs : List Char) (nodes : List Node) :
    prependText (String.ofList (c :: cs)) nodes =
      match nodes with
      | .text more :: others => .text (String.ofList (c :: cs) ++ more) :: others
      | _ => .text (String.ofList (c :: cs)) :: nodes := by
  have hnonempty : ¬(String.ofList (c :: cs)).isEmpty = true := by simp
  cases nodes with
  | nil => exact if_neg hnonempty
  | cons node others =>
    cases node with
    | branch kind cs => exact if_neg hnonempty
    | leaf kind => cases kind <;> exact if_neg hnonempty

/-- Texts one after the other make one text. -/
theorem prependText_append (first second : List Char) (nodes : List Node) :
    prependText (String.ofList (first ++ second)) nodes =
      prependText (String.ofList first) (prependText (String.ofList second) nodes) := by
  cases first with
  | nil => rfl
  | cons c first =>
    cases second with
    | nil => rw [List.append_nil, prependText_nil]
    | cons d second =>
      have htext : String.ofList (c :: first ++ d :: second) =
          String.ofList (c :: first) ++ String.ofList (d :: second) := String.ofList_append
      rw [prependText_cons d, List.cons_append, prependText_cons, ← List.cons_append, htext]
      split
      next more others => rw [prependText_cons, String.append_assoc]
      next => rw [prependText_cons]

/-- Joining texts changes no node. -/
theorem spanNodes_joinTexts (spans : List Span) :
    spanNodes (joinTexts spans) = spanNodes spans := by
  induction spans with
  | nil => rfl
  | cons s spans ih =>
    cases s with
    | text value =>
      rw [spanNodes, Span.prepend, ← ih]
      simp only [joinTexts]
      split
      next more others heq =>
        rw [heq, spanNodes, Span.prepend, spanNodes, Span.prepend, prependText_append]
      next =>
        cases value with
        | nil => rfl
        | cons c value => rfl
    | _ =>
      rw [joinTexts, spanNodes, spanNodes, ih]
      nofun

end

/-! ## 7. Sources that read as nodes -/

/-- Whether a source, behind a character, is inert and reads as nodes. -/
def ReadsAs (before : Char) (source : List Char) (nodes : List Node) : Prop :=
  ∃ spans, Inert before source spans ∧ spanNodes spans = nodes

/-- **The nodes of an inert source are found by reading it.** -/
theorem ReadsAs.spanNodes_readSpans {source : List Char} {nodes : List Node}
    (h : ReadsAs ' ' source nodes) : spanNodes (readSpans [] true source) = nodes := by
  obtain ⟨spans, hinert, rfl⟩ := h
  rw [readSpans_of_inert hinert, spanNodes_joinTexts]

namespace ReadsAs

section

variable {before c : Char} {rest : List Char} {nodes : List Node}

theorem nil (before : Char) : ReadsAs before [] [] := ⟨[], .nil before, rfl⟩

theorem plain (hc : IsPlainAt c rest) (h : ReadsAs c rest nodes) :
    ReadsAs before (c :: rest) (prependText (String.ofList [c]) nodes) := by
  obtain ⟨spans, hinert, rfl⟩ := h
  exact ⟨_, .plain hc hinert, rfl⟩

theorem underscore {after : Char} (hbefore : isAlphanumeric before = true)
    (hafter : isAlphanumeric after = true) (h : ReadsAs '_' (after :: rest) nodes) :
    ReadsAs before ('_' :: after :: rest) (prependText (String.ofList ['_']) nodes) := by
  obtain ⟨spans, hinert, rfl⟩ := h
  exact ⟨_, .underscore hbefore hafter hinert, rfl⟩

theorem escape (hc : isAsciiPunctuation c = true) (h : ReadsAs c rest nodes) :
    ReadsAs before ('\\' :: c :: rest) (prependText (String.ofList [c]) nodes) := by
  obtain ⟨spans, hinert, rfl⟩ := h
  exact ⟨_, .escape hc hinert, rfl⟩

theorem backslash (hc : isAsciiPunctuation c = false) (hfeed : c ≠ '\n')
    (h : ReadsAs c rest nodes) :
    ReadsAs before ('\\' :: c :: rest) (prependText (String.ofList ['\\', c]) nodes) := by
  obtain ⟨spans, hinert, rfl⟩ := h
  exact ⟨_, .backslash hc hfeed hinert, rfl⟩

theorem softBreak (hbefore : before ≠ ' ') (hblank : rest.dropWhile isSpaceOrTab = rest)
    (h : ReadsAs '\n' rest nodes) :
    ReadsAs before ('\n' :: rest) (prependText (String.ofList ['\n']) nodes) := by
  obtain ⟨spans, hinert, rfl⟩ := h
  exact ⟨_, .softBreak hbefore hblank hinert, rfl⟩

theorem hardBreak (hblank : rest.dropWhile isSpaceOrTab = rest) (h : ReadsAs '\n' rest nodes) :
    ReadsAs before ('\\' :: '\n' :: rest) (.hardBreak :: nodes) := by
  obtain ⟨spans, hinert, rfl⟩ := h
  exact ⟨_, .hardBreak hblank hinert, rfl⟩

theorem code {used value : List Char}
    (hcode : codeSpan? ('\x60' :: (used ++ rest)) = some (value, rest))
    (hlast : ('\x60' :: used).getLast? = some '\x60')
    (hlabel : ('\x60' :: used).IsChain EndsNoLabel) (h : ReadsAs '\x60' rest nodes) :
    ReadsAs before ('\x60' :: (used ++ rest)) (.inlineCode (String.ofList value) :: nodes) := by
  obtain ⟨spans, hinert, rfl⟩ := h
  exact ⟨_, .code hcode hlast hlabel hinert, rfl⟩

/-! ### More backslashes -/

/-- A backslash in front of plain punctuation is taken away by reading. -/
theorem insert_backslash (hc : isAsciiPunctuation c = true)
    (hspecial : c ∉ ['\n', '\\', '\x60', '*', '_']) (h : ReadsAs before (c :: rest) nodes) :
    ReadsAs before ('\\' :: c :: rest) nodes := by
  obtain ⟨spans, hinert, rfl⟩ := h
  cases hinert with
  | plain _ hrest => exact ⟨_, .escape hc hrest, rfl⟩
  | underscore | escape | backslash | lastBackslash | softBreak | hardBreak | code =>
    exact absurd (by decide) hspecial

/-- So it is behind characters that are plain wherever they stand. -/
theorem insert_backslash_behind {word : List Char}
    (hword : ∀ d ∈ word, d ∉ ['\n', '\\', '\x60', '*', '_', '~', ']', '<', '&'])
    (hc : isAsciiPunctuation c = true) (hspecial : c ∉ ['\n', '\\', '\x60', '*', '_'])
    (h : ReadsAs before (word ++ c :: rest) nodes) :
    ReadsAs before (word ++ '\\' :: c :: rest) nodes := by
  induction word generalizing before nodes with
  | nil => exact h.insert_backslash hc hspecial
  | cons d word ih =>
    obtain ⟨spans, hinert, rfl⟩ := h
    have hd := hword d List.mem_cons_self
    rw [List.cons_append] at hinert
    generalize htail : word ++ c :: rest = tail at hinert
    cases hinert with
    | @plain _ _ _ spans _ hrest =>
      obtain ⟨spans', hrest', hnodes⟩ :=
        ih (fun e he => hword e (List.mem_cons_of_mem _ he)) ⟨spans, htail ▸ hrest, rfl⟩
      simp only [List.mem_cons, List.not_mem_nil, or_false, not_or] at hd
      obtain ⟨hfeed, hbackslash, htick, hstar, hunderscore, htilde, hbracket, hangle, href⟩ := hd
      refine ⟨.text [d] :: spans', .plain ?_ hrest', ?_⟩
      · exact ⟨by simp [hfeed, hbackslash, htick, hstar, hunderscore], fun h => absurd h htilde,
          fun h => absurd h hbracket, fun h => absurd h hangle, fun h => absurd h href⟩
      · rw [spanNodes, hnodes, spanNodes]
    | underscore | escape | backslash | lastBackslash | softBreak | hardBreak | code =>
      exact absurd (by decide) hd

end

/-! ### No definitions -/

/-- A label that begins in a code span goes on behind it. -/
theorem definitionLabel?_append {rest : List Char}
    (hrest : ∀ label after, definitionLabel? rest = some (label, after) →
      after.head? ≠ some ':') :
    ∀ {used : List Char}, (used = [] ∨ used.getLast? = some '\x60') → used.IsChain EndsNoLabel →
      ∀ label after, definitionLabel? (used ++ rest) = some (label, after) →
        after.head? ≠ some ':'
  | [], _, _, label, after, h => hrest label after h
  | [c], hlast, _, label, after, h => by
    obtain rfl : c = '\x60' := by simpa using hlast
    cases rest with
    | nil => cases h
    | cons d rest =>
      obtain ⟨⟨inside, after⟩, hlabel, heq⟩ := Option.map_eq_some_iff.mp h
      obtain ⟨-, rfl⟩ := Prod.mk.inj heq
      exact hrest inside after hlabel
  | c :: d :: used, hlast, hchain, label, after, h => by
    have hlast : (d :: used).getLast? = some '\x60' := by simpa using hlast
    obtain ⟨hends, hchain⟩ := List.isChain_cons_cons.mp hchain
    rw [List.cons_append, List.cons_append, definitionLabel?] at h
    split at h
    · cases h
    split at h
    next hc =>
      obtain ⟨-, rfl⟩ := Prod.mk.inj (Option.some.inj h)
      rintro hd
      exact hends hc (Option.some.inj hd)
    split at h
    · obtain ⟨⟨inside, after⟩, hlabel, heq⟩ := Option.map_eq_some_iff.mp h
      obtain ⟨-, rfl⟩ := Prod.mk.inj heq
      refine definitionLabel?_append hrest ?_ hchain.tail inside after hlabel
      cases used with
      | nil => exact .inl rfl
      | cons e used => exact .inr (by simpa using hlast)
    · obtain ⟨⟨inside, after⟩, hlabel, heq⟩ := Option.map_eq_some_iff.mp h
      obtain ⟨-, rfl⟩ := Prod.mk.inj heq
      exact definitionLabel?_append hrest (.inr hlast) hchain inside after hlabel

/-- **No definition begins an inert source**: a bracket that closes a label has no colon behind
it. -/
theorem head?_ne_colon {before : Char} {source : List Char} {nodes : List Node}
    (h : ReadsAs before source nodes) {label after : List Char}
    (hlabel : definitionLabel? source = some (label, after)) : after.head? ≠ some ':' := by
  obtain ⟨spans, hinert, -⟩ := h
  induction hinert generalizing label after with
  | nil => cases hlabel
  | @plain before c rest spans hc _ ih =>
    cases rest with
    | nil =>
      rw [definitionLabel?] at hlabel
      split at hlabel
      · obtain ⟨-, rfl⟩ := Prod.mk.inj (Option.some.inj hlabel)
        nofun
      · cases hlabel
    | cons d rest =>
      rw [definitionLabel?] at hlabel
      split at hlabel
      · cases hlabel
      split at hlabel
      next hbracket =>
        obtain ⟨-, rfl⟩ := Prod.mk.inj (Option.some.inj hlabel)
        exact (hc.bracket hbracket).2
      split at hlabel
      next hbackslash => exact absurd (by rw [hbackslash]; decide) hc.not_special
      · obtain ⟨⟨inside, _⟩, hfound, heq⟩ := Option.map_eq_some_iff.mp hlabel
        obtain ⟨-, rfl⟩ := Prod.mk.inj heq
        exact ih hfound
  | underscore _ _ _ ih =>
    obtain ⟨⟨inside, _⟩, hfound, heq⟩ := Option.map_eq_some_iff.mp hlabel
    obtain ⟨-, rfl⟩ := Prod.mk.inj heq
    exact ih hfound
  | @softBreak _ rest _ _ _ _ ih =>
    cases rest with
    | nil => cases hlabel
    | cons d rest =>
      obtain ⟨⟨inside, _⟩, hfound, heq⟩ := Option.map_eq_some_iff.mp hlabel
      obtain ⟨-, rfl⟩ := Prod.mk.inj heq
      exact ih hfound
  | escape _ _ ih | backslash _ _ _ ih | hardBreak _ _ ih =>
    rw [definitionLabel?, if_neg (by decide), if_neg (by decide), if_pos rfl] at hlabel
    obtain ⟨⟨inside, _⟩, hfound, heq⟩ := Option.map_eq_some_iff.mp hlabel
    obtain ⟨-, rfl⟩ := Prod.mk.inj heq
    exact ih hfound
  | lastBackslash => cases hlabel
  | @code before used value rest spans _ hlast hcolon _ ih =>
    exact definitionLabel?_append (fun label after => ih) (.inr hlast) hcolon label after hlabel

end ReadsAs

end TaskNotes.Markup
