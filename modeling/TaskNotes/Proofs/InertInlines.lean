/-
# Written lines that are inert

The parts of a line that hold no others are written so that they are inert: texts, hard line breaks
and code spans (`readsAs_renderInlines`).

Neighbouring texts would be read as one text, and the backticks of neighbouring code spans as one
run; the parts of a line that has been read never stand so.

What is asked of a line is a Boolean function (`arePlainParts`), so that it can be evaluated for a
document at hand.  It asks each part on its own, and each two neighbours whether they are read
apart.  What cannot be asked part by part is that no blank stands beside a line feed, since the two
can belong to different parts, and that a line does not hold both `<` and `@`; so these two are
conditions on the source as a whole.
-/
import TaskNotes.Proofs.CodeSpans
import TaskNotes.Proofs.EscapedText

namespace TaskNotes

open Markup

/-! ## 1. Code spans -/

section

variable {value : List Char}

theorem isChain_of_not_mem (h : ']' ∉ value) : value.IsChain EndsNoLabel := by
  induction value with
  | nil => exact .nil
  | cons c value ih =>
    obtain ⟨hc, h⟩ := not_or.mp (List.mem_cons.not.mp h)
    exact List.isChain_cons.mpr ⟨fun d _ hbracket => absurd hbracket.symm hc, ih h⟩

/-- Padding and fences end no label. -/
theorem isChain_renderCodeSpan (h : value.IsChain EndsNoLabel) :
    (renderCodeSpan value).IsChain EndsNoLabel := by
  have hfence : ∀ c ∈ codeFence value, c = '\x60' := fun c hc => List.eq_of_mem_replicate hc
  have hcode : (codeFence value).IsChain EndsNoLabel :=
    isChain_of_not_mem fun hmem => absurd (hfence _ hmem) (by decide)
  have hpadded : (paddedCode value).IsChain EndsNoLabel := by
    rw [paddedCode]
    split
    · refine List.isChain_append.mpr ⟨List.isChain_cons.mpr ⟨?_, h⟩, .singleton ' ', ?_⟩
      · exact fun d _ hbracket => absurd hbracket (by decide)
      · rintro c - d hd -
        obtain rfl := Option.some.inj hd
        decide
    · exact h
  rw [renderCodeSpan_eq, List.append_assoc]
  refine List.isChain_append.mpr ⟨hcode, List.isChain_append.mpr ⟨hpadded, hcode, ?_⟩, ?_⟩
  · rintro c - d hd -
    rw [hfence d (List.mem_of_mem_head? hd)]
    decide
  · rintro c hc d - hbracket
    rw [hfence c (List.mem_of_getLast? hc)] at hbracket
    exact absurd hbracket (by decide)

end

/-! ## 2. Lines

The induction goes from the last part to the first.  A text needs to know what is written behind
it, and that is the mark with which the next part begins: the backslash of a hard line break, or
the backtick of a code span. -/

/-- Whether a part of a line holds no others and can be read back: a text with no backslash at the
end of a line, a hard line break, or a code span. -/
def Node.isPlainPart : Node → Bool
  | .text value =>
    !value.toList.isEmpty && (splitLines value.toList).all fun line => line.getLast? != some '\\'
  | .hardBreak => true
  | .inlineCode value =>
    !value.toList.isEmpty && !value.toList.contains '\n'
      && decide (value.toList.IsChain EndsNoLabel)
  | _ => false

/-- Whether two neighbouring parts of a line are read apart. -/
def readApart : Node → Node → Bool
  | .text _, .text _ => false
  | .inlineCode _, .inlineCode _ => false
  | _, _ => true

/-- Whether the parts of a line can be read back one by one. -/
def arePlainParts : List Node → Bool
  | [] => true
  | c :: cs => c.isPlainPart && cs.head?.all (readApart c) && arePlainParts cs

section

variable {before : Char} {value rest source : List Char} {nodes cs : List Node} {lineStart : Bool}

theorem sublist_escapeLine (lineStart : Bool) (line : List Char) :
    line.Sublist (escapeLine lineStart line) := by
  rw [escapeLine]
  split
  · exact (sublist_escapeAfter none line).trans (sublist_escapeLineStart _)
  · exact sublist_escapeAfter none line

/-- Escaping a text keeps its characters. -/
theorem sublist_escapeText (value : List Char) (lineStart : Bool) :
    value.Sublist (escapeText value lineStart) := by
  obtain ⟨first, others, hlines⟩ := List.exists_cons_of_ne_nil (splitLines_ne_nil value)
  rw [escapeText_eq lineStart hlines, ← joinLines_splitLines value, hlines]
  clear hlines
  induction others generalizing first lineStart with
  | nil => exact sublist_escapeLine lineStart first
  | cons next others ih =>
    rw [List.map_cons, joinLines_cons_cons, joinLines_cons_cons]
    exact (sublist_escapeLine lineStart first).append ((ih true next).cons_cons _)

/-- What begins with a backtick reads as a code span first. -/
theorem exists_of_readsAs_backtick (h : ReadsAs before ('\x60' :: rest) nodes) :
    ∃ value others, nodes = .inlineCode value :: others := by
  obtain ⟨spans, hinert, rfl⟩ := h
  cases hinert with
  | plain hc => exact absurd (by decide) hc.not_special
  | code => exact ⟨_, _, rfl⟩

theorem prependText_of_readApart {value : String} (hvalue : value.toList ≠ [])
    (hapart : cs.head?.all (readApart (.text value)) = true) :
    prependText (String.ofList value.toList) cs = .text value :: cs := by
  obtain ⟨c, others, hcons⟩ := List.exists_cons_of_ne_nil hvalue
  have hvalue : value = String.ofList (c :: others) := by rw [← hcons, String.ofList_toList]
  rw [hcons, prependText_cons, ← hvalue]
  split
  next more others =>
    cases hapart
  next => rfl

/-- Behind a text there is a hard line break, a code span or nothing. -/
theorem head?_renderInlines (hplain : arePlainParts cs = true) {value : String}
    (hapart : cs.head?.all (readApart (.text value)) = true) (lineStart : Bool) :
    ∀ c ∈ (renderInlines lineStart cs).head?, c ∈ ['\\', '\x60'] := by
  intro c hc
  cases cs with
  | nil => cases hc
  | cons part cs =>
    simp only [arePlainParts, Bool.and_eq_true] at hplain
    rw [renderInlines] at hc
    match part with
    | .text _ => cases hapart
    | .hardBreak =>
      obtain rfl := Option.some.inj hc
      decide
    | .inlineCode code =>
      obtain rfl := Option.some.inj hc
      decide
    | .code _ _ | .thematicBreak | .html _ | .image _ _ _ | .branch _ _ => cases hplain.1.1

/-- **Plain parts of a line are written so that they are read back**, in a source without blanks
beside its line feeds. -/
theorem readsAs_renderInlines (hplain : arePlainParts cs = true)
    (hangle : '<' ∉ renderInlines lineStart cs ∨ '@' ∉ renderInlines lineStart cs)
    (hchain : (before :: renderInlines lineStart cs).IsChain Apart) :
    ReadsAs before (renderInlines lineStart cs) cs := by
  induction cs generalizing lineStart before with
  | nil => exact .nil before
  | cons c cs ih =>
    simp only [arePlainParts, Bool.and_eq_true] at hplain
    obtain ⟨⟨hpart, hapart⟩, hplain⟩ := hplain
    rw [renderInlines] at hangle hchain ⊢
    generalize hlineStart' : beginsLineAfter lineStart (renderInline lineStart c) = lineStart' at *
    have hangle' : '<' ∉ renderInlines lineStart' cs ∨ '@' ∉ renderInlines lineStart' cs :=
      hangle.imp (mt (List.mem_append_right _)) (mt (List.mem_append_right _))
    match c with
    | .text value =>
      simp only [Node.isPlainPart, Bool.and_eq_true, Bool.not_eq_true', List.all_eq_true,
        bne_iff_ne] at hpart
      obtain ⟨hvalue, hlast⟩ := hpart
      have hhead := head?_renderInlines hplain hapart lineStart'
      have hbehind (b : Char) : (b :: renderInlines lineStart' cs).IsChain Apart := by
        refine List.isChain_cons.mpr ⟨fun d hd => ?_, ?_⟩
        · have hnone : ∀ d ∈ ['\\', '\x60'], isBlank d = false ∧ d ≠ '\n' := by decide
          obtain ⟨hblank, hfeed⟩ := hnone d (hhead d hd)
          exact ⟨fun _ => hblank, fun h => absurd h hfeed⟩
        · exact hchain.suffix ((List.suffix_append _ _).trans (List.suffix_cons _ _))
      rw [← prependText_of_readApart (List.isEmpty_eq_false_iff.mp hvalue) hapart]
      refine readsAs_escapeText (fun d hd => List.mem_cons_of_mem _ (hhead d hd))
        (fun b => ih hplain hangle' (hbehind b)) hlast (hangle.imp_left (mt fun hmem => ?_)) hchain
      exact List.mem_append_left _ ((sublist_escapeText _ _).mem hmem)
    | .hardBreak =>
      have hbehind : ('\n' :: renderInlines lineStart' cs).IsChain Apart :=
        hchain.suffix ((List.suffix_cons _ _).trans (List.suffix_cons _ _))
      exact .hardBreak (dropWhile_eq_self_of_isChain hbehind) (ih hplain hangle' hbehind)
    | .inlineCode value =>
      simp only [Node.isPlainPart, Bool.and_eq_true, Bool.not_eq_true', decide_eq_true_eq,
        List.contains_eq_mem, decide_eq_false_iff_not] at hpart
      obtain ⟨⟨hvalue, hfeed⟩, hlabel⟩ := hpart
      obtain ⟨used, hwritten, hlast⟩ := exists_renderCodeSpan value.toList
      have hcode : renderInline lineStart (.inlineCode value) = '\x60' :: used := hwritten
      have hbehind : ('\x60' :: renderInlines lineStart' cs).IsChain Apart := by
        obtain ⟨front, hfront⟩ := List.getLast?_eq_some_iff.mp hlast
        refine hchain.suffix (.trans ⟨front, ?_⟩ (List.suffix_cons _ _))
        rw [hcode, hfront, List.append_assoc]
        rfl
      have hrest := ih hplain hangle' hbehind
      have hhead : ∀ d ∈ (renderInlines lineStart' cs).head?, (d == '\x60') = false := by
        intro d hd
        refine beq_eq_false_iff_ne.mpr ?_
        rintro rfl
        obtain ⟨rest, hsource⟩ : ∃ rest, renderInlines lineStart' cs = '\x60' :: rest :=
          List.head?_eq_some_iff.mp hd
        rw [hsource] at hrest
        obtain ⟨code, others, rfl⟩ := exists_of_readsAs_backtick hrest
        cases hapart
      have hread := codeSpan?_renderCodeSpan (List.isEmpty_eq_false_iff.mp hvalue) hfeed hhead
      rw [hwritten] at hread
      rw [hcode, ← String.ofList_toList (s := value)]
      exact .code hread hlast (hwritten ▸ isChain_renderCodeSpan hlabel) hrest
    | .code _ _ | .thematicBreak | .html _ | .image _ _ _ | .branch _ _ => cases hpart

end

end TaskNotes
