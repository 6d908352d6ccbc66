/-
# Delimiters

Emphasis is marked by runs of `*` or `_`, and text struck through by pairs of `~`.  A run may
open if text follows it closely and may close if text comes closely before it.  Delimiters are
matched from left to right: a closing one goes with the nearest open one of the same mark, and
what is open in between is text after all.  Two single marks around the same content are strong
emphasis.

A run is cut into single delimiters before they are matched, each with the length of its run, since
the rule about multiples of three speaks of whole runs.  What is open is kept on a stack with the
parts that have come since; when a delimiter closes one, everything above it on the stack turns
into text.
-/
import TaskNotes.Markup.Syntax

namespace TaskNotes.Markup

/-! ## 1. Runs

An underscore does not split words, so inside of one it can do less than an asterisk. -/

/-- Whether a run between two characters may open and whether it may close.  Inside a word a run
that must not split it can do neither. -/
def flanking (splitsWords : Bool) (before after : Char) : Bool × Bool :=
  let blankBefore := isSpacing before
  let blankAfter := isSpacing after
  let markBefore := isPunctuationOrSymbol before
  let markAfter := isPunctuationOrSymbol after
  let left := !blankAfter && (!markAfter || blankBefore || markBefore)
  let right := !blankBefore && (!markBefore || blankAfter || markAfter)
  (left && (splitsWords || !right || markBefore), right && (splitsWords || !left || markAfter))

/-- One delimiter of a run: its mark, its text, the length of the run it counts with, whether it
may open or close, and which run it belongs to. -/
structure Delimiter where
  mark : Char
  text : List Char
  length : Nat
  opens : Bool
  closes : Bool
  run : Nat

/-- Whether the lengths of two runs forbid a match: one of them could do both, and the lengths
make a multiple of three without both being one. -/
def Delimiter.oddWith (opener closer : Delimiter) : Bool :=
  (opener.closes || closer.opens) && (opener.length + closer.length) % 3 == 0
    && (opener.length % 3 != 0 || closer.length % 3 != 0)

/-- Whether a delimiter can be closed by another. -/
def Delimiter.matches (opener closer : Delimiter) : Bool :=
  opener.mark == closer.mark && opener.run != closer.run && !opener.oddWith closer

/-! ## 2. Matching

Parts are kept with the last one first, as that is where the next one is put. -/

/-- A piece of a line before delimiters are matched.  A `lone` tilde is what an odd run of tildes
has left over before its pairs. -/
inductive Piece
  | span (value : Span)
  | delimiter (value : Delimiter)
  | lone

/-- A part of a line while delimiters are matched. -/
inductive Part
  | span (value : Span)
  | lone

/-- A part as it is in the end. -/
def Part.toSpan : Part → Span
  | .span value => value
  | .lone => .text ['~']

/-- An open delimiter and the parts after it, the last one first. -/
structure Opened where
  delimiter : Delimiter
  parts : List Part

/-- A line while delimiters are matched: the open delimiters, the innermost first, and the parts
before them, the last one first. -/
structure Matching where
  opened : List Opened
  parts : List Part

namespace Matching

/-- Adds parts at the end, the last one first. -/
def push (m : Matching) (parts : List Part) : Matching :=
  match m.opened with
  | [] => { m with parts := parts ++ m.parts }
  | top :: below => { m with opened := { top with parts := parts ++ top.parts } :: below }

/-- The parts of delimiters that stay text, the last one first. -/
def unopened : List Opened → List Part
  | [] => []
  | top :: below =>
    top.parts ++ .span (.text top.delimiter.text) :: unopened below

/-- The spans inside matched delimiters of a mark. -/
def wrap (mark : Char) (spans : List Span) : Span :=
  if mark = '~' then .strike spans
  else
    match spans with
    | [.emphasis inner children] =>
      if inner = mark then .strong mark children else .emphasis mark spans
    | _ => .emphasis mark spans

/-- Encloses parts, the last one first, in matched delimiters; a lone tilde at their end moves
behind them. -/
def enclose (mark : Char) (parts : List Part) : List Part :=
  match parts with
  | .lone :: others =>
    if mark = '~' then [.lone, .span (wrap mark (others.reverse.map Part.toSpan))]
    else [.span (wrap mark (parts.reverse.map Part.toSpan))]
  | _ => [.span (wrap mark (parts.reverse.map Part.toSpan))]

/-- Adds a delimiter. -/
def delimiter (m : Matching) (d : Delimiter) : Matching :=
  let between := m.opened.takeWhile (fun o => !o.delimiter.matches d)
  match d.closes, m.opened.drop between.length with
  | true, opener :: below =>
    push ⟨below, m.parts⟩ (enclose d.mark (unopened between ++ opener.parts))
  | _, _ =>
    if d.opens then { m with opened := ⟨d, []⟩ :: m.opened }
    else m.push [.span (.text d.text)]

/-- Adds a piece. -/
def add (m : Matching) : Piece → Matching
  | .span value => m.push [.span value]
  | .lone => m.push [.lone]
  | .delimiter d => m.delimiter d

/-- The parts of a line in the end. -/
def finish (m : Matching) : List Span :=
  ((unopened m.opened ++ m.parts).reverse).map Part.toSpan

end Matching

/-- Neighbouring texts as one, inside and out; empty ones vanish. -/
def joinTexts : List Span → List Span
  | [] => []
  | .text value :: rest =>
    match joinTexts rest with
    | .text more :: others => .text (value ++ more) :: others
    | others => if value.isEmpty then others else .text value :: others
  | span :: rest => span :: joinTexts rest

mutual
/-- A span whose neighbouring texts inside are joined. -/
def Span.tidy : Span → Span
  | .emphasis mark children => .emphasis mark (joinTexts (tidySpans children))
  | .strong mark children => .strong mark (joinTexts (tidySpans children))
  | .strike children => .strike (joinTexts (tidySpans children))
  | .link target children => .link target (joinTexts (tidySpans children))
  | span => span

/-- Several spans whose neighbouring texts inside are joined. -/
def tidySpans : List Span → List Span
  | [] => []
  | s :: ss => s.tidy :: tidySpans ss
end

/-- Matches the delimiters of a line. -/
def matchDelimiters (pieces : List Piece) : List Span :=
  joinTexts (tidySpans (pieces.foldl Matching.add ⟨[], []⟩).finish)

end TaskNotes.Markup
