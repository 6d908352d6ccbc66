/-
# Escapes in canonical text

Canonical markup escapes a character of text only where it could be read as a mark.  A `*` is
left alone between spacing, a `_` also inside a word, brackets when they make a pair that no
reference so far has named, and `<` before a space or behind another one that is escaped.

These rules are not those of rendering (`Render/Escape`).  Formatting works on a text that is read
anew, with a grammar of its own in which tildes strike nothing through, and the two agree in much
but not in everything.
-/
import TaskNotes.Markup.CharRef
import TaskNotes.Markup.Delimiter
import TaskNotes.Markup.Target

namespace TaskNotes.Format

open Markup

/-! ## 1. Single characters

Each rule goes over the text once, and the rules come one after the other, so a later one sees the
backslashes of those before it. -/

/-- A text with tabs as spaces and no two spaces in a row; `afterSpace` says whether a space has
just been written. -/
def collapseSpaces (afterSpace : Bool) : List Char → List Char
  | [] => []
  | c :: cs =>
    if isSpaceOrTab c then (if afterSpace then [] else [' ']) ++ collapseSpaces true cs
    else c :: collapseSpaces false cs

/-- Escapes backslashes. -/
def escapeBackslashes (cs : List Char) : List Char :=
  cs.flatMap fun c => if c = '\\' then ['\\', c] else [c]

/-- Escapes a mark wherever its neighbours ask for it. -/
def escapeMark (mark : Char) (isFree : Option Char → Option Char → Bool) :
    (before : Option Char) → List Char → List Char
  | _, [] => []
  | before, c :: cs =>
    let more := escapeMark mark isFree (some c) cs
    if c = mark ∧ !isFree before cs.head? then '\\' :: c :: more else c :: more

/-- Whether there is a character of a class. -/
def holds (p : Char → Bool) (c : Option Char) : Bool := (c.map p).getD false

/-- Spacing; the vertical tab does not count here. -/
def isOuter (c : Char) : Bool := isSpacing c && c.toNat != 11

/-- Whether a `*` between two characters is free: both are spacing. -/
def freeStar (before after : Option Char) : Bool :=
  holds isOuter before && holds isOuter after

/-- Whether a character is part of a word. -/
def isInner (c : Char) : Bool := !isOuter c && !isPunctuationOrSymbol c

/-- Whether a `_` between two characters is free: both are spacing, or both part of a word. -/
def freeUnderscore (before after : Option Char) : Bool :=
  freeStar before after || (holds isInner before && holds isInner after)

/-- Escapes every `<` but those before a space; the character behind an escaped one is left
alone. -/
def escapeAngles : List Char → List Char
  | [] => []
  | [c] => if c = '<' then ['\\', c] else [c]
  | c :: d :: cs =>
    if c ≠ '<' ∨ d = ' ' then c :: escapeAngles (d :: cs) else '\\' :: c :: d :: escapeAngles cs

/-- Escapes what would be read as a character reference. -/
def escapeReferences : List Char → List Char
  | [] => []
  | c :: cs =>
    if c = '&' ∧ (charRef? cs).isSome then '\\' :: c :: escapeReferences cs
    else c :: escapeReferences cs

/-! ## 2. Brackets

A pair of brackets is a link if a definition has its label.  Which labels have definitions is known
from the references that came before, and from no others. -/

/-- Whether a character may not follow a free pair of brackets. -/
def opensTarget (c : Char) : Bool := c == '(' || c == ':'

/-- Reads a free pair of brackets after the opening one: what is inside, and what follows.  A pair
around one of the labels is not free. -/
def freePair? (labels : List (List Char)) (cs : List Char) : Option (List Char × List Char) :=
  let inside := cs.takeWhile (fun c => c != '[' && c != ']')
  match cs.drop inside.length with
  | ']' :: after =>
    if labels.contains (uppercase inside) || holds opensTarget after.head? then none
    else some (inside, after)
  | _ => none

/-- Escapes brackets that are no free pair, given the labels that references so far have named;
`closing` is how many characters are left at the end of the free pair that is open. -/
def escapeBrackets (labels : List (List Char)) : (closing : Option Nat) → List Char → List Char
  | _, [] => []
  | closing, c :: cs =>
    if c = '[' then
      match freePair? labels cs with
      | some (_, after) => c :: escapeBrackets labels (some after.length) cs
      | none => '\\' :: c :: escapeBrackets labels none cs
    else if c = ']' ∧ closing ≠ some cs.length then
      '\\' :: c :: escapeBrackets labels closing cs
    else c :: escapeBrackets labels closing cs

/-! ## 3. Texts

The order matters: backslashes come first, as otherwise those of later rules would be escaped once
more. -/

/-- Two line feeds in a row as character references. -/
def referFeeds : List Char → List Char
  | '\n' :: '\n' :: cs => "&#10;&#10;".toList ++ referFeeds cs
  | c :: cs => c :: referFeeds cs
  | [] => []

/-- A text as it is written, given the labels that references so far have named. -/
def escapeText (labels : List (List Char)) (value : List Char) : List Char :=
  let text := escapeBackslashes (collapseSpaces false value)
  let text := escapeMark '_' freeUnderscore none (escapeMark '*' freeStar none text)
  let text := escapeAngles (escapeBrackets labels none text)
  referFeeds (escapeReferences (escapeMark '\x60' (fun _ _ => false) none text))

/-! ## 4. Lines of a paragraph

What would be another block at the start of a line is escaped there, when the paragraph is put
together. -/

/-- Whether a text may follow the marker of a heading or item. -/
def followsMarker : List Char → Bool
  | [] => true
  | c :: _ => isSpaceOrTab c

/-- Whether a line would be read as a heading, a quotation or an item with a bullet. -/
def beginsLikeBlock (line : List Char) : Bool :=
  let hashes := (line.takeWhile (· == '#')).length
  match line with
  | [] => false
  | c :: rest =>
    c == '>' || ((c == '-' || c == '*' || c == '+') && followsMarker rest)
      || (1 ≤ hashes && hashes ≤ 6 && followsMarker (line.drop hashes))

/-- Whether a line would be read as a rule or as the underline of a heading. -/
def looksLikeRule (line : List Char) : Bool :=
  let marks := line.filter (fun c => !isSpaceOrTab c)
  (3 ≤ marks.length && ['*', '-', '_'].any (fun mark => marks.all (· == mark)))
    || (!line.isEmpty && (line.all (· == '-') || line.all (· == '=')))

/-- Escapes what would make a line the beginning of another block. -/
def escapeLine (line : List Char) : List Char :=
  if beginsLikeBlock line then '\\' :: line
  else
    let digits := line.takeWhile Char.isDigit
    match line.drop digits.length with
    | c :: rest =>
      if !digits.isEmpty && (c == '.' || c == ')') && followsMarker rest then
        digits ++ '\\' :: c :: rest
      else if looksLikeRule line then '\\' :: line
      else line
    | [] => if looksLikeRule line then '\\' :: line else line

end TaskNotes.Format
