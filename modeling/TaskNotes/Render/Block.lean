/-
# Blocks

How a document is written.  Blocks stand apart by an empty line, the items of a tight list by a
line feed only; the content of a list item is indented by the width of its marker and that of a
quotation carries `>`.  Inline nodes that stand among blocks make a paragraph of their own, run
by run.

Two neighbouring lists of one kind would be read as one, so their markers alternate: `-` with
`*`, and a full stop after the number with a parenthesis.

The children of a node are gone through once, with what has to be remembered of those before
(`Siblings`).  An item is written as a block and put behind its marker by the list that it is in;
an item that stands among other blocks brings a bullet of its own.  What is written as nothing
leaves no empty lines behind.
-/
import TaskNotes.Render.Inline
import TaskNotes.Mark.Box

namespace TaskNotes

/-! ## 1. Pieces

How each kind of block is written, given what it holds. -/

/-- A fenced block of code.  The fence is longer than any run inside, and of tildes when the
info string holds a backtick. -/
def renderCode (lang : Option String) (value : List Char) : List Char :=
  let info := (lang.getD "").toList
  let mark := if info.contains '`' then '~' else '`'
  let fence := List.replicate (max 3 (longestRun mark value + 1)) mark
  if value.isEmpty then fence ++ info ++ '\n' :: fence
  else fence ++ info ++ '\n' :: value ++ '\n' :: fence

/-- A quotation of a text. -/
def quoteLines (content : List Char) : List Char :=
  mapLines (fun line => if line.isEmpty then ['>'] else '>' :: ' ' :: line) content

/-- A text behind a marker, its other lines indented by the width of the marker. -/
def indentBehind (marker content : List Char) : List Char :=
  if content.isEmpty then dropEndWhile isBlank marker
  else
    match splitLines content with
    | [] => marker
    | first :: others =>
      let margin := List.replicate marker.length ' '
      joinLines ((marker ++ first)
        :: others.map (fun line => if line.isEmpty then [] else margin ++ line))

/-- Whether the content of a list item would be read as one with a box. -/
def looksLikeBox : List Char → Bool
  | '[' :: c :: ']' :: rest =>
    (c == ' ' || c == 'x' || c == 'X') && (endsMarker rest || rest == ['\n'])
  | _ => false

/-- The content of a list item, with its box. -/
def boxedContent (checked : Option Bool) (content : List Char) : List Char :=
  match checked with
  | none => if looksLikeBox content then '\\' :: content else content
  | some checked =>
    let box := (BoxState.ofChecked checked).marker
    if content.isEmpty then box else box ++ ' ' :: content

/-- What stands between the blocks of an item and between the items of a list. -/
def gap (spread : Bool) : List Char := if spread then ['\n', '\n'] else ['\n']

/-- The marker of an item, given how many items precede it. -/
def itemMarker (ordered : Bool) (start : Option Int) (alternate : Bool) (offset : Nat) :
    List Char :=
  if ordered then
    decimalInt (start.getD 1 + offset) ++ [if alternate then ')' else '.', ' ']
  else [if alternate then '*' else '-', ' ']

/-- A heading with the given content. -/
def renderHeading (depth : Depth) (content : List Char) : List Char :=
  let marks := List.replicate depth.val '#'
  if content.isEmpty then marks
  else marks ++ ' ' :: content.map (fun c => if c = '\n' then ' ' else c)

/-- A leaf among blocks. -/
def renderBlockLeaf : Leaf → List Char
  | .code lang value => renderCode lang value.toList
  | .html value => value.toList
  | .thematicBreak => ['*', '*', '*']
  | _ => []

/-- Puts blocks together; empty ones leave no trace. -/
def joinBlocks (separator : List Char) (blocks : List (List Char)) : List Char :=
  joinWith separator (blocks.filter (fun b => !b.isEmpty))

/-! ## 2. Neighbours

A list takes the alternate markers if the block before it, inline nodes aside, is a list of the
same kind that has not taken them. -/

/-- What is remembered while the children of a node are written: whether the block before is an
ordered or an unordered list, whether it took the alternate markers, and the run of inline nodes
that has been written so far, with whether its next part begins a line. -/
structure Siblings where
  previousList : Option Bool
  alternate : Bool
  run : Option (List Char × Bool)

namespace Siblings

/-- Before the first child. -/
def start : Siblings := ⟨none, false, none⟩

/-- The block that an open run of inline nodes makes. -/
def flush (s : Siblings) : List (List Char) :=
  match s.run with
  | some (written, _) => [tidyLines written]
  | none => []

/-- Whether the next inline node begins a line. -/
def atLineStart (s : Siblings) : Bool :=
  match s.run with
  | some (_, lineStart) => lineStart
  | none => true

/-- After one more inline node. -/
def extend (s : Siblings) (written : List Char) : Siblings :=
  let before := (s.run.map (·.1)).getD []
  { s with run := some (before ++ written, beginsLineAfter s.atLineStart written) }

/-- Whether a list that comes next takes the alternate markers. -/
def alternates (s : Siblings) (ordered : Bool) : Bool :=
  s.previousList == some ordered && !s.alternate

/-- After a block. -/
def after (s : Siblings) (c : Node) : Siblings :=
  match c with
  | .branch (.list ordered _ _) _ => ⟨some ordered, s.alternates ordered, none⟩
  | _ => ⟨none, s.alternate, none⟩

end Siblings

/-- Where a block stands: among other blocks, a list with the usual or the alternate markers; or
directly in a list, which supplies the marker. -/
inductive Place
  | amongBlocks (alternate : Bool)
  | inList

namespace Place

/-- Whether a list takes the alternate markers. -/
def alternate : Place → Bool
  | .amongBlocks alternate => alternate
  | .inList => false

/-- The content of a list item, behind a marker of its own when no list supplies one. -/
def mark : Place → List Char → List Char
  | .amongBlocks _, content => indentBehind ['-', ' '] content
  | .inList, content => content

end Place

/-- Where the next block stands. -/
def Siblings.place (s : Siblings) (c : Node) : Place :=
  match c with
  | .branch (.list ordered _ _) _ => .amongBlocks (s.alternates ordered)
  | _ => .amongBlocks false

/-! ## 3. Documents

By recursion on the tree, with siblings and items in functions of their own. -/

mutual
/-- A block. -/
def renderBlock (place : Place) : Node → List Char
  | .leaf kind => renderBlockLeaf kind
  | .branch kind cs =>
    match kind with
    | .root => joinBlocks (gap true) (renderBlocks .start cs)
    | .heading depth => renderHeading depth (tidyLines (renderInlines false cs))
    | .paragraph => tidyLines (renderInlines true cs)
    | .blockquote => quoteLines (joinBlocks (gap true) (renderBlocks .start cs))
    | .list ordered start spread =>
      joinWith (gap spread) (renderItems (itemMarker ordered start place.alternate) 0 cs)
    | .listItem checked spread =>
      place.mark (boxedContent checked (joinBlocks (gap spread) (renderBlocks .start cs)))
    | _ => []

/-- The blocks that the children of a node make, empty ones included. -/
def renderBlocks (s : Siblings) : List Node → List (List Char)
  | [] => s.flush
  | c :: cs =>
    if c.isPhrasing then renderBlocks (s.extend (renderInline s.atLineStart c)) cs
    else s.flush ++ renderBlock (s.place c) c :: renderBlocks (s.after c) cs

/-- The items of a list, each behind its marker. -/
def renderItems (marker : Nat → List Char) (offset : Nat) : List Node → List (List Char)
  | [] => []
  | c :: cs =>
    let item := if c.isPhrasing then tidyLines (renderInline true c) else renderBlock .inList c
    indentBehind (marker offset) item :: renderItems marker (offset + 1) cs
end

/-- The text of a document: its blocks and a line feed, or nothing at all when there is nothing
but blanks. -/
def renderDocument (children : List Node) : List Char :=
  let body := joinBlocks (gap true) (renderBlocks .start children)
  if allBlank body then [] else trimBoth isLineFeed body ++ ['\n']

/-- The text of a tree. -/
def Node.render (tree : Node) : String := String.ofList (renderDocument tree.children)

end TaskNotes
