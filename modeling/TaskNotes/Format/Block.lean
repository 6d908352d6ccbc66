/-
# Canonical blocks

How a document is written in canonical markup (`format`).  Rules are lines of underscores, code
is always fenced, ordered items count on from the first number in markers of one width, and the
definitions that references name stand at the end.

Formatting has its own reader and its own writer, and never goes through the tree of a document:
the source of a text is read as blocks and spans, and these are written in one fixed way.  Whatever
can be written in several ways in a source is written in one here.
-/
import TaskNotes.Format.Inline
import TaskNotes.Format.Box
import TaskNotes.Markup.Document
import TaskNotes.Render.Block

namespace TaskNotes.Format

open Markup

/-! ## 1. Blocks that hold no blocks

Blanks at the ends of a text would be lost, so there they are written as character references. -/

/-- A rule. -/
def rule : List Char := List.replicate 70 '_'

/-- A block of code; its lines end with line feeds. -/
def code (info value : List Char) : List Char :=
  let mark := if info.contains '\x60' then '~' else '\x60'
  let fence := List.replicate (max 3 (longestRun mark value + 1)) mark
  fence ++ info ++ '\n' :: value ++ fence

/-- A heading. -/
def heading (depth : Depth) (content : List Char) : List Char :=
  let line := content.map (fun c => if c = '\n' then ' ' else c)
  let line := if line.getLast? = some '#' then line.dropLast ++ ['\\', '#'] else line
  List.replicate depth.val '#' ++ ' ' :: line

/-- The character reference of a character. -/
def reference (c : Char) : List Char := '&' :: '#' :: decimal c.toNat ++ [';']

/-- A text that neither begins nor ends with a blank. -/
def referBlankEnds (cs : List Char) : List Char :=
  let tail := fun (cs : List Char) =>
    match cs.getLast? with
    | some c => if isOuter c then cs.dropLast ++ reference c else cs
    | none => cs
  match cs with
  | [] => []
  | c :: rest => if isOuter c then tail (reference c ++ rest) else tail (c :: rest)

/-- A line of a paragraph; one that would begin a block of HTML is indented. -/
def paragraphLine (line : List Char) : List Char :=
  let line := escapeLine (trimBlanks line)
  if ((HtmlBlock.ofLine? line).map HtmlBlock.interrupts).getD false then
    [' ', ' ', ' ', ' '] ++ line
  else line

/-- A paragraph. -/
def paragraph (content : List Char) : List Char :=
  mapLines paragraphLine (referBlankEnds content)

/-! ## 2. Lists

The markers of an ordered list are filled up with zeros in front, so that the contents of all items
are indented alike. -/

/-- The width of the markers of an ordered list. -/
def numberWidth (start count : Nat) : Nat := (decimal (start + count - 1)).length

/-- The marker of an item, given how many items the list has and how many precede it. -/
def itemMarker (start : Option Nat) (alternate : Bool) (count position : Nat) : List Char :=
  match start with
  | some start =>
    let digits := decimal (start + position)
    List.replicate (numberWidth start count - digits.length) '0' ++ digits
      ++ [if alternate then ')' else '.', ' ']
  | none => [if alternate then '*' else '-', ' ']

/-- An item behind its marker; no blank follows a marker that is alone on its line. -/
def behindMarker (marker content : List Char) : List Char :=
  let text := indentBehind marker content
  if content.head? = some '\n' then dropEndWhile isBlank marker ++ text.drop marker.length
  else text

/-- Puts the items of a list behind their markers. -/
def items (separator : List Char) (marker : Nat → List Char) (contents : List (List Char)) :
    List Char :=
  joinWith separator (contents.mapIdx fun position content =>
    behindMarker (marker position) content)

/-- Whether no paragraph directly in an item stands apart. -/
def isTight (tight : Bool) (items : List (List (Block Inline))) : Bool :=
  tight || !items.any (fun item => item.any Block.isParagraph)

/-- How many lists of one kind have just been written one after the other: whether they are
ordered, and whether the last one has the alternate markers. -/
abbrev Streak := Option (Bool × Bool)

/-- Whether a list that comes next takes the alternate markers. -/
def alternates (streak : Streak) (ordered : Bool) : Bool := streak == some (ordered, false)

/-- The streak after a block. -/
def after (streak : Streak) : Block Inline → Streak
  | .list start _ _ => some (start.isSome, alternates streak start.isSome)
  | .definition _ => streak
  | _ => none

/-! ## 3. Labels in use

Definitions that no reference names are not written. -/

mutual
/-- The labels that the references in a block name. -/
def labelsOfBlock : Block Inline → List (List Char)
  | .heading _ content | .paragraph content => labelsOfAll false content.spans
  | .quotation children => labelsOfBlocks children
  | .list _ _ contents => labelsOfItems contents
  | _ => []

/-- The labels that the references in several blocks name. -/
def labelsOfBlocks : List (Block Inline) → List (List Char)
  | [] => []
  | b :: bs => labelsOfBlock b ++ labelsOfBlocks bs

/-- The labels that the references in the items of a list name. -/
def labelsOfItems : List (List (Block Inline)) → List (List Char)
  | [] => []
  | item :: others => labelsOfBlocks item ++ labelsOfItems others
end

/-! ## 4. Blocks -/

/-- Lines of a quotation. -/
def quote (content : List Char) : List Char :=
  match brokenLines content with
  | [] => ['>']
  | lines => joinLines (lines.map fun line => if line.isEmpty then ['>'] else '>' :: ' ' :: line)

mutual
/-- A block after a streak of lists, given the labels that references so far have named. -/
def block (labels : List (List Char)) (streak : Streak) : Block Inline → List Char
  | .indentedCode value => code [] value
  | .fencedCode info value => code (trimBlanks info) value
  | .html source => dropEndWhile isLineFeed source |>.dropWhile isBlank
  | .rule => rule
  | .heading depth content => heading depth (spans labels true content.spans)
  | .paragraph content => paragraph (spans labels false content.spans)
  | .quotation children => quote (joinBlocks (gap true) (blocks labels none children))
  | .list start tight contents =>
    let separator := gap (!isTight tight contents)
    let marker := itemMarker start (alternates streak start.isSome) contents.length
    items separator marker (itemContents labels separator contents)
  | .definition _ => []

/-- Several blocks. -/
def blocks (labels : List (List Char)) (streak : Streak) : List (Block Inline) → List (List Char)
  | [] => []
  | b :: bs =>
    block labels streak b :: blocks (labels ++ labelsOfBlock b) (after streak b) bs

/-- The contents of the items of a list. -/
def itemContents (labels : List (List Char)) (separator : List Char) :
    List (List (Block Inline)) → List (List Char)
  | [] => []
  | item :: others =>
    let content := joinBlocks separator (blocks labels none item)
    (if allBlank content then [] else content)
      :: itemContents (labels ++ labelsOfBlocks item) separator others
end

/-! ## 5. Definitions in use

They are sorted by label, and labels that are numbers by their value. -/

/-- A label as definitions are sorted: numbers by their value, before letters. -/
def labelKey (label : List Char) : List Char :=
  if label.all Char.isDigit then List.replicate (1000 - label.length) '0' ++ label else label

/-- A definition. -/
def definition (d : Definition) : List Char :=
  '[' :: lowercase d.label ++ ']' :: ':' :: ' '
    :: (if d.address.isEmpty then ['<', '>'] else d.address) ++ title true d.title

/-- The definitions of labels, sorted by label. -/
def definitionLines (definitions : List Definition) (labels : List (List Char)) :
    List (List Char) :=
  let sorted := labels.eraseDups.mergeSort fun a b => (compare (labelKey a) (labelKey b)).isLE
  (sorted.filterMap (lookup? definitions)).map definition

/-! ## 6. Documents

Boxes are treated last, on the finished text. -/

/-- A document in canonical markup. -/
def document (d : Document) : List Char :=
  let labels := labelsOfBlocks d.blocks
  let body := joinBlocks (gap true) (blocks [] none d.blocks)
  let used := definitionLines d.definitions labels
  let text := if used.isEmpty then body else body ++ '\n' :: '\n' :: joinLines used
  if text.isEmpty then [] else text ++ ['\n']

/-- Formats a text; one of blanks alone becomes empty.  Boxes that had to be escaped are written
plainly again. -/
def format (text : String) : String :=
  if allBlank text.toList then ""
  else String.ofList (unescapeBoxes (document (readDocument false text.toList)))

end TaskNotes.Format
