/-
# Trees of documents in markup

The document tree that a text in markup stands for (`Node.read`).  Neighbouring texts and soft
line breaks make one text node, definitions make none, and the box at the start of a list item
becomes a property of the item.

Everything that distinguishes two ways to write the same thing is gone in the tree: the marks of
emphasis, the bullets of lists, whether a link names its destination or a definition.  Rendering a
tree chooses anew.
-/
import TaskNotes.Markup.Document

namespace TaskNotes

namespace Markup

/-! ## 1. Spans

A text is put in front of what follows, and joins a text that stands there.  The text inside a link
is joined to nothing outside. -/

/-- Puts a text in front of nodes. -/
def prependText (value : String) (nodes : List Node) : List Node :=
  if value.isEmpty then nodes
  else
    match nodes with
    | .text more :: others => .text (value ++ more) :: others
    | _ => .text value :: nodes

mutual
/-- Puts the node of a span in front of others. -/
def Span.prepend (others : List Node) : Span → List Node
  | .text value => prependText (String.ofList value) others
  | .softBreak => prependText "\n" others
  | .hardBreak => .hardBreak :: others
  | .code value => .inlineCode (String.ofList value) :: others
  | .html source => .html (String.ofList source) :: others
  | .emphasis _ children => .emphasis (spanNodes children) :: others
  | .strong _ children => .strong (spanNodes children) :: others
  | .strike children => .delete (spanNodes children) :: others
  | .link target children =>
    .link (String.ofList target.address) (target.title.map String.ofList) (spanNodes children)
      :: others
  | .autolink address shown =>
    .link (String.ofList address) none (prependText (String.ofList shown) []) :: others
  | .image target source _ =>
    .image (String.ofList target.address) (target.title.map String.ofList)
      (String.ofList source) :: others

/-- The nodes of a line. -/
def spanNodes : List Span → List Node
  | [] => []
  | s :: ss => s.prepend (spanNodes ss)
end

/-! ## 2. Boxes of list items

Two things are asked: that the source begins with a box as it is written, because an escaped one
must not count, and that the text of the node does, because there it is taken off.

What is left of the text is put back as it is, and an empty rest is left out. -/

/-- Reads the box of an item at the start of a text: whether it is checked, and what follows it
and its gap, which is a run of spaces and tabs or a line feed. -/
def itemBox? : List Char → Option (Bool × List Char)
  | '[' :: mark :: ']' :: gap :: rest =>
    if mark = ' ' ∨ mark = 'x' ∨ mark = 'X' then
      if isSpaceOrTab gap then some (mark != ' ', rest.dropWhile isSpaceOrTab)
      else if gap = '\n' then some (mark != ' ', rest)
      else none
    else none
  | _ => none

/-- Whether the first paragraph of an item begins with a box as it is written. -/
def beginsWithBox : List (Block Inline) → Bool
  | [] => false
  | .definition _ :: others => beginsWithBox others
  | .paragraph content :: _ => (itemBox? content.source).isSome
  | _ :: _ => false

/-- Takes the box off the first paragraph of an item.  A box that nothing follows is text. -/
def splitBox (nodes : List Node) : Option Bool × List Node :=
  match nodes with
  | .paragraph (.text value :: others) :: blocks =>
    match itemBox? value.toList with
    | some (checked, rest) =>
      if rest.isEmpty ∧ others.isEmpty then (none, nodes)
      else
        let left := if rest.isEmpty then others else .text (String.ofList rest) :: others
        (some checked, .paragraph left :: blocks)
    | none => (none, nodes)
  | _ => (none, nodes)

/-! ## 3. Blocks

By recursion on the blocks.  A list stands apart if one of its items does. -/

/-- The node of a list item. -/
def itemNode (tight : Bool) (blocks : List (Block Inline)) (children : List Node) : Node :=
  let spread := !tight && blocks.any Block.isParagraph
  let (checked, children) := if beginsWithBox blocks then splitBox children else (none, children)
  .listItem checked spread children

/-- Whether an item of a list stands apart. -/
def isSpreadItem : Node → Bool
  | .listItem _ spread _ => spread
  | _ => false

mutual
/-- The node of a block. -/
def Block.node? : Block Inline → Option Node
  | .indentedCode value => some (.code none (String.ofList (dropLastFeed value)))
  | .fencedCode info value =>
    some (.code ((nonEmpty? (trimBlanks info)).map String.ofList)
      (String.ofList (dropLastFeed value)))
  | .html source => some (.html (String.ofList (dropEndWhile isLineFeed source)))
  | .rule => some .thematicBreak
  | .heading depth content => some (.heading depth (spanNodes content.spans))
  | .paragraph content => some (.paragraph (spanNodes content.spans))
  | .quotation children => some (.blockquote (blockNodes children))
  | .list start tight items =>
    let nodes := itemNodes tight items
    some (.list start.isSome (start.map Int.ofNat) (nodes.any isSpreadItem) nodes)
  | .definition _ => none

/-- The nodes of several blocks. -/
def blockNodes : List (Block Inline) → List Node
  | [] => []
  | b :: bs => b.node?.toList ++ blockNodes bs

/-- The nodes of the items of a list. -/
def itemNodes (tight : Bool) : List (List (Block Inline)) → List Node
  | [] => []
  | item :: items => itemNode tight item (blockNodes item) :: itemNodes tight items
end

/-- The node of a document. -/
def Document.node (document : Document) : Node := .root (blockNodes document.blocks)

end Markup

/-- Reads a document tree from a text. -/
def Node.read (text : String) : Node := (Markup.readDocument true text.toList).node

end TaskNotes
