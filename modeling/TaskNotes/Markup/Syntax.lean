/-
# Syntax trees of markup

What a text in markup says, construct by construct, in the words of its grammar: blocks that
hold blocks or a line of text, and spans inside a line.  A block is built over the type of its
inline content, which is source text first and spans once all definitions are known.

This is the syntax that the two readers share.  Formatting writes it again as it is, and reading a
document for its tasks makes a tree of it (`Markup/Tree`), in which several constructs are one kind
of node: the two sorts of code, and links, references and autolinks.
-/
import TaskNotes.Node
import TaskNotes.Markup.Target

namespace TaskNotes.Markup

/-- A part of a line. -/
inductive Span
  | text (value : List Char)
  | softBreak
  | hardBreak
  | code (value : List Char)
  | html (source : List Char)
  /-- Emphasised, by `*` or `_`. -/
  | emphasis (mark : Char) (children : List Span)
  | strong (mark : Char) (children : List Span)
  | strike (children : List Span)
  | link (target : Target) (children : List Span)
  /-- A link written as its address, and the text that is shown for it. -/
  | autolink (address shown : List Char)
  /-- An image, its description as written and as spans. -/
  | image (target : Target) (source : List Char) (children : List Span)
deriving Repr

/-- A block over a type of inline content. -/
inductive Block (α : Type)
  /-- Indented code; every line ends with a line feed. -/
  | indentedCode (value : List Char)
  /-- Fenced code: the info string and the lines, each with its line feed. -/
  | fencedCode (info value : List Char)
  | html (source : List Char)
  | rule
  | heading (depth : Depth) (content : α)
  | paragraph (content : α)
  | quotation (children : List (Block α))
  /-- A list, numbered from `start` if it is an ordered one.  In a tight list the paragraphs
  directly in an item are not set apart. -/
  | list (start : Option Nat) (tight : Bool) (items : List (List (Block α)))
  | definition (value : Definition)
deriving Repr

namespace Block

variable {α β : Type}

/-- Whether a block is a paragraph. -/
def isParagraph : Block α → Bool
  | .paragraph _ => true
  | _ => false

mutual
/-- The definitions in a block, in the order of the text. -/
def definitions : Block α → List Definition
  | .quotation children => definitionsOfAll children
  | .list _ _ items => definitionsOfItems items
  | .definition value => [value]
  | _ => []

/-- The definitions in several blocks. -/
def definitionsOfAll : List (Block α) → List Definition
  | [] => []
  | b :: bs => definitions b ++ definitionsOfAll bs

/-- The definitions in the items of a list. -/
def definitionsOfItems : List (List (Block α)) → List Definition
  | [] => []
  | item :: items => definitionsOfAll item ++ definitionsOfItems items
end

mutual
/-- The block with its inline content changed. -/
def map (f : α → β) : Block α → Block β
  | .indentedCode value => .indentedCode value
  | .fencedCode info value => .fencedCode info value
  | .html source => .html source
  | .rule => .rule
  | .heading depth content => .heading depth (f content)
  | .paragraph content => .paragraph (f content)
  | .quotation children => .quotation (mapAll f children)
  | .list start tight items => .list start tight (mapItems f items)
  | .definition value => .definition value

/-- Several blocks with their inline content changed. -/
def mapAll (f : α → β) : List (Block α) → List (Block β)
  | [] => []
  | b :: bs => map f b :: mapAll f bs

/-- The items of a list with their inline content changed. -/
def mapItems (f : α → β) : List (List (Block α)) → List (List (Block β))
  | [] => []
  | item :: items => mapAll f item :: mapItems f items
end

end Block

end TaskNotes.Markup
