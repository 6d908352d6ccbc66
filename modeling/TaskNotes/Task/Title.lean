/-
# Titles

The title of a document is the text of its first heading of depth one, without the box at its
start.  Formatting contributes only its text, and an empty title counts as none.

The heading may stand anywhere in the document, in a quotation or a list as well; the first one in
document order counts.  If its text is empty the document has no title, even if another heading of
depth one follows.
-/
import TaskNotes.Mark.Pattern
import TaskNotes.Node.Walk
import TaskNotes.Text.Blank

namespace TaskNotes

/-- Whether a node is a heading of depth one. -/
def Node.isTitleHeading : Node → Bool
  | .heading depth _ => depth == Depth.one
  | _ => false

/-- The first heading of depth one, in document order. -/
def Node.titleHeading? (tree : Node) : Option Node := tree.walk.find? Node.isTitleHeading

/-- The value of the text that stands first among nodes. -/
def firstText? : List Node → Option String
  | .text value :: _ => some value
  | _ => none

/-- The box at the start of the text of a node. -/
def Node.box? (node : Node) : Option BoxState :=
  match firstText? node.children with
  | some value => (TaskNotes.box? value.toList).map (·.1)
  | none => none

/-- A text without the box at its start. -/
def dropBox (cs : List Char) : List Char :=
  match box? cs with
  | some (_, rest) => rest
  | none => cs

/-- The title of a document. -/
def Node.title? (tree : Node) : Option String :=
  match tree.titleHeading? with
  | none => none
  | some found =>
    let title := trimBlanks (dropBox found.plainText.toList)
    if title.isEmpty then none else some (String.ofList title)

end TaskNotes
