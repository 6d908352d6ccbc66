/-
# Listing tasks

The tasks of a tree are the headings and list items that carry both a box and an identifier.
Region bodies are left out, because generated listings repeat tasks of other documents.

A list item has its box beside its text and a heading in it, and so the text of a heading is taken
without the box and the blanks behind it.  The text is that of the whole heading or paragraph:
formatting is taken away, and code and links count with what they show.
-/
import TaskNotes.Task.Allocator
import TaskNotes.Task.Title
import TaskNotes.Region

namespace TaskNotes

/-- What carries a task. -/
inductive TaskKind
  | heading
  | listItem
deriving DecidableEq, Repr

/-- The name of a kind. -/
def TaskKind.name : TaskKind → String
  | .heading => "heading"
  | .listItem => "listItem"

/-- A task as it is found in a tree. -/
structure TaskRecord where
  id : String
  title : String
  state : BoxState
  kind : TaskKind
deriving DecidableEq, Repr

/-- The text of a list item: that of its first paragraph, or its first text. -/
def itemText : List Node → String
  | .paragraph cs :: _ => (Node.paragraph cs).plainText
  | .text value :: _ => value
  | _ => ""

/-- The task of a given kind and state whose text begins with an identifier. -/
def taskOfText? (project : ProjectId) (state : BoxState) (kind : TaskKind) (text : List Char) :
    Option TaskRecord :=
  (taskId? project text).map fun (id, rest) =>
    ⟨String.ofList id.toList, String.ofList (trimBlanks rest), state, kind⟩

/-- The task that a node carries: a heading whose first text begins with a box, or a list item with
a box, if an identifier of the project begins its text. -/
def Node.task? (project : ProjectId) : Node → Option TaskRecord
  | .heading depth cs =>
    match (Node.heading depth cs).box? with
    | some state =>
      let text := (dropBox (Node.heading depth cs).plainText.toList).dropWhile isBlank
      taskOfText? project state .heading text
    | none => none
  | .listItem (some checked) _ cs =>
    taskOfText? project (.ofChecked checked) .listItem (itemText cs).toList
  | _ => none

/-- The tasks of a tree, in document order. -/
def Node.tasks (project : ProjectId) (tree : Node) : List TaskRecord :=
  tree.authored.walk.filterMap (Node.task? project)

end TaskNotes
