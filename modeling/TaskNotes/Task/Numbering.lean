/-
# Numbering tasks

Every task gets a box and an identifier.  The box of a heading is part of its text,
`# [ ] TODO-1 Title`; that of a list item is a property of the item.  A placeholder asks for an
identifier, and so does a box without one.

Tasks are numbered in document order, a task before the tasks inside it.  What is not a task
stays as it is, and the bodies of regions are not looked at.

The text with which a task begins is all that numbering changes, and it is the first text of the
heading, the item or the first paragraph of the item.  A text that stands behind emphasis or a link
begins nothing; where an item with a box begins with no text, the identifier becomes a text of its
own.

That a text has an identifier is seen right at its start, behind a box and exactly one space in a
heading.  With more blanks it is not seen there, and a new identifier is put in front of it.
-/
import TaskNotes.Task.Allocator
import TaskNotes.Task.Title
import TaskNotes.Region

namespace TaskNotes

/-! ## 1. Texts of tasks

What is done is decided by how the text begins, in this order: box and identifier, box and
placeholder, box alone, identifier alone, placeholder alone. -/

/-- The box of a task that had none. -/
def newBox : List Char := BoxState.unchecked.marker

/-- The text of a heading with its box and identifier.  A placeholder gives way to an identifier, a
box without one gets one behind it, and an identifier or placeholder without a box gets a box; any
other text stays. -/
def numberHeadingText (project : ProjectId) (text : List Char) : Numbering (List Char) :=
  if (Pattern.boxAndTaskId project).starts text then pure text
  else
    match boxAndSpace? text with
    | some (state, inner) =>
      match placeholder? project inner with
      | some (_, rest) => do
        let id ← nextId
        pure (state.marker ++ ' ' :: id ++ rest)
      | none => numberBareBox state (' ' :: inner)
    | none =>
      match box? text with
      | some (state, rest) => numberBareBox state rest
      | none =>
        if (taskId? project text).isSome then pure (newBox ++ ' ' :: text)
        else
          match placeholder? project text with
          | some (_, rest) => do
            let id ← nextId
            pure (newBox ++ ' ' :: id ++ rest)
          | none => pure text
where
  /-- The text behind a box without an identifier, which is put between the two. -/
  numberBareBox (state : BoxState) (rest : List Char) : Numbering (List Char) := do
    let id ← nextId
    let spaced := if rest.isEmpty then [] else ' ' :: rest.dropWhile isSpaceOrTab
    pure (state.marker ++ ' ' :: id ++ spaced)

/-- The box and the text of a list item that begins with a text.  An identifier or a placeholder
makes the item a task if it was none, and a box asks for an identifier. -/
def numberItemText (project : ProjectId) (checked : Option Bool) (text : List Char) :
    Numbering (Option Bool × List Char) :=
  if (taskId? project text).isSome then pure (some (checked.getD false), text)
  else
    match placeholder? project text with
    | some (_, rest) => do
      let id ← nextId
      pure (some (checked.getD false), id ++ rest)
    | none =>
      match checked with
      | none => pure (none, text)
      | some checked => do
        let id ← nextId
        pure (some checked, id ++ ' ' :: text)

/-! ## 2. Leading texts

A tight list item may hold its text directly, without a paragraph. -/

/-- The text with which a list item begins, directly or in its first paragraph. -/
def leadingText? : List Node → Option String
  | .paragraph cs :: _ => firstText? cs
  | cs => firstText? cs

/-- Puts another text in the place of the first. -/
def replaceFirstText (value : List Char) : List Node → List Node
  | .text _ :: others => .text (String.ofList value) :: others
  | cs => cs

/-- Puts another text in the place of the leading one. -/
def replaceLeadingText (value : List Char) : List Node → List Node
  | .paragraph cs :: others => .paragraph (replaceFirstText value cs) :: others
  | cs => replaceFirstText value cs

/-- Puts a text in front of the content of a list item. -/
def insertLeadingText (value : List Char) : List Node → List Node
  | .paragraph cs :: others => .paragraph (.text (String.ofList value) :: cs) :: others
  | cs => .text (String.ofList value) :: cs

/-! ## 3. Trees

Numbering a tree is rebuilding it. -/

/-- Numbers a task.  Its new text is decided before its children are numbered. -/
def numberTask (project : ProjectId) : Visit Numbering := fun kind cs =>
  match kind with
  | .heading _ =>
    match firstText? cs with
    | some text => do
      let text ← numberHeadingText project text.toList
      pure (kind, replaceFirstText text)
    | none => pure (kind, id)
  | .listItem checked spread =>
    match leadingText? cs with
    | some text => do
      let (checked, text) ← numberItemText project checked text.toList
      pure (.listItem checked spread, replaceLeadingText text)
    | none =>
      if checked.isSome then do
        let id ← nextId
        pure (kind, insertLeadingText (id ++ [' ']))
      else pure (kind, id)
  | _ => pure (kind, id)

/-- The regions that are kept up to date, with the bodies they have. -/
def Regions.kept : Regions := ⟨regionNames, fun _ body => body⟩

/-- Numbers the tasks of a tree. -/
def Node.number (project : ProjectId) (regions : Regions) (tree : Node) : Numbering Node :=
  tree.rebuild regions (numberTask project)

/-- Numbers the tasks of a tree with an allocator. -/
def numberTree (regions : Regions) (allocator : Allocator) (tree : Node) :
    Except NumberingError (Node × Allocator) := do
  let project ← checkProject allocator.project
  ofNumeral ((tree.number project regions).run allocator)

/-- Numbers the tasks of a tree, going on from the numbers in use in it. -/
def numberTreeAlone (name : String) (regions : Regions) (tree : Node) :
    Except NumberingError Node := do
  let allocator ← Allocator.ofTrees name [tree]
  let (tree, _) ← numberTree regions allocator tree
  pure tree

end TaskNotes
