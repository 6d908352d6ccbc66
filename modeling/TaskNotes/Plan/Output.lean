/-
# Where a document goes

A document is named after its title.  An index keeps its name and gives its title to its
directory, except for the index of the root, which stays; and a document without a usable title
stays as well.

A title is a line of text and a name is a part of a path, so some characters have to go: a null
character is dropped, a slash of either kind becomes a hyphen, and blanks at both ends are cut off.
What is left is refused if it is nothing but dots, as such names lead up or nowhere; the document
then stays where it is.

Where a document goes depends on its own path and title only.  Two documents can be sent to one
path, and this is settled when commands are merged.
-/
import TaskNotes.Plan.Command
import TaskNotes.Task.Numbering

namespace TaskNotes

/-! ## 1. Names -/

/-- The extension of documents. -/
def documentExtension : Name := ['.', 'm', 'd']

/-- The name of the index of a directory. -/
def indexName : Name := "index.md".toList

/-- The name that a title gives, if it can be one. -/
def fileName? (title : List Char) : Option Name :=
  let dashed := (title.filter (fun c => c.toNat ≠ 0)).map fun c =>
    if c = '/' ∨ c = '\\' then '-' else c
  let name := trimBlanks dashed
  if name.all (· == '.') then none else some name

/-- The path at which a document with a title is written: beside where it was, under the name that
the title gives.  The index of a directory renames its directory instead, unless that is the root.
-/
def outputPath (root input : Path) (title : Option String) : Path :=
  match title.bind (fun title => fileName? title.toList) with
  | none => input
  | some name =>
    if input.name = indexName then
      if input.parent = root then input else (input.parent.parent.child name).child indexName
    else input.parent.child (name ++ documentExtension)

/-! ## 2. Documents

A document that goes elsewhere is deleted where it was, and links are told to follow it. -/

/-- The steps for a document whose tasks have been numbered: a write where it is, or, if it goes
elsewhere, a delete, a write there and a rename. -/
def placeDocument (formatted : Bool) (root input : Path) (tree : Node) : List Step :=
  let output := outputPath root input tree.title?
  let content := writeDocument formatted tree
  if output = input then [.command (.write ⟨input, content, tree, none⟩)]
  else
    [.command (.delete input), .command (.write ⟨output, content, tree, some input⟩),
      .rename input output]

/-- Numbers the tasks of a document, and says what has to be done. -/
def transformDocument (formatted : Bool) (regions : Regions) (root input : Path)
    (allocator : Allocator) (tree : Node) : Except NumberingError (List Step × Allocator) := do
  let (tree, allocator) ← numberTree regions allocator tree
  pure (placeDocument formatted root input tree, allocator)

/-- Numbers the tasks of a text by itself. -/
def transformText (formatted : Bool) (name : String) (text : String) :
    Except NumberingError String :=
  (numberTreeAlone name .kept (.read text)).map (writeDocument formatted)

end TaskNotes
