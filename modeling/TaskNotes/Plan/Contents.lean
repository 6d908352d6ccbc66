/-
# Tables of contents

A table of contents links to every document of a run, each under its path from the root, in the
natural order of the links.  The document that holds the table is marked.

A link is written for the directory of the document that holds the table, and its label is written
for the root, so that the labels of a table are the same in whatever document it stands.

Items are sorted by their URLs, as they are read from the directory of the table.  Numerals in them
are compared as numbers, and so a name with a numeral that is too long to be read makes the whole
table fail.
-/
import TaskNotes.Plan.Index

namespace TaskNotes

/-- The label of a document: its path from the root, without the extension. -/
def contentsLabel (root path : Path) : List Char :=
  let label := (path.relativeTo root).toList
  (dropEnd? documentExtension label).getD label

/-- The URL of a document as seen from a table of contents. -/
def contentsUrl (toc path : Path) : List Char := encodePath (path.relativeTo toc.parent).toList

/-- The mark of the document that holds the table. -/
def thisFileMark : List Node := [.text " ", .emphasis [.text "(this file)"]]

/-- The item of a document. -/
def contentsItem (root toc path : Path) : Node :=
  let link := .link (String.ofList (contentsUrl toc path)) none
    [.text (String.ofList (contentsLabel root path))]
  .listItem none false [.paragraph (link :: if path = toc then thisFileMark else [])]

/-- The table of contents in a document: a list with one item for each write, in the natural order
of the URLs. -/
def createContents (root toc : Path) (writes : List Write) : Except NumeralError Node := do
  let paths ← naturalSort (contentsUrl toc) (writes.map Write.path)
  pure (.list false none false (paths.map (contentsItem root toc)))

/-- Brings the tables of contents in all writes up to date. -/
def refillContents (formatted : Bool) (root : Path) (commands : List Command) :
    Except NumeralError (List Command) :=
  refillRegion formatted tocRegion
    (fun path => (createContents root path (writesOf commands)).map ([·])) commands

end TaskNotes
