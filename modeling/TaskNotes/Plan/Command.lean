/-
# Commands

What a run does to the disk, as data: documents to write and files to delete.  While a plan is
being made there are also renames, the intent that links to one path follow it to another.

A write keeps the tree of its content, because later passes read the tree, and the path its
content was read from, because links in it were authored there.

Text and tree go together: a write is made from a tree by rendering it (`Write.withTree`) or from a
text by reading it (`Write.ofText`), and the passes of a plan make writes in these two ways only.
-/
import TaskNotes.Path
import TaskNotes.Format.Block
import TaskNotes.Markup.Tree

namespace TaskNotes

/-! ## 1. Commands

A command is about one path.  What happens to other paths when it is carried out, such as the
making of directories, is left to the disk. -/

/-- A document to be written: where it goes, its text and the tree of its text, and the path it was
read from if that is another one. -/
structure Write where
  path : Path
  content : String
  tree : Node
  source : Option Path
deriving DecidableEq

/-- Where the content of a write was authored, which is where it goes unless it came from
elsewhere.  Its links are resolved from there. -/
def Write.origin (w : Write) : Path := w.source.getD w.path

/-- Something to be done to a file. -/
inductive Command
  | write (write : Write)
  | delete (path : Path)
deriving DecidableEq

namespace Command

/-- The path a command is about. -/
def path : Command → Path
  | .write w => w.path
  | .delete path => path

/-- The write that a command is. -/
def write? : Command → Option Write
  | .write w => some w
  | .delete _ => none

/-- Whether a command deletes. -/
def isDelete : Command → Bool
  | .write _ => false
  | .delete _ => true

end Command

/-- The writes among commands. -/
def writesOf (commands : List Command) : List Write := commands.filterMap Command.write?

/-! ## 2. Steps

Before links are brought up to date the renames are still needed, and they come along in the list
of steps. -/

/-- A step of a plan: a command, or the intent that links follow a file to its new path. -/
inductive Step
  | command (command : Command)
  | rename (source target : Path)
deriving DecidableEq

namespace Step

/-- The command that a step is. -/
def command? : Step → Option Command
  | .command c => some c
  | .rename _ _ => none

/-- The rename that a step is. -/
def rename? : Step → Option (Path × Path)
  | .command _ => none
  | .rename source target => some (source, target)

/-- What a step does, in words: an action, and what it is done to. -/
def describe : Step → String × String
  | .command (.write w) => ("write", w.path.toString)
  | .command (.delete path) => ("delete", path.toString)
  | .rename source target => ("update-links", source.toString ++ " -> " ++ target.toString)

end Step

/-! ## 3. Writing documents -/

/-- The text of a document, formatted or as it is rendered. -/
def writeDocument (formatted : Bool) (tree : Node) : String :=
  if formatted then Format.format tree.render else tree.render

/-- A write with another tree and its text. -/
def Write.withTree (formatted : Bool) (w : Write) (tree : Node) : Write :=
  { w with tree := tree, content := writeDocument formatted tree }

/-- The write of a text. -/
def Write.ofText (path : Path) (content : String) : Write :=
  ⟨path, content, .read content, none⟩

end TaskNotes
