/-
# Plans

From the documents of a directory to the commands that bring it up to date.  All documents draw
their identifiers from one allocator; then links follow renamed files, one command is left for
each path, missing indexes are added, and the index regions and tables of contents are filled.

The order of the passes matters.  Links are brought up to date before commands are merged, because
a merged write holds several documents and is read from no path of its own.  Indexes are added
after merging, so that none is added where a document goes; and regions are filled last, because
what they list are the paths of all writes, those of the added indexes included.

Nothing is read from the disk here and nothing is written.  A plan is a list of commands, computed
from the paths and texts of the documents alone, and what it does to the disk is told in `Run`.  It
can fail in two ways: the name of the project is refused, or a numeral is too long to be read or
written.
-/
import TaskNotes.Plan.Links
import TaskNotes.Plan.Merge
import TaskNotes.Plan.Index
import TaskNotes.Plan.Contents
import TaskNotes.Task.Record

namespace TaskNotes

/-! ## 1. Transforming documents

Documents are taken in the order in which they are given, and each hands the allocator on to the
next; so a number that is drawn for one is not drawn for another. -/

/-- A document of a run: its path and its text. -/
structure Source where
  path : Path
  text : String
deriving DecidableEq

/-- What a plan can be given besides the documents. -/
structure PlanOptions where
  formatted : Bool
  addsIndexes : Bool

/-- Transforms trees one after the other with one allocator. -/
def transformAll (formatted : Bool) (root : Path) :
    Allocator → List (Path × Node) → Except NumberingError (List Step × Allocator)
  | allocator, [] => .ok ([], allocator)
  | allocator, (path, tree) :: others => do
    let (steps, allocator) ← transformDocument formatted .kept root path allocator tree
    let (later, allocator) ← transformAll formatted root allocator others
    pure (steps ++ later, allocator)

/-! ## 2. Plans -/

/-- The commands for transformed documents: links follow renames, commands about one path are
merged, missing indexes are added if the options say so, and then the indexes and the tables of
contents are filled, in this order. -/
def settleSteps (options : PlanOptions) (root : Path) (steps : List Step) :
    Except NumeralError (List Command) := do
  let commands := mergeCommands (relinkCommands options.formatted steps)
  let commands ← if options.addsIndexes then addMissingIndexes root commands else pure commands
  let commands ← refillIndexes options.formatted commands
  refillContents options.formatted root commands

/-- The commands for documents, and the allocator as it is afterwards.  The allocator starts from
the numbers in all documents before the first of them is numbered. -/
def planCommands (options : PlanOptions) (name : String) (root : Path) (sources : List Source) :
    Except NumberingError (List Command × Allocator) := do
  let trees := sources.map fun s => (s.path, Node.read s.text)
  let allocator ← Allocator.ofTrees name (trees.map (·.2))
  let (steps, allocator) ← transformAll options.formatted root allocator trees
  let commands ← ofNumeral (settleSteps options root steps)
  pure (commands, allocator)

/-! ## 3. Tasks of a plan

The tasks that are listed after a run are those of the documents that the plan writes, and not
those of the documents that were read. -/

/-- The tasks of documents, each with the path of its document. -/
def corpusTasks {α : Type} (name : String) (documents : List (α × Node)) :
    Except NumberingError (List (α × TaskRecord)) := do
  let found ← documents.mapM fun (path, tree) => do
    let project ← checkProject name
    pure ((tree.tasks project).map fun task => (path, task))
  pure found.flatten

/-- The tasks in the documents that commands write. -/
def tasksOfCommands (name : String) (commands : List Command) :
    Except NumberingError (List (Path × TaskRecord)) :=
  corpusTasks name ((writesOf commands).map fun w => (w.path, w.tree))

end TaskNotes
