/-
# Indexes of directories

The index of a directory lists the documents in it and the indexes of its subdirectories: first
those that are tasks, as a checklist, then the other directories and files.  A directory that
holds documents and has no index is given one.

Whether a document is a task is seen from its title: its first heading of depth one begins with a
box.  The state of the box is shown in the index, and the document is listed under the name of its
file.

Entries are sorted by their paths in natural order, and then each goes to one of three groups.  A
heading stands above the tasks, if there are any, and another between them and the rest.
-/
import TaskNotes.Plan.Output
import TaskNotes.Text.NaturalOrder
import TaskNotes.Url.Percent

namespace TaskNotes

/-! ## 1. Missing indexes

A directory needs an index if a document is written in it or below it.  Directories above the root
are not looked at. -/

/-- The content of a new index: a title, and an empty index region. -/
def newIndexContent (directory : Path) : String :=
  "# " ++ String.ofList directory.name ++ "\n\n" ++ beginMarker indexRegion ++ "\n\n"
    ++ endMarker indexRegion ++ "\n"

/-- The directories from a root down in which documents are written. -/
def writtenDirectories (root : Path) (writes : List Write) : List Path :=
  (writes.flatMap fun w => w.path.parents.filter (fun d => d.isWithin root)).eraseDups

/-- Adds an index for each directory that holds documents and has none.  The new indexes come
behind all other commands, in the natural order of their directories. -/
def addMissingIndexes (root : Path) (commands : List Command) :
    Except NumeralError (List Command) := do
  let writes := writesOf commands
  let missing := (writtenDirectories root writes).filter fun d =>
    !writes.any (fun w => w.path == d.child indexName)
  let missing ← naturalSort Path.toList missing
  pure (commands ++ missing.map fun d =>
    .write (.ofText (d.child indexName) (newIndexContent d)))

/-! ## 2. Entries

An index lists what lies beside it and, of a directory beside it, the index.  Whether a path is one
of these is told by the names of the way to it. -/

/-- What an entry of an index is. -/
inductive EntryKind
  | task (state : BoxState)
  | directory
  | file
deriving DecidableEq, Repr

/-- An entry of an index: its name, and its path from the directory of the index. -/
structure IndexEntry where
  kind : EntryKind
  name : List Char
  path : List Char
deriving DecidableEq, Repr

/-- Whether a path lies in the directory of an index, or is the index of a subdirectory, given
how it reads from that directory. -/
def isListed (relative : Path) : Bool :=
  match relative.names with
  | [] => true
  | [name] => name != parentName
  | [name, last] => name != parentName && last == indexName
  | _ => false

/-- Takes a text off the end of another. -/
def dropEnd? (ending text : List Char) : Option (List Char) :=
  if ending.isSuffixOf text then some (text.take (text.length - ending.length)) else none

/-- The name of an entry: its path without the extension, for the index of a directory the name
of the directory.  A line feed at the very end is not part of the extension. -/
def entryName (path : List Char) : List Char :=
  let (body, feed) := if path.getLast? = some '\n' then (path.dropLast, ['\n']) else (path, [])
  if body = indexName then feed
  else
    match dropEnd? ('/' :: indexName) body with
    | some name => name ++ feed
    | none =>
      match dropEnd? documentExtension body with
      | some name => name ++ feed
      | none => path

/-- The entry of a write in an index, if it is listed there.  It is a task if the title of the
document has a box, and else a directory if it is an index, and a file if not. -/
def entryOf? (index : Path) (w : Write) : Option IndexEntry :=
  let relative := w.path.relativeTo index.parent
  if w.path = index ∨ !isListed relative then none
  else
    let path := relative.toList
    let kind := match (w.tree.titleHeading?).bind Node.box? with
      | some state => EntryKind.task state
      | none => if ('/' :: indexName).isSuffixOf path then .directory else .file
    some ⟨kind, entryName path, path⟩

/-- The entries of an index, in natural order. -/
def indexEntries (index : Path) (writes : List Write) : Except NumeralError (List IndexEntry) :=
  naturalSort IndexEntry.path (writes.filterMap (entryOf? index))

/-! ## 3. The body of an index

The tasks are items of a list, and directories and files are lines of paragraphs. -/

/-- A link to a path. -/
def linkTo (path label : List Char) : Node :=
  .link (String.ofList (encodePath path)) none [.text (String.ofList label)]

/-- The item of a task.  A task in progress has its box in the text, because an item has no such
box. -/
def taskItem (entry : IndexEntry) (state : BoxState) : Node :=
  let link := linkTo entry.path entry.name
  match state with
  | .inProgress =>
    .listItem none false [.paragraph [.text (String.ofList (state.marker ++ [' '])), link]]
  | .unchecked => .listItem (some false) false [.paragraph [link]]
  | .checked => .listItem (some true) false [.paragraph [link]]

/-- A paragraph of lines. -/
def lineParagraph (lines : List (List Node)) : Node :=
  .paragraph ((lines.intersperse [.hardBreak]).flatten)

/-- The item of an entry that is a task. -/
def IndexEntry.taskItem? (entry : IndexEntry) : Option Node :=
  match entry.kind with
  | .task state => some (taskItem entry state)
  | _ => none

/-- The line of an entry that is a directory. -/
def IndexEntry.directoryLine? (entry : IndexEntry) : Option (List Node) :=
  match entry.kind with
  | .directory => some [linkTo entry.path ("📁 ".toList ++ entry.name), .text " /"]
  | _ => none

/-- The line of an entry that is a file. -/
def IndexEntry.fileLine? (entry : IndexEntry) : Option (List Node) :=
  match entry.kind with
  | .file => some [linkTo entry.path ("📄 ".toList ++ entry.name)]
  | _ => none

/-- The paragraph of some lines, if there are any. -/
def linesIfAny (lines : List (List Node)) : List Node :=
  if lines.isEmpty then [] else [lineParagraph lines]

/-- The body of the region that lists entries. -/
def indexBody (entries : List IndexEntry) : List Node :=
  let tasks := entries.filterMap IndexEntry.taskItem?
  let others := linesIfAny (entries.filterMap IndexEntry.directoryLine?)
    ++ linesIfAny (entries.filterMap IndexEntry.fileLine?)
  let checklist : List Node :=
    if tasks.isEmpty then []
    else [.heading Depth.two [.text "Tasks"], .list false none false tasks]
  let between : List Node :=
    if tasks.isEmpty ∨ others.isEmpty then []
    else [.heading Depth.three [.text "Other files"]]
  checklist ++ between ++ others

/-- The body of the index region of an index. -/
def createIndex (index : Path) (writes : List Write) : Except NumeralError (List Node) :=
  (indexEntries index writes).map indexBody

/-! ## 4. Plans

A region is filled in every write that has one, whatever its path; so an index region in any
document lists the directory of this document. -/

/-- The region of a name, with a given body. -/
def Regions.filled (name : String) (body : List Node) : Regions := ⟨[name], fun _ _ => body⟩

/-- Gives the region of a name in every write that has one the body that is made for its path. -/
def refillRegion (formatted : Bool) (name : String)
    (body : Path → Except NumeralError (List Node)) (commands : List Command) :
    Except NumeralError (List Command) :=
  commands.mapM fun command =>
    match command with
    | .delete path => pure (.delete path)
    | .write w =>
      if w.tree.containsRegion name then do
        let body ← body w.path
        pure (.write (w.withTree formatted (w.tree.replaceRegions (.filled name body))))
      else pure (.write w)

/-- Brings the index regions of all writes up to date. -/
def refillIndexes (formatted : Bool) (commands : List Command) :
    Except NumeralError (List Command) :=
  refillRegion formatted indexRegion (fun path => createIndex path (writesOf commands)) commands

end TaskNotes
