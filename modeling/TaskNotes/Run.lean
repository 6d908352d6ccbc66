/-
# Runs

A run brings the documents below a directory up to date.  The path of the directory is resolved,
the documents below it are listed and read, and a plan is made for all of them; then the commands
that would change nothing are left out.  `planRun` does this and only looks at the disk.  After that
the commands are applied, unless the run is dry, so that whatever goes wrong before leaves the disk
as it was.

Commands are applied side by side.  When one of them fails, those that are under way by then are
still finished and no others are begun; what has been done is not taken back.

A run has the disk to itself: nothing else changes it meanwhile.  How deep the recursions of a run
may go is not limited here, and how long it takes is not told.

What is read and what is decided is told by functions of the disk, and what changes it is told
access by access (`Command.accesses`), since accesses of different commands can alternate.
`applyCommands` is one way to apply commands: each in one go, and after a failure those that are
under way by then.  The others are schedules, and are related to it in `Proofs/Schedules`.
-/
import TaskNotes.Disk
import TaskNotes.Plan

namespace TaskNotes

/-! ## 1. What is asked and what is answered

A run that fails gives its error and no result, whatever it has done to the disk by then. -/

/-- What a run is asked to do; `atOnce` commands are under way at most. -/
structure RunOptions where
  project : String
  plan : PlanOptions
  atOnce : Nat
  dry : Bool

/-- Why a run fails: while it reads, while it plans, or while it writes. -/
inductive RunError
  | reading (error : Disk.ReadError)
  | numbering (error : NumberingError)
  | writing (error : FileError)
deriving DecidableEq, Repr

/-- What is said about a run that fails. -/
def RunError.message : RunError → String
  | .reading error => error.message
  | .numbering error => error.message
  | .writing error => error.message

/-- What a run has found: the commands that change the disk, the tasks in all documents, and how
many identifiers are new. -/
structure RunResult where
  commands : List Command
  tasks : List (Path × TaskRecord)
  allocated : Nat
  applied : Bool
deriving DecidableEq

namespace RunResult

/-- The documents that are written. -/
def writes (r : RunResult) : List Write := writesOf r.commands

/-- The deletions. -/
def deletes (r : RunResult) : List Command := r.commands.filter Command.isDelete

end RunResult

/-! ## 2. Reading

A document that is listed and then not found would be passed over. -/

/-- The document at a path, if it is there. -/
def readSource? (disk : Disk) (path : Path) : Except RunError (Option Source) :=
  match disk.readText? path with
  | .ok text => .ok (text.map fun t => ⟨path, String.ofList t⟩)
  | .error e => .error (.reading e)

/-- The documents below a directory, in natural order. -/
def readSources (disk : Disk) (root : Path) : Except RunError (List Source) := do
  let paths ← (disk.documents root).mapError fun e => .reading (.file e)
  let sorted ← (ofNumeral (naturalSort Path.toList paths)).mapError .numbering
  let sources ← sorted.mapM (readSource? disk)
  pure (sources.filterMap id)

/-! ## 3. Commands that change something

A write is compared by the text that is shown, with its line ends made uniform, and not byte by
byte. -/

/-- Whether a command changes the disk: a write of another text than is there, or a deletion of
something that exists. -/
def Command.changes (disk : Disk) : Command → Except Disk.ReadError Bool
  | .write w => (disk.readText? w.path).map fun text => text != some w.content.toList
  | .delete path => (disk.exists? path).mapError .file

/-- The commands that change the disk. -/
def changingCommands (disk : Disk) (commands : List Command) :
    Except Disk.ReadError (List Command) :=
  commands.filterM (Command.changes disk)

/-- What a run would do: the commands that change something, with the tasks and the number of new
identifiers of the whole plan.  The disk is looked at and not changed. -/
def planRun (options : RunOptions) (directory : Path) (disk : Disk) :
    Except RunError RunResult := do
  let root ← (disk.resolve directory).mapError fun e => .reading (.file e)
  let sources ← readSources disk root
  let (planned, allocator) ←
    (planCommands options.plan options.project root sources).mapError .numbering
  let tasks ← (tasksOfCommands options.project planned).mapError .numbering
  let commands ← (changingCommands disk planned).mapError .reading
  pure ⟨commands, tasks, allocator.allocated, !options.dry⟩

/-! ## 4. Applying

The directories above a file are made before it is written, and both are accesses of their own. -/

/-- What a command does to the disk, access by access. -/
def Command.accesses : Command → List (Access Unit)
  | .write w =>
    [Disk.makeDirectories w.path.parent, Disk.putFile w.path (utf8 w.content.toList)]
  | .delete path => [discard (Disk.deleteFile path)]

/-- Applies a command. -/
def Command.apply (command : Command) : Access Unit := command.accesses.forM id

/-- Applies commands whose failures no longer matter. -/
def finishCommands (commands : List Command) : Access Unit :=
  commands.forM fun command => tryCatch command.apply fun _ => pure ()

/-- Applies commands.  When one fails, the next `atOnce` ones are under way. -/
def applyCommands (atOnce : Nat) : List Command → Access Unit
  | [] => pure ()
  | command :: others => do
    tryCatch command.apply fun e => do
      finishCommands (others.take atOnce)
      throw e
    applyCommands atOnce others

/-! ## 5. Runs -/

/-- A run over the documents below a directory. -/
def runDirectory (options : RunOptions) (directory : Path) :
    ExceptT RunError (StateM Disk) RunResult := do
  let result ← planRun options directory (← get)
  if result.applied then
    ExceptT.adapt .writing (applyCommands options.atOnce result.commands)
  pure result

end TaskNotes
