/-
# The program

Loads what a command line works on, runs the program on it and stores what has changed.  Of the
disk only so much is loaded as the program looks at: the file of settings, the way to the path, and
what is below it.  A link is loaded as what it leads to, and rights are left to the system, which
refuses to load or to store what it does not allow.

This is the outer layer, and the only part that does something to a system; all decisions are taken
by `runProgram`, which works on a disk that is a value.  So nothing is proved about this module,
and it is kept thin.

Settings are looked up under their names in capitals here, since an environment can be asked for a
variable but not for all of them.
-/
import TaskNotes.CommandLine

namespace TaskNotes.Main

/-! ## 1. Loading

A path is loaded with the directories above it.  The bytes of a file are read only if it is a
document or is named itself. -/

/-- The path of the current directory. -/
def currentPath : IO Path := do
  let here ← IO.currentDir
  pure (.ofString here.toString)

/-- What is at a path.  The bytes of a file are read only if they are wanted. -/
def load (wanted : Bool) (path : Path) : IO (List (Location × Entry)) := do
  let file := (← IO.currentDir) / path.toString
  let location := path.normalize.names
  if ← file.isDir then pure [(location, .directory)]
  else if ← file.pathExists then
    if wanted then
      let bytes ← IO.FS.readBinFile file
      pure [(location, .file bytes.toList)]
    else pure [(location, .file [])]
  else pure []

/-- What is on the way to a path, and the path itself. -/
def loadWay (path : Path) : IO (List (Location × Entry)) := do
  let way ← path.parents.mapM (load false)
  pure (way.flatten ++ (← load true path))

/-- What is below a path.  Only documents are ever read there. -/
def loadBelow (path : Path) : IO (List (Location × Entry)) := do
  let top := (← IO.currentDir) / path.toString
  if ← top.isDir then
    let found := (← top.walkDir).toList.map fun file => Path.ofString file.toString
    let entries ← found.mapM fun p => load (Disk.isDocumentName p.name) p
    pure entries.flatten
  else pure []

/-- What the environment says about a variable. -/
def lookup (name : String) : IO Variables := do
  let value ← IO.getEnv name
  pure (value.map fun text => (name, some text)).toList

/-- The variables of the environment that concern the program, named in capitals. -/
def loadVariables : IO Variables := do
  let names := ["ENV_FILE", "LOG_LEVEL", "PROJECT_ID", "FORMAT_OUTPUT",
    "SYNTHESIZE_MISSING_INDEXES", "MAX_CONCURRENT_IO"]
  let found ← names.mapM fun name => lookup ("MARKTASKS_" ++ name)
  pure found.flatten

/-- Standard input, if it is what the program works on. -/
def loadInput : Subject → IO String
  | .input => do
    let input ← IO.getStdin
    input.readToEnd
  | _ => pure ""

/-- The disk as far as the program looks at it. -/
def loadDisk (here : Path) (environment : Variables) (subject : Subject) : IO Disk := do
  let settings ← loadWay (here.join (.ofString (assignmentFile environment)))
  match subject with
  | .path text => do
    let path := here.join (.ofString text)
    let way ← loadWay path
    let below ← loadBelow path
    pure { entries := settings ++ way ++ below }
  | _ => pure { entries := settings }

/-! ## 2. Storing

What is on the disk afterwards is compared with what was loaded, so a file that has not changed is
not touched. -/

/-- Stores an entry, unless it was there before. -/
def store (old new : Disk) (location : Location) (entry : Entry) : IO Unit := do
  let path := (Disk.pathOf location).toString
  if old.entryAt? location = some entry then pure ()
  else
    match new.bytesOf? entry with
    | none => IO.FS.createDirAll path
    | some bytes => IO.FS.writeBinFile path ⟨bytes.toArray⟩

/-- Stores what has changed. -/
def storeChanges (old new : Disk) : IO Unit := do
  new.entries.reverse.forM fun (location, entry) => store old new location entry
  old.entries.forM fun (location, _) => do
    if (new.entryAt? location).isNone then IO.FS.removeFile (Disk.pathOf location).toString

/-! ## 3. Running -/

/-- Runs the program: gives its exit code. -/
def run (arguments : List String) : IO UInt32 := do
  let here ← currentPath
  let environment ← loadVariables
  let subject := Subject.ofArguments arguments
  let input ← loadInput subject
  let disk ← loadDisk here environment subject
  let (outcome, changed) := (runProgram ⟨here, environment, input⟩ arguments).run disk
  storeChanges disk changed
  match outcome with
  | .ok output => do
    IO.print output
    pure 0
  | .error failure => do
    IO.eprintln failure.message
    pure failure.exitCode.toUInt32

end TaskNotes.Main

/-- The program. -/
def main (arguments : List String) : IO UInt32 := TaskNotes.Main.run arguments
