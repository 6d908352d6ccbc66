/-
# Settings

Settings are read from variables whose names begin with `MARKTASKS_`, in any case.  They stand
in the environment or in a file of assignments, and the environment wins.  The file is the one
that `MARKTASKS_ENV_FILE` names, and otherwise `.env`; one that does not exist sets nothing.

A setting that is not set has a default.  All settings are checked, and everything that is wrong
with them is reported at once, in their order.

Names are compared in lower case, so one variable can be set under several names, and the last one
counts.
-/
import TaskNotes.Check
import TaskNotes.Disk
import TaskNotes.Mark.ProjectId
import TaskNotes.Settings.Assignment
import TaskNotes.Text.Casefold

namespace TaskNotes

/-! ## 1. Settings

How many accesses there are at once is kept as a whole number, and has been checked to be positive.
-/

/-- The settings of the program. -/
structure Settings where
  logLevel : String
  projectId : String
  formatsOutput : Bool
  addsIndexes : Bool
  maxConcurrent : Int
deriving DecidableEq, Repr

/-- What all variables of the program begin with. -/
def variableMark : String := "marktasks_"

/-- A name as variables are looked up. -/
def variableKey (name : String) : String := String.ofList (lowercase name.toList)

/-- The value of the variable of a setting; of several the last one counts. -/
def Variables.setting? (known : Variables) (name : String) : Option String :=
  (known.reverse.find? fun v => variableKey v.1 == variableMark ++ name).bind (·.2)

/-! ## 2. Checking

Variables hold texts, so each check is made of a text; the same checks take values of other kinds.
-/

/-- A value as a project id. -/
def checkProjectId (value : Json) : Checked String :=
  match checkString value with
  | .error faults => .error faults
  | .ok name => if (ProjectId.ofString? name).isSome then .ok name else fault .valueError

/-- How many accesses there can be at once at most. -/
def concurrencyLimit : Int := 256

/-- A value as a number of accesses at once. -/
def checkConcurrency (value : Json) : Checked Int :=
  match checkInt value with
  | .error faults => .error faults
  | .ok n =>
    if n < 1 then fault .greaterThanEqual
    else if concurrencyLimit < n then fault .lessThanEqual
    else .ok n

/-- The number of accesses at once, as a field. -/
def concurrencyField (value : Option Json) : Checked Int :=
  optionalField "max_concurrent_io" 16 checkConcurrency value

/-- The settings that values give. -/
def settingsOf (value : String → Option Json) : Checked Settings :=
  let first := .map₄ (fun level project formats adds => Settings.mk level project formats adds)
    (optionalField "log_level" "WARNING" checkString (value "log_level"))
    (optionalField "project_id" ProjectId.default.toString checkProjectId (value "project_id"))
    (optionalField "format_output" true checkBool (value "format_output"))
    (optionalField "synthesize_missing_indexes" true checkBool
      (value "synthesize_missing_indexes"))
  .map₂ (fun settings max => settings max) first (concurrencyField (value "max_concurrent_io"))

/-- The settings that variables give, those of the environment before those of a file. -/
def Settings.ofVariables (environment file : Variables) : Checked Settings :=
  settingsOf fun name =>
    ((environment.setting? name).orElse fun _ => file.setting? name).map Json.string

/-! ## 3. Loading

Where the file of assignments lies is said by the environment alone, and a directory in its place
sets nothing. -/

/-- The variable that names the file of assignments. -/
def fileVariable : String := "MARKTASKS_ENV_FILE"

/-- The file of assignments when no variable names one. -/
def defaultFile : String := ".env"

/-- The file that assignments are read from. -/
def assignmentFile (environment : Variables) : String :=
  match environment.lookup fileVariable with
  | some (some name) => if name.isEmpty then defaultFile else name
  | _ => defaultFile

/-- The assignments in a file, none if it does not exist. -/
def readAssignments (disk : Disk) (path : Path) (environment : Variables) :
    Except Disk.ReadError Variables :=
  match disk.find? path with
  | .error e => .error (.file e)
  | .ok none => .ok []
  | .ok (some entry) =>
    if entry.isDirectory then .ok [] else (disk.readText path).map (assignments environment)

/-- Why there are no settings. -/
inductive SettingsError
  | file (error : Disk.ReadError)
  | invalid (faults : List Fault)

/-- What is said about settings that cannot be loaded. -/
def SettingsError.message : SettingsError → String
  | .file error => error.message
  | .invalid faults => String.intercalate "; " (faults.map Fault.message)

/-- Loads the settings in a directory. -/
def Settings.load (disk : Disk) (directory : Path) (environment : Variables) :
    Except SettingsError Settings :=
  let path := directory.join (.ofString (assignmentFile environment))
  match readAssignments disk path environment with
  | .error e => .error (.file e)
  | .ok file =>
    match Settings.ofVariables environment file with
    | .error faults => .error (.invalid faults)
    | .ok settings => .ok settings

end TaskNotes
