/-
# The command line

A project id and a path may be given, in either order.  A directory is brought up to date in
place; the text of a file, or of standard input, is numbered by itself and printed.  `runProgram`
gives what is printed, or says why there is nothing to print; what it does to the disk stays done
in both cases.

Arguments are read in two steps.  Options are taken out first, wherever they stand, up to a double
dash; of the others at most two are left, of which the one that has the form of a project id is the
project.  So a directory that is named like a project has to be written with a slash.

What goes wrong ends the program with a message and an exit code: two if the command line is wrong,
and one otherwise.
-/
import TaskNotes.Log
import TaskNotes.Node.Schema
import TaskNotes.Run
import TaskNotes.Settings

namespace TaskNotes

/-! ## 1. Usage -/

/-- How the command line can be wrong. -/
inductive UsageError
  | unknownOption (option : String)
  | missingValue (option : String)
  | needlessValue (option : String)
  | unexpectedArgument (argument : String)
  | noSuchPath (path : String)
deriving DecidableEq, Repr

/-- What is said about a wrong command line. -/
def UsageError.message : UsageError → String
  | .unknownOption option => "no such option: " ++ option
  | .missingValue option => "option " ++ quoted option ++ " requires an argument"
  | .needlessValue option => "option " ++ quoted option ++ " does not take a value"
  | .unexpectedArgument argument =>
    "unexpected argument " ++ quoted argument ++ ": give at most a project id and a path"
  | .noSuchPath path => "no such file or directory: " ++ path

/-- What is printed when help is asked for. -/
def helpText : String :=
  "Usage: [OPTIONS] [PROJECT_ID] [PATH]\n\n"
    ++ "Number Markdown tasks, rename files after their headings, keep links and indexes\n"
    ++ "current. The path is a Markdown file, a directory, or '-' for standard input.\n\n"
    ++ "  --dry-run               Directory mode: show the planned changes only\n"
    ++ "  --ast                   File mode: print the parsed document tree as JSON\n"
    ++ "  --format / --no-format  Format the output or not\n"
    ++ "  --log-level TEXT        Logging level\n"
    ++ "  --help                  Show this message and exit\n"

/-! ## 2. Options -/

/-- What a command line asks for; `others` are the arguments that are no options. -/
structure Options where
  dry : Bool
  asTree : Bool
  formats : Option Bool
  logLevel : Option String
  help : Bool
  others : List String
deriving DecidableEq, Repr

namespace Options

/-- An empty command line. -/
def initial : Options := ⟨false, false, none, none, false, []⟩

/-- Switches an option on that has no value. -/
def switch? (o : Options) : String → Option Options
  | "--dry-run" => some { o with dry := true }
  | "--ast" => some { o with asTree := true }
  | "--format" => some { o with formats := some true }
  | "--no-format" => some { o with formats := some false }
  | "--help" => some { o with help := true }
  | _ => none

/-- The option that has a value. -/
def valueOption : String := "--log-level"

/-- What ends the options. -/
def optionsEnd : String := "--"

/-- Whether an argument is meant as an option: a dash with something behind it. -/
def isOption (argument : String) : Bool :=
  match argument.toList with
  | '-' :: _ :: _ => true
  | _ => false

/-- An option and the value that is attached to it by an equals sign. -/
def splitOption (argument : String) : String × Option String :=
  let name := argument.toList.takeWhile (· != '=')
  match argument.toList.drop name.length with
  | _ :: value => (String.ofList name, some (String.ofList value))
  | [] => (argument, none)

/-- Reads a command line on top of options that have been read; of several values the last one
counts. -/
def read (o : Options) : List String → Except UsageError Options
  | [] => .ok o
  | argument :: rest =>
    if argument = optionsEnd then .ok { o with others := o.others ++ rest }
    else if !isOption argument then read { o with others := o.others ++ [argument] } rest
    else
      let (name, attached) := splitOption argument
      if name = valueOption then
        match attached with
        | some value => read { o with logLevel := some value } rest
        | none =>
          match rest with
          | value :: rest => read { o with logLevel := some value } rest
          | [] => .error (.missingValue name)
      else
        match o.switch? name with
        | none => .error (.unknownOption name)
        | some switched =>
          if attached.isSome then .error (.needlessValue name) else read switched rest

end Options

/-- The project id and the path among arguments: the first that has the form of a project id, and
the first other one. -/
def splitArguments (project path : Option String) :
    List String → Except UsageError (Option String × Option String)
  | [] => .ok (project, path)
  | argument :: rest =>
    if project.isNone ∧ (ProjectId.ofString? argument).isSome then
      splitArguments (some argument) path rest
    else if path.isNone then splitArguments project (some argument) rest
    else .error (.unexpectedArgument argument)

/-! ## 3. Failures

Each kind of failure keeps the error that it comes from, and says what that says. -/

/-- Why the program fails. -/
inductive Failure
  | usage (error : UsageError)
  | settings (error : SettingsError)
  | unknownLevel (name : String)
  | reading (error : Disk.ReadError)
  | numbering (error : NumberingError)
  | run (error : RunError)

/-- The exit code of a failure. -/
def Failure.exitCode : Failure → Nat
  | .usage _ => 2
  | _ => 1

/-- What is said about a failure. -/
def Failure.message : Failure → String
  | .usage error => error.message
  | .settings error => error.message
  | .unknownLevel name => unknownLevelMessage name
  | .reading error => error.message
  | .numbering error => error.message
  | .run error => error.message

/-! ## 4. The program

Settings are loaded before the path is looked at, so wrong settings are reported whatever the path.
-/

/-- Where a program is run: the current directory, the environment and standard input. -/
structure Surroundings where
  directory : Path
  environment : Variables
  input : String

/-- A program that works on a disk. -/
abbrev Program := ExceptT Failure (StateM Disk)

/-- A result, or the failure that its error is. -/
def Program.ofExcept {ε α : Type} (failure : ε → Failure) : Except ε α → Program α
  | .ok a => pure a
  | .error e => throw (failure e)

/-- What stands for standard input instead of a path. -/
def inputMark : String := "-"

/-- The settings with what options say about them. -/
def Settings.override (s : Settings) (o : Options) : Settings :=
  { s with formatsOutput := o.formats.getD s.formatsOutput, logLevel := o.logLevel.getD s.logLevel }

/-- What is printed after a run: the numbers of changed files, or for a dry run the commands and
the number of tasks. -/
def RunResult.report (r : RunResult) : String :=
  if r.applied then
    toString r.writes.length ++ " file(s) written, " ++ toString r.deletes.length
      ++ " file(s) deleted\n"
  else
    String.join (r.commands.map fun c =>
      let (action, target) := (Step.command c).describe
      action ++ " " ++ target ++ "\n")
      ++ toString r.tasks.length ++ " task(s), " ++ toString r.allocated
      ++ " new identifier(s)\n"

/-- Runs over a directory. -/
def runInDirectory (settings : Settings) (project : String) (dry : Bool) (root : Path) :
    Program String := do
  let plan : PlanOptions := ⟨settings.formatsOutput, settings.addsIndexes⟩
  let options : RunOptions := ⟨project, plan, settings.maxConcurrent.toNat, dry⟩
  let result ← ExceptT.adapt .run (runDirectory options root)
  pure result.report

/-- What is printed for a text: its tree, or the text with its tasks numbered. -/
def printText (settings : Settings) (project : String) (asTree : Bool) (text : String) :
    Program String :=
  if asTree then pure ((Node.read text).toJson.print 0 ++ "\n")
  else .ofExcept .numbering (transformText settings.formatsOutput project text)

/-- What a command line works on: nothing if it is wrong or asks for help, standard input, or a
path. -/
inductive Subject
  | nothing
  | input
  | path (text : String)
deriving DecidableEq, Repr

/-- The subject of arguments that are no options. -/
def Subject.ofArgument : Option String → Subject
  | none => .input
  | some argument => if argument = inputMark then .input else .path argument

/-- What a command line works on. -/
def Subject.ofArguments (arguments : List String) : Subject :=
  match Options.initial.read arguments with
  | .error _ => .nothing
  | .ok o =>
    if o.help then .nothing
    else
      match splitArguments none none o.others with
      | .error _ => .nothing
      | .ok (_, argument) => .ofArgument argument

/-- The path that an argument names, unless it stands for standard input. -/
def Surroundings.path? (here : Surroundings) (argument : Option String) : Option Path :=
  (argument.filter (· != inputMark)).map fun text => here.directory.join (.ofString text)

/-- Works on a path, or on standard input if there is none. -/
def runOn (here : Surroundings) (settings : Settings) (project : String) (o : Options)
    (argument : Option String) : Program String := do
  match here.path? argument with
  | none => printText settings project o.asTree here.input
  | some path =>
    let disk ← get
    match disk.find? path with
    | .error e => throw (.reading (.file e))
    | .ok none => throw (.usage (.noSuchPath (argument.getD "")))
    | .ok (some entry) =>
      if entry.isDirectory then runInDirectory settings project o.dry path
      else do
        let text ← .ofExcept .reading (disk.readText path)
        printText settings project o.asTree (String.ofList text)

/-- Runs the program: gives what it prints. -/
def runProgram (here : Surroundings) (arguments : List String) : Program String := do
  let o ← .ofExcept .usage (Options.initial.read arguments)
  if o.help then return helpText
  let (project, path) ← .ofExcept .usage (splitArguments none none o.others)
  let disk ← get
  let loaded ← .ofExcept .settings (Settings.load disk here.directory here.environment)
  let settings := loaded.override o
  if (logLevel? settings.logLevel).isNone then throw (.unknownLevel settings.logLevel)
  runOn here settings (project.getD settings.projectId) o path

end TaskNotes
