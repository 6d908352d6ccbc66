/-
# Logging

What is logged carries the run and the step it belongs to.  A run binds both for as long as it
lasts, and a step that is set inside it is forgotten with it.  The level decides what is logged
at all; its name may be written in any case.

What is told here is the context that a record carries and the setup that is made once, and not the
records themselves, whose texts the program never looks at.
-/
import TaskNotes.Text.Casefold
import TaskNotes.Text.Quoted

namespace TaskNotes

/-! ## 1. Levels

Setting logging up a second time changes the level and adds nothing. -/

/-- The numbers of the levels. -/
def logLevels : List (String × Nat) :=
  [("CRITICAL", 50), ("FATAL", 50), ("ERROR", 40), ("WARNING", 30), ("WARN", 30), ("INFO", 20),
    ("DEBUG", 10), ("NOTSET", 0)]

/-- A level name as it is looked up. -/
def levelKey (name : String) : String := String.ofList (uppercase name.toList)

/-- The number of a level. -/
def logLevel? (name : String) : Option Nat := logLevels.lookup (levelKey name)

/-- What is said about a name that is no level. -/
def unknownLevelMessage (name : String) : String := "Unknown level: " ++ quoted (levelKey name)

/-- How logging is set up: the level, and for each handler how many filters it has. -/
structure LogSetup where
  level : Nat
  handlers : List Nat
deriving DecidableEq, Repr

/-- Before anything is set up. -/
def LogSetup.initial : LogSetup := ⟨30, []⟩

/-- Sets up logging at a level.  There is one handler, however often this is done, and one filter
on it. -/
def LogSetup.configure? (setup : LogSetup) (name : String) : Option LogSetup :=
  (logLevel? name).map fun level =>
    ⟨level, if setup.handlers.isEmpty then [1] else setup.handlers.map (max 1)⟩

/-! ## 2. Runs and steps

Contexts nest as runs do.  What is bound in a run is seen by what happens inside of it, and what
was bound before is back afterwards. -/

/-- The run and the step that log records carry. -/
structure LogContext where
  run : String
  step : String
deriving DecidableEq, Repr

/-- Outside all runs. -/
def LogContext.outside : LogContext := ⟨"-", "-"⟩

/-- What happens while something is logged: a step begins, or a run with what happens in it. -/
inductive LogEvent
  | step (name : String)
  | run (run step : String) (inner : List LogEvent)
deriving Inhabited

mutual
/-- The contexts after each thing that happens in an event. -/
def LogEvent.contexts (context : LogContext) : LogEvent → List LogContext
  | .step name => [{ context with step := name }]
  | .run run step inner =>
    let bound : LogContext := ⟨run, if step.isEmpty then context.step else step⟩
    bound :: contextsOfAll bound inner ++ [context]

/-- The contexts after each thing that happens in events. -/
def contextsOfAll (context : LogContext) : List LogEvent → List LogContext
  | [] => []
  | event :: events =>
    let contexts := event.contexts context
    contexts ++ contextsOfAll (contexts.getLast?.getD context) events
end

end TaskNotes
