/-
# Project ids

A project is named by two to five capital ASCII letters.  `ProjectId` holds such a name with the
proof that it is one, so that what is built from a project id needs no further check; texts are
checked by `ProjectId.ofString?`.

A name of this form stands in a text as it is, needs no escape in markup, and is told from most
paths on a command line by its capitals.
-/
import TaskNotes.Text.Quoted

namespace TaskNotes

/-- Whether a text is two to five capital ASCII letters. -/
def isProjectName (cs : List Char) : Bool :=
  2 ≤ cs.length && cs.length ≤ 5 && cs.all Char.isUpper

/-- The name of a project. -/
structure ProjectId where
  letters : List Char
  valid : isProjectName letters = true
deriving DecidableEq

namespace ProjectId

/-- The project with the given name, if it is a valid one. -/
def ofString? (name : String) : Option ProjectId :=
  if h : isProjectName name.toList = true then some ⟨name.toList, h⟩ else none

/-- The name as a text. -/
def toString (id : ProjectId) : String := String.ofList id.letters

/-- The project that is meant when none is named. -/
def default : ProjectId := ⟨['T', 'O', 'D', 'O'], by decide⟩

end ProjectId

/-- What is said about a name that is no project id. -/
def invalidProjectIdMessage (name : String) : String := "invalid project id: " ++ quoted name

end TaskNotes
