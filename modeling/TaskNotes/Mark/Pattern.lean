/-
# Patterns

Six patterns name what is looked for in a text.  Each can be asked three questions: does a text
*start* with it, *is it only* this, does it *contain* it anywhere.  Searching tries the places
of a text from left to right.

A pattern is matched in one way, from where it begins, and never gives back what it has taken: a
run of digits is taken whole, whatever comes behind it.  So what is found depends on the text from
its start on, and not on what stands before it.
-/
import TaskNotes.Mark.Box
import TaskNotes.Mark.TaskId

namespace TaskNotes

/-! ## 1. Matches

What has been found is kept with the parts that can be asked for, and without those that the
pattern does not have. -/

/-- What a pattern found: the text it covers, the parts that have a name, and what follows. -/
structure Found where
  text : List Char
  box : Option BoxState
  taskId : Option TaskId
  placeholder : Option (List Char)
  rest : List Char
deriving Repr

/-- What can be looked for.  The project of an identifier or placeholder is a given one or
any. -/
inductive Pattern
  | projectId
  | box
  | taskId (project : Option ProjectId)
  | placeholder (project : Option ProjectId)
  | boxAndTaskId (project : Option ProjectId)
  | boxAndPlaceholder (project : Option ProjectId)

/-- Reads a box and the one space after it. -/
def boxAndSpace? (cs : List Char) : Option (BoxState × List Char) :=
  match box? cs with
  | some (state, ' ' :: rest) => some (state, rest)
  | _ => none

namespace Pattern

/-- Matches a pattern at the start of a text. -/
def match? (pattern : Pattern) (cs : List Char) : Option Found :=
  match pattern with
  | .projectId =>
    let run := (cs.takeWhile Char.isUpper).take 5
    if 2 ≤ run.length then some ⟨run, none, none, none, cs.drop run.length⟩ else none
  | .box => (box? cs).map fun (state, rest) => ⟨state.marker, some state, none, none, rest⟩
  | .taskId project =>
    (taskId? project cs).map fun (id, rest) => ⟨id.toList, none, some id, none, rest⟩
  | .placeholder project =>
    (placeholder? project cs).map fun (text, rest) => ⟨text, none, none, some text, rest⟩
  | .boxAndTaskId project =>
    match boxAndSpace? cs with
    | none => none
    | some (state, inner) =>
      (taskId? project inner).map fun (id, rest) =>
        ⟨state.marker ++ ' ' :: id.toList, some state, some id, none, rest⟩
  | .boxAndPlaceholder project =>
    match boxAndSpace? cs with
    | none => none
    | some (state, inner) =>
      (placeholder? project inner).map fun (text, rest) =>
        ⟨state.marker ++ ' ' :: text, some state, none, some text, rest⟩

/-- Finds the first place where a pattern matches, and how many characters precede it. -/
def search? (pattern : Pattern) : List Char → Option (Nat × Found)
  | [] => (pattern.match? []).map (fun found => (0, found))
  | c :: cs =>
    match pattern.match? (c :: cs) with
    | some found => some (0, found)
    | none => (search? pattern cs).map (fun (n, found) => (n + 1, found))

/-- Whether a text starts with a pattern. -/
def starts (pattern : Pattern) (cs : List Char) : Bool := (pattern.match? cs).isSome

/-- Whether a text is nothing but a pattern. -/
def isOnly (pattern : Pattern) (cs : List Char) : Bool :=
  match pattern.match? cs with
  | some found => found.rest.isEmpty
  | none => false

/-- Whether a pattern occurs anywhere in a text. -/
def contains (pattern : Pattern) (cs : List Char) : Bool := (pattern.search? cs).isSome

/-- The first occurrence of a pattern. -/
def extract? (pattern : Pattern) (cs : List Char) : Option (List Char) :=
  (pattern.search? cs).map (fun found => found.2.text)

end Pattern

/-! ## 2. The number of a text

Of a text only one identifier counts, the one that is found first. -/

/-- The first identifier that occurs in a text. -/
def firstTaskId? (project : Option ProjectId) (cs : List Char) : Option TaskId :=
  match (Pattern.taskId project).search? cs with
  | some (_, found) => found.taskId
  | none => none

/-- The number of the first identifier that occurs in a text. -/
def firstTaskNumber (project : Option ProjectId) (cs : List Char) :
    Except NumeralError (Option Nat) :=
  match firstTaskId? project cs with
  | some id => id.number.map some
  | none => .ok none

end TaskNotes
