/-
# Handing out identifiers

An allocator hands out the numbers after the highest one that is in use, one after the other.
The numbers in use are those of the first identifier in each text node; all documents of a run
share one allocator, so that no number is handed out twice.

Reading and writing a number can fail, as numerals are limited in length; and a name can be no
project at all, which is noticed where the project is first needed.  Drawing numbers is a
computation in a state monad over these failures (`Numbering`), so that a number cannot be drawn
twice by mistake.
-/
import TaskNotes.Mark.Pattern
import TaskNotes.Node.Walk

namespace TaskNotes

/-! ## 1. What can go wrong -/

/-- Why tasks cannot be numbered. -/
inductive NumberingError
  | invalidProject (name : String)
  | numeral (error : NumeralError)
deriving DecidableEq, Repr

/-- What is said about a failure to number tasks. -/
def NumberingError.message : NumberingError → String
  | .invalidProject name => invalidProjectIdMessage name
  | .numeral error => error.message

/-- The project with a name. -/
def checkProject (name : String) : Except NumberingError ProjectId :=
  match ProjectId.ofString? name with
  | some project => .ok project
  | none => .error (.invalidProject name)

/-- A result that is not refused for the length of a numeral alone. -/
def ofNumeral {α : Type} : Except NumeralError α → Except NumberingError α
  | .ok a => .ok a
  | .error e => .error (.numeral e)

/-! ## 2. Numbers in use

All text nodes count, wherever they stand; code and HTML do not.  Of each text the first identifier
counts and no other. -/

/-- The higher of a number and the number of the first identifier in a text. -/
def raiseTo (project : ProjectId) (highest : Nat) (text : String) : Except NumeralError Nat :=
  (firstTaskNumber (some project) text.toList).map fun number => max highest (number.getD 0)

/-- The highest number in use in trees; a name that is no project id is refused at the first
text. -/
def highestNumber (name : String) (trees : List Node) : Except NumberingError Nat :=
  match trees.flatMap Node.texts with
  | [] => .ok 0
  | texts => do
    let project ← checkProject name
    ofNumeral (texts.foldlM (raiseTo project) 0)

/-! ## 3. Allocators

An allocator keeps where it started, so that it can be told how many numbers have been drawn. -/

/-- What has been handed out: the numbers after `seed`, up to `last`. -/
structure Allocator where
  project : String
  seed : Nat
  last : Nat
  seed_le_last : seed ≤ last := by omega
deriving DecidableEq

namespace Allocator

/-- The allocator that goes on from a number. -/
def startingAt (project : String) (seed : Nat) : Allocator := ⟨project, seed, seed, Nat.le_refl _⟩

/-- The allocator that goes on from the numbers in use in trees. -/
def ofTrees (project : String) (trees : List Node) : Except NumberingError Allocator :=
  (highestNumber project trees).map (startingAt project)

/-- How many numbers have been handed out. -/
def allocated (a : Allocator) : Nat := a.last - a.seed

/-- Hands out a number. -/
def next (a : Allocator) : Allocator :=
  { a with last := a.last + 1, seed_le_last := Nat.le_succ_of_le a.seed_le_last }

end Allocator

/-! ## 4. Numbering -/

/-- A computation that draws numbers from an allocator. -/
abbrev Numbering := StateT Allocator (Except NumeralError)

/-- The next number. -/
def nextNumber : Numbering Nat := modifyGet fun a => (a.last + 1, a.next)

/-- The next identifier. -/
def nextId : Numbering (List Char) := do
  let number ← nextNumber
  let a ← get
  let id ← writeTaskId a.project number
  pure id.toList

end TaskNotes
