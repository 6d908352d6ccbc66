/-
# Boxes

The box of a task shows its state: `[ ]` when it is open, `[x]` when it is done and `[…]` while
it is in progress.

A box is three characters, and its state is the middle one, in exactly this spelling: a capital
letter between the brackets makes no box.  Only the reader of list items takes a capital as well,
and gives the item a box of its own.

List items have two states and headings three, as the box of an item is a truth value in the tree
and that of a heading is part of its text.
-/
import TaskNotes.Text.Quoted

namespace TaskNotes

/-- The states of a task. -/
inductive BoxState
  | unchecked
  | checked
  | inProgress
deriving DecidableEq, Repr

namespace BoxState

/-- All states. -/
def all : List BoxState := [.unchecked, .checked, .inProgress]

/-- The character between the brackets. -/
def char : BoxState → Char
  | .unchecked => ' '
  | .checked => 'x'
  | .inProgress => '…'

/-- The state a character between brackets stands for. -/
def ofChar? : Char → Option BoxState
  | ' ' => some .unchecked
  | 'x' => some .checked
  | '…' => some .inProgress
  | _ => none

/-- The state a text between brackets stands for. -/
def ofString? (value : String) : Option BoxState :=
  match value.toList with
  | [c] => ofChar? c
  | _ => none

/-- The state of a box that is either checked or not. -/
def ofChecked (checked : Bool) : BoxState := if checked then .checked else .unchecked

/-- The box as it is written. -/
def marker (state : BoxState) : List Char := ['[', state.char, ']']

/-- The name of a state. -/
def name : BoxState → String
  | .unchecked => "UNCHECKED"
  | .checked => "CHECKED"
  | .inProgress => "IN_PROGRESS"

end BoxState

/-- What is said about a text that is no state of a box. -/
def unknownBoxStateMessage (value : String) : String :=
  quoted value ++ " is not a valid BoxState"

/-- Reads a box at the start of a text: its state, and what follows it. -/
def box? : List Char → Option (BoxState × List Char)
  | '[' :: c :: ']' :: rest => (BoxState.ofChar? c).map (fun state => (state, rest))
  | _ => none

end TaskNotes
