/-
# Task identifiers and placeholders

An identifier is a project id, a hyphen and a number, `TODO-12`; a placeholder asks for one and
has a run of one of the characters `? x X n N` instead of the number, `TODO-???`.  Both are
matched at the start of a text, either for one project or for any.

* The number of an identifier is the whole run of digits, of any script.
* The run of a placeholder ends the word: `TODO-next` is not read as `TODO-n`.

No look is taken at what stands in front.  An identifier is found behind any character, letters
included, and its project is the given one if this is how those letters end.  Behind an identifier
nothing is asked for either, since all digits belong to its number.

A number can be too long to be read, so reading it is a computation of its own, and recognising an
identifier is not.
-/
import TaskNotes.Mark.ProjectId
import TaskNotes.Text.Digit
import TaskNotes.Text.Alphanumeric

namespace TaskNotes

/-! ## 1. The project

Where any project will do, all capitals are taken, and they have to be as many as a project has. -/

/-- Takes a text off the front of another. -/
def dropExact : (expected text : List Char) → Option (List Char)
  | [], text => some text
  | _ :: _, [] => none
  | e :: expected, c :: text => if e = c then dropExact expected text else none

/-- Reads a project id and the hyphen after it: the given one, or any when none is given. -/
def projectAndHyphen? (project : Option ProjectId) (cs : List Char) :
    Option (List Char × List Char) :=
  let letters := match project with
    | some id => id.letters
    | none => cs.takeWhile Char.isUpper
  if isProjectName letters then
    (dropExact (letters ++ ['-']) cs).map (fun rest => (letters, rest))
  else none

/-! ## 2. Identifiers -/

/-- A task identifier as it stands in a text. -/
structure TaskId where
  project : List Char
  digits : List Char
deriving DecidableEq, Repr

namespace TaskId

/-- The text of an identifier. -/
def toList (id : TaskId) : List Char := id.project ++ '-' :: id.digits

/-- The number of an identifier. -/
def number (id : TaskId) : Except NumeralError Nat := readNumeral id.digits

end TaskId

/-- Reads an identifier at the start of a text: it, and what follows. -/
def taskId? (project : Option ProjectId) (cs : List Char) : Option (TaskId × List Char) :=
  match projectAndHyphen? project cs with
  | none => none
  | some (letters, rest) =>
    match rest.takeWhile isDigit with
    | [] => none
    | d :: digits => some (⟨letters, d :: digits⟩, rest.dropWhile isDigit)

/-- The identifier with a number. -/
def writeTaskId (project : String) (number : Nat) : Except NumeralError String :=
  (writeNumeral number).map (fun digits => project ++ "-" ++ String.ofList digits)

/-! ## 3. Placeholders

A run consists of one character, repeated; `?x` is no run. -/

/-- The characters of which the run of a placeholder can consist. -/
def isPlaceholderChar (c : Char) : Bool :=
  c == '?' || c == 'x' || c == 'X' || c == 'n' || c == 'N'

/-- Whether a text goes on with the word before it. -/
def continuesWord : List Char → Bool
  | [] => false
  | c :: _ => isWordChar c || c == '?'

/-- Reads a placeholder at the start of a text: its text, and what follows. -/
def placeholder? (project : Option ProjectId) (cs : List Char) :
    Option (List Char × List Char) :=
  match projectAndHyphen? project cs with
  | none => none
  | some (_, []) => none
  | some (letters, c :: rest) =>
    let run := (c :: rest).takeWhile (· == c)
    let after := (c :: rest).dropWhile (· == c)
    if isPlaceholderChar c && !continuesWord after then some (letters ++ '-' :: run, after)
    else none

end TaskNotes
