/-
# Boxes behind markers

Canonical markup escapes the brackets of a box where they could be taken for a link.  Behind the
marker of a heading or a list item a box is a box, and is written plainly.

The lines are those of the finished text, and it is not known here what they are lines of.  A line
inside of fenced code that looks like an item with an escaped box is therefore changed as well.
-/
import TaskNotes.Text.Digit
import TaskNotes.Text.Lines

namespace TaskNotes.Format

/-- Reads the marker of a heading or of a list item: what follows it. -/
def afterMarker? (cs : List Char) : Option (List Char) :=
  match cs with
  | [] => none
  | c :: rest =>
    if c = '#' then
      if (cs.takeWhile (· == '#')).length ≤ 6 then some (cs.dropWhile (· == '#')) else none
    else if c = '-' ∨ c = '*' ∨ c = '+' then some rest
    else
      let digits := cs.takeWhile isDigit
      match cs.drop digits.length with
      | mark :: after =>
        if 1 ≤ digits.length ∧ digits.length ≤ 9 ∧ (mark = '.' ∨ mark = ')') then some after
        else none
      | [] => none

/-- Reads a box whose opening bracket is escaped: its character, and what follows it. -/
def escapedBox? (cs : List Char) : Option (Char × List Char) :=
  match cs with
  | '\\' :: '[' :: c :: rest =>
    if c = ' ' ∨ c = 'x' ∨ c = 'X' ∨ c = '…' then
      match rest with
      | ']' :: after => some (c, after)
      | '\\' :: ']' :: after => some (c, after)
      | _ => none
    else none
  | _ => none

/-- A line with the box behind its marker written plainly, if there are blanks between the two.
Quotation marks and blanks in front do not count. -/
def unescapeBox (line : List Char) : List Char :=
  let inside := line.dropWhile (fun c => isSpaceOrTab c || c == '>')
  match afterMarker? inside with
  | none => line
  | some rest =>
    let boxed := rest.dropWhile isSpaceOrTab
    match escapedBox? boxed with
    | some (c, after) =>
      if boxed.length < rest.length then
        line.take (line.length - boxed.length) ++ '[' :: c :: ']' :: after
      else line
    | none => line

/-- Writes the box behind the marker of each line plainly. -/
def unescapeBoxes (text : List Char) : List Char := mapLines unescapeBox text

end TaskNotes.Format
