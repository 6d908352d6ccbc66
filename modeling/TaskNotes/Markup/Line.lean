/-
# Lines of a source text

A line is read inside the containers that are open around it.  It keeps its text from where the
innermost of them begins, how many characters of that count as margin (blanks, or the marker of
a list item), how wide the margin is in columns, and at which column the text begins, because a
tab reaches to the next multiple of four.

A line that continues a paragraph without the marker of its container is *lazy*: its margin is
narrower than any.

Columns and characters are two counts, and a tab is where they part: it is one character and up to
four columns.  A margin can end in the middle of a tab, and the columns that are left of it become
spaces.
-/
import TaskNotes.Text.Lines

namespace TaskNotes.Markup

/-- A line, seen from inside its containers. -/
structure Line where
  /-- The text from where the innermost container begins. -/
  text : List Char
  /-- How many characters of the text are margin. -/
  margin : Nat
  /-- The width of the margin in columns; negative for a lazy line. -/
  indent : Int
  /-- The column at which the text begins. -/
  column : Nat
  /-- Whether a line feed follows. -/
  ended : Bool
deriving DecidableEq, Repr

/-! ## 1. Lines of a text

A line is made once, outside of all containers, and narrowed by each container that it is handed
to. -/

/-- The column after a blank that stands at a column. -/
def columnAfter (column : Nat) (c : Char) : Nat :=
  if c = '\t' then column + (4 - column % 4) else column + 1

/-- The blanks at the start of a text: how many there are, and the column after them. -/
def blanksFrom (column : Nat) : List Char → Nat × Nat
  | [] => (0, column)
  | c :: cs =>
    if isSpaceOrTab c then
      let (count, stop) := blanksFrom (columnAfter column c) cs
      (count + 1, stop)
    else (0, column)

namespace Line

/-- A line outside all containers. -/
def ofText (text : List Char) (ended : Bool) : Line :=
  let (count, width) := blanksFrom 0 text
  ⟨text, count, width, 0, ended⟩

/-- What follows the margin. -/
def body (line : Line) : List Char := line.text.drop line.margin

/-- Whether a line holds nothing but blanks. -/
def isBlank (line : Line) : Bool := line.body.isEmpty

/-- A line as a lazy continuation. -/
def asLazy (line : Line) : Line := { line with indent := -1 }

/-! ## 2. Cutting the margin

How much of a margin belongs to a block is decided by the block, and cut then. -/

/-- Drops characters until so many columns are reached: blanks, and others while they are
margin.  A tab that reaches further leaves the columns beyond as spaces. -/
def cutFrom (columns base reached margin : Nat) : List Char → List Char
  | [] => List.replicate (reached - columns) ' '
  | c :: cs =>
    if columns ≤ reached then List.replicate (reached - columns) ' ' ++ c :: cs
    else if c = '\t' then
      cutFrom columns base (reached + (4 - (reached + base) % 4)) (margin - 1) cs
    else if c = ' ' ∨ 0 < margin then cutFrom columns base (reached + 1) (margin - 1) cs
    else c :: cs

/-- The text of a line without the first so many columns of its margin. -/
def cut (columns : Nat) (line : Line) : List Char :=
  cutFrom columns line.column 0 line.margin line.text

end Line

/-- The texts of lines without the first so many columns, with line feeds between them. -/
def cutLines (columns : Nat) (lines : List Line) : List Char :=
  joinLines (lines.map (Line.cut columns))

/-! ## 3. Reading a text

Line ends of all sorts count as line feeds from here on. -/

/-- A text with uniform line ends, and without NUL characters. -/
def normalizeSource (text : List Char) : List Char :=
  (uniformLines text).map fun c => if c.toNat = 0 then Char.ofNat 0xFFFD else c

/-- The lines of a text with uniform line ends.  A last line that has no line feed counts unless
there is nothing but blanks in it. -/
def linesOfTexts : List (List Char) → List Line
  | [] => []
  | [last] => if last.all isSpaceOrTab then [] else [Line.ofText last false]
  | text :: texts => Line.ofText text true :: linesOfTexts texts

/-- The lines of a text. -/
def sourceLines (text : List Char) : List Line := linesOfTexts (splitLines text)

end TaskNotes.Markup
