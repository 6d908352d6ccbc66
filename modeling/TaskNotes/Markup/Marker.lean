/-
# Marks at the start of a line

What a line can begin with, its margin left out: a fence, a rule, the hashes of a heading, the
marker of a list item, and the underline that makes a heading of the lines above.

These are questions about one line, and none of them looks at what is around it.  Whether a line
that begins like an item begins one is for the reader of blocks to say, which knows the paragraph
and the list that are open.
-/
import TaskNotes.Node
import TaskNotes.Text.Blank

namespace TaskNotes.Markup

/-! ## 1. Fences and rules

A fence is closed by one that is at least as long, of the same mark, with nothing behind it. -/

/-- The opening of fenced code: its mark, how often it stands there, and the info string. -/
structure Fence where
  mark : Char
  length : Nat
  info : List Char

/-- Reads the opening of fenced code: at least three marks, and no backtick in the info string
of backticks. -/
def fence? (body : List Char) : Option Fence :=
  match body with
  | [] => none
  | mark :: _ =>
    let run := body.takeWhile (· == mark)
    let info := body.dropWhile (· == mark)
    if (mark = '`' ∨ mark = '~') ∧ 3 ≤ run.length ∧ ¬(mark = '`' ∧ '`' ∈ info) then
      some ⟨mark, run.length, info⟩
    else none

/-- Whether a line closes fenced code. -/
def Fence.closedBy (fence : Fence) (body : List Char) : Bool :=
  fence.length ≤ (body.takeWhile (· == fence.mark)).length
    && (body.dropWhile (· == fence.mark)).all isSpaceOrTab

/-- Whether a line is a rule: at least three of one mark, with blanks between them or not. -/
def isRule (body : List Char) : Bool :=
  match body with
  | [] => false
  | mark :: _ =>
    (mark == '*' || mark == '-' || mark == '_')
      && body.all (fun c => c == mark || isSpaceOrTab c) && 3 ≤ body.count mark

/-! ## 2. Headings

Hashes at the end count as decoration if a blank stands in front of them. -/

/-- Reads a heading of hashes: its depth and its text, without hashes at the end that stand
apart. -/
def atxHeading? (body : List Char) : Option (Depth × List Char) :=
  let marks := body.takeWhile (· == '#')
  let rest := body.dropWhile (· == '#')
  let apart := match rest with
    | [] => true
    | c :: _ => isSpaceOrTab c
  match Depth.ofNat? marks.length with
  | some depth =>
    if apart then
      let text := dropEndWhile isSpaceOrTab rest
      let short := dropEndWhile (· == '#') text
      let text := match short.getLast? with
        | some c => if isSpaceOrTab c then short else text
        | none => text
      some (depth, trimSpacing text)
    else none
  | none => none

/-- The depth that an underline gives to the text above it. -/
def underline? (body : List Char) : Option Depth :=
  match body with
  | [] => none
  | mark :: _ =>
    if (mark = '=' ∨ mark = '-') ∧ (body.dropWhile (· == mark)).all isSpaceOrTab then
      some (if mark = '=' then Depth.one else Depth.two)
    else none

/-! ## 3. List items

A change of the mark begins another list, which is what the alternate markers of neighbouring lists
are for. -/

/-- The marker of a list item: its number if it has one, its last character, and its length. -/
structure ListMarker where
  number : Option Nat
  mark : Char
  length : Nat
deriving DecidableEq, Repr

/-- Whether a marker may end here: before a blank or at the end of the line. -/
def endsListMarker : List Char → Bool
  | [] => true
  | c :: _ => isSpaceOrTab c

/-- The value of ASCII digits. -/
def asciiNumber (digits : List Char) : Nat :=
  digits.foldl (fun n c => 10 * n + (c.toNat - '0'.toNat)) 0

/-- Reads the marker of a list item: a bullet, or one to nine digits and a full stop or
parenthesis. -/
def listMarker? (body : List Char) : Option ListMarker :=
  match body with
  | [] => none
  | c :: rest =>
    if c = '*' ∨ c = '-' ∨ c = '+' then
      if endsListMarker rest then some ⟨none, c, 1⟩ else none
    else
      let digits := body.takeWhile Char.isDigit
      match body.dropWhile Char.isDigit with
      | mark :: after =>
        if 1 ≤ digits.length ∧ digits.length ≤ 9 ∧ (mark = '.' ∨ mark = ')')
            ∧ endsListMarker after then
          some ⟨some (asciiNumber digits), mark, digits.length + 1⟩
        else none
      | [] => none

/-- Whether two markers belong to one list. -/
def ListMarker.sameList (a b : ListMarker) : Bool :=
  a.number.isSome == b.number.isSome && a.mark == b.mark

end TaskNotes.Markup
