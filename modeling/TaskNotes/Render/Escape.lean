/-
# Escaping text

What a text needs so that it is read back as text.  A backslash goes in front of

* a backslash that stands before ASCII punctuation, every `*` and backtick, and a `~` beside
  another `~`;
* `<` where a tag could begin, `&` where a character reference could, and `]` before `(` or `:`;
* `_`, unless it stands between two alphanumeric characters.

At the start of a line it also goes in front of what would open a heading, a quotation, a list
item or an underline; a numbered item is disarmed at its full stop or parenthesis.

An escape is decided by the neighbours of a character alone.  Whether it would be a mark can depend
on the whole paragraph, and so more is escaped than would have to be.  A line of hyphens is the one
thing that has a meaning at the start of a line and is not escaped.
-/
import TaskNotes.Text.Lines
import TaskNotes.Text.Digit
import TaskNotes.Text.Alphanumeric
import TaskNotes.Text.Punctuation

namespace TaskNotes

/-! ## 1. Inside a line

The character in front is needed for two marks only, the tilde and the underscore. -/

/-- Whether a text goes on like a character reference after its `&`. -/
def referenceFollows (rest : List Char) : Bool :=
  let body := match rest with
    | '#' :: more => more
    | more => more
  match body.dropWhile Char.isAlphanum with
  | ';' :: _ => !(body.takeWhile Char.isAlphanum).isEmpty
  | _ => false

/-- Whether the first character of a text satisfies a condition. -/
def headIs (p : Char → Bool) : List Char → Bool
  | [] => false
  | c :: _ => p c

/-- Whether a character has to be escaped wherever it stands, given the character before it and
the text after it. -/
def needsEscape (before : Option Char) (c : Char) (rest : List Char) : Bool :=
  match c with
  | '\\' => headIs isAsciiPunctuation rest
  | '*' | '`' => true
  | '~' => headIs (· == '~') rest || before == some '~'
  | '<' => headIs (fun d => d.isAlpha || d == '/' || d == '!' || d == '?') rest
  | '&' => referenceFollows rest
  | ']' => headIs (fun d => d == '(' || d == ':') rest
  | '_' => !((before.map isAlphanumeric).getD false && headIs isAlphanumeric rest)
  | _ => false

/-- Escapes the rest of a text, given the character before it. -/
def escapeAfter (before : Option Char) : List Char → List Char
  | [] => []
  | c :: rest =>
    if needsEscape before c rest then '\\' :: c :: escapeAfter (some c) rest
    else c :: escapeAfter (some c) rest

/-! ## 2. At the start of a line

A text can have several lines, and all but the first begin a line in any case. -/

/-- Whether a block marker may end here: before a space, a tab or the end of the line. -/
def endsMarker : List Char → Bool
  | [] => true
  | c :: _ => isSpaceOrTab c

/-- Whether a line begins like a heading. -/
def opensHeading (line : List Char) : Bool :=
  let marks := line.takeWhile (· == '#')
  1 ≤ marks.length && marks.length ≤ 6 && endsMarker (line.dropWhile (· == '#'))

/-- Whether a line begins like an unnumbered list item. -/
def opensBullet : List Char → Bool
  | '-' :: rest | '+' :: rest => endsMarker rest
  | _ => false

/-- Whether a line is an underline of equals signs. -/
def isEqualsUnderline (line : List Char) : Bool :=
  headIs (· == '=') line && (line.dropWhile (· == '=')).all isSpaceOrTab

/-- Whether a line begins with what a backslash in front of it disarms. -/
def opensBlock (line : List Char) : Bool :=
  opensHeading line || headIs (· == '>') line || opensBullet line || isEqualsUnderline line

/-- Escapes the delimiter of a line that begins like a numbered list item. -/
def escapeOrdered (line : List Char) : List Char :=
  let digits := line.takeWhile isDigit
  match line.dropWhile isDigit with
  | c :: rest =>
    if 1 ≤ digits.length ∧ digits.length ≤ 9 ∧ (c = '.' ∨ c = ')') ∧ endsMarker rest then
      digits ++ '\\' :: c :: rest
    else line
  | [] => line

/-- Escapes the start of a line. -/
def escapeLineStart (line : List Char) : List Char :=
  if opensBlock line then '\\' :: line else escapeOrdered line

/-- Escapes a text; `lineStart` says whether its first line begins a line of the output. -/
def escapeText (value : List Char) (lineStart : Bool) : List Char :=
  match splitLines (escapeAfter none value) with
  | [] => []
  | first :: others =>
    joinLines ((if lineStart then escapeLineStart first else first)
      :: others.map escapeLineStart)

end TaskNotes
