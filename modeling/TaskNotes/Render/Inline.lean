/-
# Inline markup

How the parts of a line are written: code spans between runs of backticks longer than any run
inside, link destinations in angle brackets where they need them, titles between quotes, and
autolinks where a link shows its own address.

Marks are put around what they enclose without a look at what stands beside them.  Two runs of
marks can so come to stand together, and are then read as one (`Proofs/RoundTrip`).

A part is written with the knowledge of whether it begins a line, because only there the start of a
text is escaped.
-/
import TaskNotes.Node
import TaskNotes.Render.Escape

namespace TaskNotes

/-! ## 1. Runs -/

/-- The length of the longest run of a character, given the length of the run that has just been
read. -/
def longestRunFrom (mark : Char) (run : Nat) : List Char → Nat
  | [] => run
  | c :: cs =>
    if c = mark then longestRunFrom mark (run + 1) cs
    else max run (longestRunFrom mark 0 cs)

/-- The length of the longest run of a character. -/
def longestRun (mark : Char) (cs : List Char) : Nat := longestRunFrom mark 0 cs

/-! ## 2. Code spans

Nothing can be escaped in code, so the backticks around it are made longer than any run inside,
with spaces where the value begins or ends with one of its own. -/

/-- Whether a code span needs spaces inside its backticks. -/
def needsPadding (value : List Char) : Bool :=
  headIs (· == '`') value || value.getLast? == some '`'
    || (headIs (· == ' ') value && value.getLast? == some ' ' && !value.all (· == ' '))

/-- A code span. -/
def renderCodeSpan (value : List Char) : List Char :=
  let fence := List.replicate (longestRun '`' value + 1) '`'
  let padded := if needsPadding value then ' ' :: value ++ [' '] else value
  fence ++ padded ++ fence

/-! ## 3. Links

A destination is written bare where it can be, and between angle brackets otherwise.  Parentheses
are counted, not matched. -/

/-- Escapes the angle brackets of a destination. -/
def escapeAngles (url : List Char) : List Char :=
  url.flatMap fun c => if c = '<' ∨ c = '>' then ['\\', c] else [c]

/-- A link destination. -/
def renderDestination (url : List Char) : List Char :=
  if url.isEmpty then ['<', '>']
  else if url.any (fun c => isBlank c || c == '<' || c == '>')
      || url.count '(' ≠ url.count ')' then
    '<' :: escapeAngles url ++ ['>']
  else url

/-- A link title, with the blank before it; nothing when there is none. -/
def renderTitle : Option String → List Char
  | none => []
  | some title =>
    [' ', '"'] ++ title.toList.flatMap (fun c => if c = '\\' ∨ c = '"' then ['\\', c] else [c])
      ++ ['"']

/-- Whether a character can stand in the scheme of an address. -/
def isSchemeChar (c : Char) : Bool := c.isAlphanum || c == '+' || c == '.' || c == '-'

/-- Whether an address can be written between angle brackets: a scheme of two to thirty-two
characters, and neither blanks nor angle brackets.  A line feed at the very end does not
count. -/
def isAutolinkable (url : List Char) : Bool :=
  let scheme := url.takeWhile isSchemeChar
  match url.dropWhile isSchemeChar with
  | ':' :: rest =>
    let body := if rest.getLast? == some '\n' then rest.dropLast else rest
    headIs Char.isAlpha scheme && 2 ≤ scheme.length && scheme.length ≤ 32
      && body.all (fun c => !isBlank c && c != '<' && c != '>')
  | _ => false

/-- The autolink of a link without a title whose only content is the given text, if the text is
its address. -/
def autolink? (url shown : List Char) : Option (List Char) :=
  if isAutolinkable url ∧ shown = url then some ('<' :: url ++ ['>'])
  else if url = ['m', 'a', 'i', 'l', 't', 'o', ':'] ++ shown ∧ '@' ∈ shown then
    some ('<' :: shown ++ ['>'])
  else none

/-- A link, given its content in written form. -/
def renderLink (url : List Char) (title : Option String) (children : List Node)
    (label : List Char) : List Char :=
  let full := '[' :: label ++ [']', '('] ++ renderDestination url ++ renderTitle title ++ [')']
  match title, children with
  | none, [.leaf (.text shown)] => (autolink? url shown.toList).getD full
  | _, _ => full

/-- An image. -/
def renderImage (url : List Char) (title : Option String) (alt : List Char) : List Char :=
  ['!', '['] ++ escapeText alt false ++ [']', '('] ++ renderDestination url ++ renderTitle title
    ++ [')']

/-! ## 4. The parts of a line

What is no part of a line, but stands in one, is written as nothing. -/

/-- A leaf inside a line; what cannot stand there leaves nothing. -/
def renderInlineLeaf (lineStart : Bool) : Leaf → List Char
  | .text value => escapeText value.toList lineStart
  | .inlineCode value => renderCodeSpan value.toList
  | .image url title alt => renderImage url.toList title alt.toList
  | .hardBreak => ['\\', '\n']
  | .html value => value.toList
  | .code _ _ | .thematicBreak => []

/-- Whether the next part begins a line, after a part in written form. -/
def beginsLineAfter (lineStart : Bool) (written : List Char) : Bool :=
  match written.getLast? with
  | some c => c == '\n'
  | none => lineStart

mutual
/-- A part of a line; `lineStart` says whether it begins a line of the output. -/
def renderInline (lineStart : Bool) : Node → List Char
  | .leaf kind => renderInlineLeaf lineStart kind
  | .branch kind cs =>
    match kind with
    | .emphasis => '*' :: renderInlines false cs ++ ['*']
    | .strong => ['*', '*'] ++ renderInlines false cs ++ ['*', '*']
    | .delete => ['~', '~'] ++ renderInlines false cs ++ ['~', '~']
    | .link url title => renderLink url.toList title cs (renderInlines false cs)
    | _ => []

/-- Several parts of a line, one after the other. -/
def renderInlines (lineStart : Bool) : List Node → List Char
  | [] => []
  | c :: cs =>
    let written := renderInline lineStart c
    written ++ renderInlines (beginsLineAfter lineStart written) cs
end

/-- The lines of a block without the blanks at their ends, and without empty lines around
them. -/
def tidyLines (cs : List Char) : List Char :=
  trimBoth isLineFeed (mapLines (dropEndWhile isBlank) cs)

end TaskNotes
