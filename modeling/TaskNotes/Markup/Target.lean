/-
# Targets of links

The parts that follow the text of a link: a destination, in angle brackets or bare with balanced
parentheses, and a title in quotes or parentheses.  A reference names a definition by its label;
labels are compared after trimming, with every run of spacing as one space, and regardless of
case.

The parts are used in two places, in the parentheses behind the text of a link and in the lines of
a definition.  Each is read with the rest of the text returned, so the two places can disagree
about what may come next.
-/
import TaskNotes.Markup.CharRef
import TaskNotes.Text.Casefold
import TaskNotes.Text.Blank
import TaskNotes.Url.Address

namespace TaskNotes.Markup

/-! ## 1. Destinations

A destination is found on the text as it is written, where a backslash keeps the next character
from ending it, and its escapes are resolved afterwards. -/

/-- Reads the inside of a destination in angle brackets and the closing bracket. -/
def angledInside? : List Char → Option (List Char × List Char)
  | [] => none
  | ['\\'] => none
  | '\\' :: d :: rest =>
    (angledInside? rest).map fun (inside, after) => ('\\' :: d :: inside, after)
  | c :: rest =>
    if c = '\n' ∨ c = '<' then none
    else if c = '>' then some ([], rest)
    else (angledInside? rest).map fun (inside, after) => (c :: inside, after)

/-- Whether a character ends a bare destination. -/
def endsBare (c : Char) : Bool := c == ' ' || c.toNat < 32 || c.toNat == 127

/-- How deep the parentheses of a destination may nest. -/
def parenthesisLimit : Nat := 32

/-- Reads a bare destination inside so many open parentheses. -/
def bareInside? (depth : Nat) : List Char → Option (List Char × List Char)
  | [] => if depth = 0 then some ([], []) else none
  | ['\\'] => if depth = 0 then some (['\\'], []) else none
  | '\\' :: d :: rest =>
    if d = ' ' then if depth = 0 then some ([], '\\' :: d :: rest) else none
    else (bareInside? depth rest).map fun (inside, after) => ('\\' :: d :: inside, after)
  | c :: rest =>
    if endsBare c ∨ (c = ')' ∧ depth = 0) then
      if depth = 0 then some ([], c :: rest) else none
    else if c = '(' then
      if parenthesisLimit ≤ depth then none
      else (bareInside? (depth + 1) rest).map fun (inside, after) => (c :: inside, after)
    else
      (bareInside? (if c = ')' then depth - 1 else depth) rest).map
        fun (inside, after) => (c :: inside, after)

/-- Reads a destination as it is written. -/
def rawDestination? (cs : List Char) : Option (List Char × List Char) :=
  match cs with
  | '<' :: rest => angledInside? rest
  | _ =>
    match bareInside? 0 cs with
    | some ([], _) => none
    | found => found

/-- Reads a destination, its escapes resolved. -/
def destination? (cs : List Char) : Option (List Char × List Char) :=
  (rawDestination? cs).map fun (inside, after) => (unescapeAll inside, after)

/-! ## 2. Titles

A title that has not closed at the end of a text may do so in the next line of a definition, which
is not the same as being none. -/

/-- The result of reading a title: it closes, it goes on beyond the text, or it is none. -/
inductive TitleScan
  | closed (title after : List Char)
  | unfinished
  | broken

/-- Reads a title up to its closing mark. -/
def scanTitle (close : Char) : List Char → TitleScan
  | [] => .unfinished
  | ['\\'] => .unfinished
  | '\\' :: d :: rest =>
    match scanTitle close rest with
    | .closed inside after => .closed ('\\' :: d :: inside) after
    | other => other
  | c :: rest =>
    if c = close then .closed [] rest
    else if c = '(' ∧ close = ')' then .broken
    else
      match scanTitle close rest with
      | .closed inside after => .closed (c :: inside) after
      | other => other

/-- The mark that closes a title, given the one that opens it. -/
def titleClose? (c : Char) : Option Char :=
  if c = '"' ∨ c = '\'' then some c else if c = '(' then some ')' else none

/-- Reads a title as it is written. -/
def rawTitle (cs : List Char) : TitleScan :=
  match cs with
  | [] => .broken
  | c :: rest =>
    match titleClose? c with
    | some close => scanTitle close rest
    | none => .broken

/-- Reads a title, its escapes resolved. -/
def title? (cs : List Char) : Option (List Char × List Char) :=
  match rawTitle cs with
  | .closed inside after => some (unescapeAll inside, after)
  | _ => none

/-! ## 3. Labels

Case is forgotten by way of the small form and then the capital one, so letters with several small
forms agree in the end. -/

/-- A text with every run of spacing as one space; `inRun` says whether spacing has just been
read. -/
def collapseSpacing (inRun : Bool) : List Char → List Char
  | [] => []
  | c :: cs =>
    if isSpacing c then (if inRun then [] else [' ']) ++ collapseSpacing true cs
    else c :: collapseSpacing false cs

/-- The form in which labels are compared. -/
def normalizeLabel (label : List Char) : List Char :=
  labelCase (collapseSpacing false (trimSpacing label))

/-! ## 4. Definitions

The first definition of a label counts, and those after it are never used. -/

/-- What a link points at: its address, its title if it has one, and the label of the definition
that gave them. -/
structure Target where
  address : List Char
  title : Option (List Char)
  label : Option (List Char)
deriving DecidableEq, Repr

/-- A definition that references can name. -/
structure Definition where
  label : List Char
  address : List Char
  title : Option (List Char)
deriving DecidableEq, Repr

/-- A title; an empty one counts as none. -/
def nonEmpty? (title : List Char) : Option (List Char) :=
  if title.isEmpty then none else some title

/-- The first definition of a label. -/
def lookup? (definitions : List Definition) (label : List Char) : Option Definition :=
  definitions.find? (fun d => d.label == label)

end TaskNotes.Markup
