/-
# Files of assignments

A file of assignments has lines of the form `NAME=value`, and a byte order mark in front of them
does not count.  Blanks around the name and before the value do not count, `export` may stand in
front, and a `#` begins a comment: at the start of a line, after a quoted value, or behind a blank
in one without quotes, also where the value would begin.  A value between single quotes is taken
as it is but for escaped quotes and backslashes; between double quotes the usual escapes are
known.  What cannot be read is passed over to the end of its line.

In a value a name in braces behind a dollar sign stands for the value of that variable, and a
default may follow the name.  A name without a value unsets the variable.

A file is read in one go and cannot fail: a line that makes no sense is passed over, and reading
goes on behind it.  Only then are references put in, in the order of the lines, so that a value can
refer to variables that have been set above it.
-/
import TaskNotes.Text.Blank

namespace TaskNotes

/-! ## 1. Names

A name ends where a blank, an equals sign or the mark of a comment stands, unless it is quoted. -/

/-- Blanks inside a line. -/
def isLineBlank (c : Char) : Bool := isBlank c && c != '\n' && c != '\r'

/-- Whether a character ends a line. -/
def isLineEnd (c : Char) : Bool := c == '\n' || c == '\r'

/-- What follows the word `export` and blanks. -/
def afterExport (cs : List Char) : List Char :=
  let word := "export".toList
  if word.isPrefixOf cs then
    let rest := cs.drop word.length
    let after := rest.dropWhile isLineBlank
    if after.length < rest.length then after else cs
  else cs

/-- Reads the name of a variable, in single quotes or not. -/
def variableName? (cs : List Char) : Option (List Char × List Char) :=
  match cs with
  | '\'' :: rest =>
    let name := rest.takeWhile (· != '\'')
    match rest.drop name.length with
    | _ :: after => if name.isEmpty then none else some (name, after)
    | [] => none
  | _ =>
    let name := cs.takeWhile fun c => !isBlank c && c != '=' && c != '#'
    if name.isEmpty then none else some (name, cs.drop name.length)

/-! ## 2. Values

What a backslash does depends on the quotes: between double ones many characters have an escape,
between single ones only the quote and the backslash, and without quotes there are none. -/

/-- The character that an escape between double quotes stands for. -/
def escapedChar? (c : Char) : Option Char :=
  match c with
  | '\\' | '\'' | '"' => some c
  | 'a' => some (Char.ofNat 7)
  | 'b' => some (Char.ofNat 8)
  | 'f' => some (Char.ofNat 12)
  | 'n' => some '\n'
  | 'r' => some '\r'
  | 't' => some '\t'
  | 'v' => some (Char.ofNat 11)
  | _ => none

/-- Reads up to a closing quote, with escapes as they are written.  A quote behind a backslash
closes only if no other quote does. -/
def quotedInside? (quote : Char) : List Char → Option (List Char × List Char)
  | [] => none
  | '\\' :: c :: rest =>
    if c = quote then
      match quotedInside? quote rest with
      | some (inside, after) => some ('\\' :: c :: inside, after)
      | none => some (['\\'], rest)
    else if c = '\\' then
      (quotedInside? quote rest).map fun (inside, after) => ('\\' :: c :: inside, after)
    else
      (quotedInside? quote (c :: rest)).map fun (inside, after) => ('\\' :: inside, after)
  | c :: rest =>
    if c = quote then some ([], rest)
    else (quotedInside? quote rest).map fun (inside, after) => (c :: inside, after)

/-- Resolves escapes. -/
def resolveEscapes (escape? : Char → Option Char) : List Char → List Char
  | '\\' :: c :: rest =>
    match escape? c with
    | some d => d :: resolveEscapes escape? rest
    | none => '\\' :: resolveEscapes escape? (c :: rest)
  | c :: rest => c :: resolveEscapes escape? rest
  | [] => []

/-- The escapes between single quotes. -/
def plainEscape? (c : Char) : Option Char := if c = '\\' ∨ c = '\'' then some c else none

/-- A value without quotes, up to a comment behind a blank. -/
def dropComment : List Char → List Char
  | [] => []
  | c :: cs =>
    if isBlank c ∧ (cs.dropWhile isBlank).head? = some '#' then [] else c :: dropComment cs

/-- Reads a value. -/
def variableValue? (cs : List Char) : Option (List Char × List Char) :=
  match cs with
  | '\'' :: rest =>
    (quotedInside? '\'' rest).map fun (inside, after) =>
      (resolveEscapes plainEscape? inside, after)
  | '"' :: rest =>
    (quotedInside? '"' rest).map fun (inside, after) =>
      (resolveEscapes escapedChar? inside, after)
  | _ =>
    let line := cs.takeWhile (fun c => !isLineEnd c)
    some (dropEndWhile isBlank (dropComment line), cs.drop line.length)

/-! ## 3. Lines

A quoted value may hold line feeds, so a line is not found before what it holds has been read. -/

/-- What a file says about a variable: its value as it is written, or that it has none. -/
abbrev Assignment := List Char × Option (List Char)

/-- What follows the end of a line. -/
def afterLine (cs : List Char) : List Char := (cs.dropWhile fun c => !isLineEnd c).drop 1

/-- Goes on behind a comment to the next line.  If something else is there, what has been read
does not count. -/
def endLine (found : Option Assignment) (cs : List Char) : Option Assignment × List Char :=
  let rest := cs.dropWhile isLineBlank
  let rest := if rest.head? = some '#' then rest.dropWhile (fun c => !isLineEnd c) else rest
  match rest with
  | [] => (found, [])
  | c :: after => if isLineEnd c then (found, after) else (none, afterLine rest)

/-- Reads what is behind the name of a variable. -/
def readValue (name cs : List Char) : Option Assignment × List Char :=
  match cs.dropWhile isLineBlank with
  | '=' :: after =>
    let start := after.dropWhile isLineBlank
    if start.length < after.length ∧ start.head? = some '#' then
      endLine (some (name, some [])) start
    else
      match variableValue? start with
      | some (value, rest) => endLine (some (name, some value)) rest
      | none => (none, afterLine start)
  | rest => endLine (some (name, none)) rest

/-- Reads an assignment or a comment, and gives what follows its line. -/
def readAssignment (cs : List Char) : Option Assignment × List Char :=
  let cs := afterExport cs
  if cs.head? = some '#' then endLine none cs
  else
    match variableName? cs with
    | some (name, rest) => readValue name rest
    | none => (none, afterLine cs)

/-- Reads assignments; `fuel` bounds the number of lines. -/
def readLines : (fuel : Nat) → List Char → List Assignment
  | 0, _ => []
  | fuel + 1, cs =>
    match cs.dropWhile isBlank with
    | [] => []
    | c :: rest =>
      let (found, rest) := readAssignment (c :: rest)
      found.toList ++ readLines fuel rest

/-! ## 4. References

A reference that is not closed is text.  What is put in is not looked at again. -/

/-- A reference to a variable behind a dollar sign: its name, its default, and what follows. -/
def reference? : List Char → Option (List Char × List Char × List Char)
  | '\x7b' :: cs =>
    let name := cs.takeWhile fun c => c != '\x7d' && c != ':'
    match cs.drop name.length with
    | '\x7d' :: rest => some (name, [], rest)
    | ':' :: '-' :: rest =>
      let default := rest.takeWhile (· != '\x7d')
      match rest.drop default.length with
      | _ :: rest => some (name, default, rest)
      | [] => none
    | _ => none
  | _ => none

/-- Puts in what references stand for; `fuel` bounds the length of the text. -/
def expandReferences (value? : List Char → Option (List Char)) :
    (fuel : Nat) → List Char → List Char
  | 0, cs => cs
  | _, [] => []
  | fuel + 1, c :: cs =>
    match if c = '$' then reference? cs else none with
    | some (name, default, rest) =>
      (value? name).getD default ++ expandReferences value? fuel rest
    | none => c :: expandReferences value? fuel cs

/-! ## 5. Files

The value of a reference is looked up in what the file has set so far and in the environment, the
one before the other. -/

/-- Variables and their values; one without a value is unset. -/
abbrev Variables := List (String × Option String)

/-- Sets a variable; one that is there already keeps its place. -/
def Variables.set (known : Variables) (name : String) (value : Option String) : Variables :=
  if (known.lookup name).isSome then
    known.map fun v => if v.1 = name then (name, value) else v
  else known ++ [(name, value)]

/-- The text that a reference to a variable stands for: what the file has said so far comes before
the environment. -/
def Variables.referred? (known environment : Variables) (name : List Char) :
    Option (List Char) :=
  let key := String.ofList name
  ((known.lookup key).orElse fun _ => environment.lookup key).map fun value =>
    (value.getD "").toList

/-- The mark that tells the order of the bytes of a text. -/
def byteOrderMark : Char := Char.ofNat 0xFEFF

/-- A text without the mark in front of it. -/
def dropByteOrderMark : List Char → List Char
  | [] => []
  | c :: cs => if c = byteOrderMark then cs else c :: cs

/-- The variables that a text sets in an environment. -/
def assignments (environment : Variables) (text : List Char) : Variables :=
  (readLines (text.length + 1) (dropByteOrderMark text)).foldl (fun known found =>
    let value := found.2.map fun written =>
      String.ofList (expandReferences (known.referred? environment) written.length written)
    known.set (String.ofList found.1) value) []

end TaskNotes
