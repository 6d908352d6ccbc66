/-
# Reading spans

What stands inside a line.  A line is read from left to right; where a bracket opens, the end of
the label is found by passing over the tokens inside it, because a bracket inside a code span or
a tag does not count.  Passing over a token never looks inside more brackets than the nesting
limit, and remembers where each token ends.

The result are pieces, spans that are finished and runs of marks that may yet open or close
emphasis.  Which of the marks do so is decided when all pieces of a line are known
(`Markup/Delimiter`), and so the order of reading shows in the places where a bracket and a mark
overlap: brackets win.
-/
import TaskNotes.Markup.Delimiter
import TaskNotes.Markup.Tag

namespace TaskNotes.Markup

/-! ## 1. Code spans and autolinks

Both are taken as they stand, without a look at what is inside: neither an escape nor a reference
counts there. -/

/-- Looks for the next run of exactly so many backticks: the text before it and what follows it.
`fuel` bounds the number of runs. -/
def closingRun? (length : Nat) : (fuel : Nat) → List Char → Option (List Char × List Char)
  | 0, _ => none
  | fuel + 1, cs =>
    let text := cs.takeWhile (· ≠ '`')
    let more := cs.dropWhile (· ≠ '`')
    let run := more.takeWhile (· == '`')
    let after := more.dropWhile (· == '`')
    if run.isEmpty then none
    else if run.length = length then some (text, after)
    else (closingRun? length fuel after).map fun (inside, rest) => (text ++ run ++ inside, rest)

/-- What a code span holds: line feeds as spaces, without one space at either end unless there
are nothing but spaces. -/
def codeContent (cs : List Char) : List Char :=
  let flat := cs.map (fun c => if c = '\n' then ' ' else c)
  if flat.head? = some ' ' ∧ flat.getLast? = some ' ' ∧ !flat.all (· == ' ') then
    (flat.drop 1).dropLast
  else flat

/-- Reads a code span at a run of backticks: what it holds, and what follows it. -/
def codeSpan? (cs : List Char) : Option (List Char × List Char) :=
  let run := cs.takeWhile (· == '`')
  let rest := cs.dropWhile (· == '`')
  (closingRun? run.length (rest.length + 1) rest).map fun (inside, after) =>
    (codeContent inside, after)

/-- A text without one line feed at its end. -/
def dropLastFeed (cs : List Char) : List Char :=
  if cs.getLast? = some '\n' then cs.dropLast else cs

/-- Whether a text is an address with a scheme. -/
def isAddressText (cs : List Char) : Bool :=
  let scheme := cs.takeWhile (fun c => c.isAlphanum || c == '+' || c == '.' || c == '-')
  match (dropLastFeed cs).drop scheme.length with
  | ':' :: rest =>
    (scheme.head?.map Char.isAlpha).getD false && 2 ≤ scheme.length && scheme.length ≤ 32
      && rest.all (fun c => 32 < c.toNat && c != '<' && c != '>')
  | _ => false

/-- Whether a character can stand before the `@` of a mail address. -/
def isMailChar (c : Char) : Bool :=
  c.isAlphanum || ".!#$%&'*+/=?^_\x60\x7b|\x7d~-".toList.contains c

/-- Whether a text is a label of the host of a mail address. -/
def isMailLabel (label : List Char) : Bool :=
  label.length ≤ 63 && label.all (fun c => c.isAlphanum || c == '-')
    && (label.head?.map Char.isAlphanum).getD false
    && (label.getLast?.map Char.isAlphanum).getD false

/-- Whether a text is a mail address. -/
def isMailText (cs : List Char) : Bool :=
  let user := cs.takeWhile (· ≠ '@')
  match (dropLastFeed cs).drop user.length with
  | '@' :: host => !user.isEmpty && user.all isMailChar && (splitAtChar '.' host).all isMailLabel
  | _ => false

/-- Reads an autolink: its address, the text that is shown, and what follows it. -/
def autolink? (cs : List Char) : Option (List Char × List Char × List Char) :=
  match cs with
  | '<' :: rest =>
    let text := rest.takeWhile (fun c => c != '<' && c != '>')
    match rest.drop text.length with
    | '>' :: after =>
      let raw := if isAddressText text then some text
        else if isMailText text then some ("mailto:".toList ++ text) else none
      match raw with
      | none => none
      | some raw =>
        let address := normalizeAddress raw
        if isSafeAddress address then some (address, readableAddress text, after) else none
    | _ => none
  | _ => none

/-! ## 2. Passing over tokens

A label ends at the bracket that belongs to it, and to find that one the tokens in between have to
be told apart without being read.  Without the memory a bracket inside of others would be passed
over once for each of these.

A link is read in here as far as its end, which takes its target, and a reference is a link only if
a definition has its label.  So the definitions are needed for passing over a bracket, and not for
reading it alone. -/

/-- What is remembered of a line: how many characters follow the text that is being read, and
where tokens end.  A place is the number of characters left there. -/
structure Memory where
  beyond : Nat
  ends : List (Nat × Nat)

namespace Memory

/-- Nothing is known of a line. -/
def empty : Memory := ⟨0, []⟩

/-- Where the token at the start of a text ends, if it is known: what follows it. -/
def tokenEnd? (m : Memory) (cs : List Char) : Option (List Char) :=
  (m.ends.lookup (cs.length + m.beyond)).map fun left => cs.drop (cs.length + m.beyond - left)

/-- Remembers what follows the token at the start of a text. -/
def withEnd (m : Memory) (cs after : List Char) : Memory :=
  { m with ends := (cs.length + m.beyond, after.length + m.beyond) :: m.ends }

/-- The memory for reading a part of a text that begins at the same character and is followed by
so many others. -/
def before (m : Memory) (others : Nat) : Memory := { m with beyond := others + m.beyond }

end Memory

/-- Passes over one token at the start of a text that is not empty. -/
abbrev Pass := Memory → List Char → Memory × List Char

/-- Finds the bracket that closes a label: the text from there on.  When links must not be
nested, a link inside makes it fail. -/
def labelEnd? (pass : Pass) (nested : Bool) :
    (fuel level : Nat) → Memory → List Char → Memory × Option (List Char)
  | 0, _, memory, _ => (memory, none)
  | _, _, memory, [] => (memory, none)
  | fuel + 1, level, memory, c :: cs =>
    if c = ']' ∧ level = 0 then (memory, some (c :: cs))
    else
      let level := if c = ']' then level - 1 else level
      let (memory, after) := pass memory (c :: cs)
      if c = '[' then
        if after.length = cs.length then labelEnd? pass nested fuel (level + 1) memory after
        else if nested then labelEnd? pass nested fuel level memory after
        else (memory, none)
      else labelEnd? pass nested fuel level memory after

/-- Reads the label after an opening bracket: it, and what follows its closing bracket. -/
def label? (pass : Pass) (nested : Bool) (memory : Memory) (inside : List Char) :
    Memory × Option (List Char × List Char) :=
  let (memory, found) := labelEnd? pass nested (inside.length + 1) 0 memory inside
  (memory, found.map fun rest => (inside.take (inside.length - rest.length), rest.drop 1))

/-- Blanks that may stand between the parts of a target. -/
def isTargetBlank (c : Char) : Bool := isSpaceOrTab c || c == '\n'

/-- Reads the target in parentheses, after the opening one: the target if there is a closing one
after its parts, and otherwise the text where that is missing. -/
def inlineTarget (inside : List Char) : Except (List Char) (Target × List Char) :=
  let start := inside.dropWhile isTargetBlank
  let (address, title, rest) : List Char × Option (List Char) × List Char :=
    match destination? start with
    | none => ([], none, start)
    | some (raw, afterRaw) =>
      let address := normalizeAddress raw
      if !isSafeAddress address then ([], none, start)
      else
        let gap := afterRaw.dropWhile isTargetBlank
        match (if gap.length = afterRaw.length then none else title? gap) with
        | some (title, afterTitle) =>
          (address, nonEmpty? title, afterTitle.dropWhile isTargetBlank)
        | none => (address, none, gap)
  match rest with
  | ')' :: after => .ok (⟨address, title, none⟩, after)
  | _ => .error rest

/-- Reads the rest of a reference after its text: another label, or nothing.  Without definitions
there are no references, and no label is looked for.  `from_` is where
the other label may begin, `after` is what follows the text. -/
def reference? (definitions : List Definition) (pass : Pass) (memory : Memory)
    (label from_ after : List Char) : Memory × Option (Target × List Char) :=
  if definitions.isEmpty then (memory, none)
  else
    let (memory, other) := match from_ with
      | '[' :: inside => label? pass true memory inside
      | _ => (memory, none)
    let (name, rest) := match other with
      | some (name, rest) => (if name.isEmpty then label else name, rest)
      | none => (label, after)
    let name := normalizeLabel name
    (memory, (lookup? definitions name).map fun d => (⟨d.address, d.title, some name⟩, rest))

/-- Reads a link at an opening bracket: its target, its text, and what follows it. -/
def link? (definitions : List Definition) (pass : Pass) (memory : Memory) (inside : List Char) :
    Memory × Option (Target × List Char × List Char) :=
  match label? pass false memory inside with
  | (memory, none) => (memory, none)
  | (memory, some (label, after)) =>
    let finish := fun (result : Memory × Option (Target × List Char)) =>
      (result.1, result.2.map fun (target, rest) => (target, label, rest))
    match after with
    | '(' :: parens =>
      if parens.all isTargetBlank then (memory, none)
      else
        match inlineTarget parens with
        | .ok (target, rest) => (memory, some (target, label, rest))
        | .error rest => finish (reference? definitions pass memory label (rest.drop 1) after)
    | _ => finish (reference? definitions pass memory label after after)

/-- Reads an image after its `!` at an opening bracket: its target, its description, and what
follows it. -/
def image? (definitions : List Definition) (pass : Pass) (memory : Memory)
    (inside : List Char) : Memory × Option (Target × List Char × List Char) :=
  match label? pass true memory inside with
  | (memory, none) => (memory, none)
  | (memory, some (label, after)) =>
    match after with
    | '(' :: parens =>
      match inlineTarget parens with
      | .ok (target, rest) => (memory, some (target, label, rest))
      | .error _ => (memory, none)
    | _ =>
      let (memory, found) := reference? definitions pass memory label after after
      (memory, found.map fun (target, rest) => (target, label, rest))

/-- What follows the token at the start of a text, for tokens that hold no brackets. -/
def afterSimpleToken (c : Char) (cs : List Char) : List Char :=
  match c with
  | '\n' => cs.dropWhile isSpaceOrTab
  | '\\' =>
    match cs with
    | '\n' :: rest => rest.dropWhile isSpaceOrTab
    | _ => cs.drop 1
  | '<' =>
    match autolink? (c :: cs) with
    | some (_, _, after) => after
    | none =>
      match cs with
      | _ :: _ :: _ => (rawHtml? (c :: cs)).getD cs
      | _ => cs
  | '&' =>
    match charRef? cs with
    | some (_, after) => after
    | none => cs
  | '`' =>
    match codeSpan? (c :: cs) with
    | some (_, after) => after
    | none => cs.dropWhile (· == '`')
  | _ => cs

/-- Passes over one token, looking inside at most so many brackets. -/
def passToken (definitions : List Definition) : (depth : Nat) → Pass
  | _, memory, [] => (memory, [])
  | depth, memory, c :: cs =>
    match memory.tokenEnd? (c :: cs) with
    | some after => (memory, after)
    | none =>
      match depth with
      | 0 => (memory.withEnd (c :: cs) [], [])
      | depth + 1 =>
        let (memory, after) : Memory × List Char :=
          match c, cs with
          | '[', _ =>
            let (memory, found) := link? definitions (passToken definitions depth) memory cs
            (memory, (found.map fun (_, _, rest) => rest).getD cs)
          | '!', '[' :: inside =>
            let (memory, found) := image? definitions (passToken definitions depth) memory inside
            (memory, (found.map fun (_, _, rest) => rest).getD cs)
          | _, _ => (memory, afterSimpleToken c cs)
        (memory.withEnd (c :: cs) after, after)

/-! ## 3. Pieces

Behind the text that has been read come the marks of one run, or one span, or nothing but the next
character.  Too many brackets inside of each other leave the innermost as text. -/

/-- How deep brackets may nest. -/
def spanLimit : Nat := 20

/-- What is known while a line is read: the definitions, whether pairs of tildes strike through,
how many brackets may nest, and in how many descriptions of images the text stands. -/
structure Reader where
  definitions : List Definition
  strikes : Bool
  depth : Nat
  images : Nat

/-- The reader for the text of a link. -/
def Reader.inside (r : Reader) : Reader := { r with depth := r.depth - 1 }

/-- The reader for the description of an image. -/
def Reader.inImage (r : Reader) : Reader := { r with depth := spanLimit, images := r.images + 1 }

/-- The span of a character that is written as an escape or a reference.  The description of an
image inside that of another one does not show it. -/
def Reader.special (r : Reader) (value : List Char) : Span :=
  .text (if r.images < 2 then value else [])

/-- The pieces of text that has been read but is not part of a piece yet, its last character
first. -/
def pendingPieces (pending : List Char) : List Piece :=
  if pending.isEmpty then [] else [.span (.text pending.reverse)]

/-- The pieces at a line feed: trailing spaces of the text vanish, and two of them break the
line. -/
def feedPieces (pending : List Char) : List Piece :=
  let rest := pending.dropWhile (· == ' ')
  let brk := if rest.length + 2 ≤ pending.length then Span.hardBreak else Span.softBreak
  pendingPieces rest ++ [.span brk]

/-- The delimiters of a run of emphasis marks. -/
def emphasisPieces (mark : Char) (length run : Nat) (before after : Char) : List Piece :=
  let (opens, closes) := flanking (mark == '*') before after
  List.replicate length (.delimiter ⟨mark, [mark], length, opens, closes, run⟩)

/-- The delimiters of a run of tildes. -/
def strikePieces (length run : Nat) (before after : Char) : List Piece :=
  let (opens, closes) := flanking true before after
  (if length % 2 = 1 then [.lone] else [])
    ++ List.replicate (length / 2) (.delimiter ⟨'~', ['~', '~'], 0, opens, closes, run⟩)

/-- The pieces of a text, from the character before it on; `fuel` bounds its length. -/
def Reader.pieces : (fuel : Nat) → Reader → Memory → (before : Char) → (pending : List Char) →
    List Char → List Piece
  | 0, _, _, _, pending, _ => pendingPieces pending
  | _, _, _, _, pending, [] => pendingPieces pending
  | fuel + 1, r, memory, before, pending, c :: cs =>
    let pass := passToken r.definitions r.depth
    let go := fun (memory : Memory) (found : List Piece) (rest : List Char) =>
      let used := (c :: cs).take (cs.length + 1 - rest.length)
      found ++ pieces fuel r memory (used.getLast?.getD before) [] rest
    let push := fun (memory : Memory) (span : Span) (rest : List Char) =>
      go memory (pendingPieces pending ++ [.span span]) rest
    let plain := fun (memory : Memory) => pieces fuel r memory c (c :: pending) cs
    let run := cs.takeWhile (· == c)
    let afterRun := cs.dropWhile (· == c)
    let nextChar := afterRun.head?.getD ' '
    if r.depth = 0 then pendingPieces (cs.reverse ++ c :: pending)
    else if c = '\n' then go memory (feedPieces pending) (cs.dropWhile isSpaceOrTab)
    else if c = '\\' then
      match cs with
      | [] => plain memory
      | d :: rest =>
        if d = '\n' then push memory .hardBreak (rest.dropWhile isSpaceOrTab)
        else push memory (r.special (if isAsciiPunctuation d then [d] else [c, d])) rest
    else if c = '`' then
      match codeSpan? (c :: cs) with
      | some (value, rest) => push memory (.code value) rest
      | none => pieces fuel r memory c (run ++ c :: pending) afterRun
    else if c = '~' ∧ r.strikes ∧ 1 ≤ run.length then
      go memory
        (pendingPieces pending ++ strikePieces (run.length + 1) cs.length before nextChar) afterRun
    else if c = '*' ∨ c = '_' then
      go memory
        (pendingPieces pending ++ emphasisPieces c (run.length + 1) cs.length before nextChar)
        afterRun
    else if c = '[' then
      match link? r.definitions pass memory cs with
      | (memory, some (target, label, rest)) =>
        let inner := memory.before (cs.length - label.length)
        push memory (.link target (matchDelimiters (pieces fuel r.inside inner '[' [] label))) rest
      | (memory, none) => plain memory
    else if c = '!' ∧ cs.head? = some '[' then
      match image? r.definitions pass memory (cs.drop 1) with
      | (memory, some (target, source, rest)) =>
        let children := matchDelimiters (pieces fuel r.inImage .empty ' ' [] source)
        push memory (.image target source children) rest
      | (memory, none) => plain memory
    else if c = '<' then
      match autolink? (c :: cs), (if 2 ≤ cs.length then rawHtml? (c :: cs) else none) with
      | some (address, shown, rest), _ => push memory (.autolink address shown) rest
      | none, some rest => push memory (.html ((c :: cs).take (cs.length + 1 - rest.length))) rest
      | none, none => plain memory
    else if c = '&' then
      match charRef? cs with
      | some (value, rest) => push memory (r.special value) rest
      | none => plain memory
    else plain memory

/-- The spans of a text. -/
def readSpans (definitions : List Definition) (strikes : Bool) (text : List Char) : List Span :=
  matchDelimiters
    (Reader.pieces (text.length + 1) ⟨definitions, strikes, spanLimit, 0⟩ .empty ' ' [] text)

end TaskNotes.Markup
