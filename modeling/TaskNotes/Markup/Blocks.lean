/-
# Reading blocks

The block structure of a text.  `readBlocks` reads the lines of one container: at each line that
is not blank the kinds of block are tried in a fixed order, and the one that fits says which
lines belong to it.  Containers hand their lines, seen from inside, to the same reader; how deep
they may nest is bounded, and what is nested deeper is left out.

The lines of a container end where a line is not indented enough; the reader gives back the
lines it has not used.

The reader takes fuel for the number of lines and a depth for the nesting of containers, so it is
structurally recursive.  Readers of the content of quotations and of items are parameters of what
reads one block, and are put in by `readBlocks`, each with a smaller depth.
-/
import TaskNotes.Markup.Line
import TaskNotes.Markup.Marker
import TaskNotes.Markup.Tag
import TaskNotes.Markup.Syntax

namespace TaskNotes.Markup

/-! ## 1. What is known inside a container

The mark of a quotation is taken off a line before the line is handed on, and the indentation of a
list item is not; so how far the innermost item is indented has to be known. -/

/-- How far the content of the innermost list item is indented, and the list around it. -/
structure Context where
  indent : Nat
  listIndent : Option Nat

/-- Outside all containers. -/
def Context.top : Context := ⟨0, none⟩

/-- Whether a line is indented as code is. -/
def Context.isCode (ctx : Context) (line : Line) : Bool := ctx.indent + 4 ≤ line.indent

/-- A block whose inline content is source text. -/
abbrev SourceBlock := Block (List Char)

/-- What has been read: the blocks, the lines left over, and whether the last block followed no
blank line. -/
structure Reading where
  blocks : List SourceBlock
  rest : List Line
  tight : Bool

/-! ## 2. What a line can interrupt

A paragraph goes on until a line begins another block.  Not every block can interrupt it, and what
can do so depends on what is open. -/

/-- What a line may put an end to. -/
inductive Interrupted
  | paragraph
  | definition
  | quotation
deriving DecidableEq

/-- Whether a line is indented like an item of the list around, but too far for a new item. -/
def Context.isTooDeep (ctx : Context) (line : Line) : Bool :=
  match ctx.listIndent with
  | some listIndent => listIndent + 4 ≤ line.indent && line.indent < ctx.indent
  | none => false

/-- The marker of a list item with which a line begins. -/
def Context.itemMarker? (ctx : Context) (line : Line) : Option ListMarker :=
  if ctx.isCode line || ctx.isTooDeep line then none else listMarker? line.body

/-- Whether a line begins a list.  Inside a paragraph the first item must not be empty, and its
number must be one. -/
def Context.beginsList (ctx : Context) (what : Interrupted) (line : Line) : Bool :=
  match ctx.itemMarker? line with
  | none => false
  | some marker =>
    if what = .paragraph ∧ ctx.indent ≤ line.indent then
      (marker.number.getD 1 == 1)
        && !((line.body.drop marker.length).all isSpaceOrTab)
    else true

/-- Whether a line begins a block that every list item ends at. -/
def Context.endsItems (ctx : Context) (line : Line) : Bool :=
  !ctx.isCode line
    && ((fence? line.body).isSome || line.body.head? == some '>' || isRule line.body)

/-- Whether a line begins a block that puts an end to what is open. -/
def Context.interrupts (ctx : Context) (what : Interrupted) (line : Line) : Bool :=
  !ctx.isCode line
    && (ctx.endsItems line || ctx.beginsList what line
      || ((HtmlBlock.ofLine? line.body).map HtmlBlock.interrupts).getD false
      || (atxHeading? line.body).isSome)

/-- Whether a line goes on with a paragraph or definition. -/
def Context.continues (ctx : Context) (what : Interrupted) (line : Line) : Bool :=
  !line.isBlank && (ctx.isCode line || line.indent < 0 || !ctx.interrupts what line)

/-! ## 3. Blocks that hold no blocks

Each gives the lines that belong to it and those that follow. -/

/-- Lines of indented code, and what follows; blank lines at the end are not part of it. -/
def Context.splitCode (ctx : Context) (lines : List Line) : List Line × List Line :=
  let zone := lines.takeWhile (fun l => l.isBlank || ctx.isCode l)
  let blanks := (zone.reverse.takeWhile Line.isBlank).length
  let count := zone.length - blanks
  (lines.take count, lines.drop count)

/-- Whether the text ends with this line, and nothing is in it. -/
def Line.isBareEnd (line : Line) : Bool := line.isBlank && !line.ended

/-- The lines inside a fence, and what follows its end. -/
def Context.splitFence (ctx : Context) (fence : Fence) : List Line → List Line × List Line
  | [] => ([], [])
  | line :: more =>
    if (!line.isBlank && line.indent < ctx.indent) || line.isBareEnd then ([], line :: more)
    else if !ctx.isCode line && fence.closedBy line.body then ([], more)
    else
      let (inside, after) := splitFence ctx fence more
      (line :: inside, after)

/-- A line with its line feed, if it has one. -/
def Line.cutEnded (columns : Nat) (line : Line) : List Char :=
  line.cut columns ++ (if line.ended then ['\n'] else [])

/-- The lines of an HTML block after its first, and what follows.  A blank line is not indented
too little. -/
def Context.splitHtml (ctx : Context) (kind : HtmlBlock) : List Line → List Line × List Line
  | [] => ([], [])
  | line :: more =>
    if !line.isBlank && line.indent < ctx.indent then ([], line :: more)
    else if kind.endsAt line.body then
      if line.body.isEmpty then ([], line :: more) else ([line], more)
    else
      let (inside, after) := splitHtml ctx kind more
      (line :: inside, after)

/-- Looks for the underline of a heading: the lines above it, its depth, and what follows. -/
def Context.underlined? (ctx : Context) : List Line → Option (List Line × Depth × List Line)
  | [] => none
  | line :: more =>
    let further := (underlined? ctx more).map fun (above, found) => (line :: above, found)
    if line.isBlank then none
    else if ctx.isCode line then further
    else
      match (if ctx.indent ≤ line.indent then underline? line.body else none) with
      | some depth => some ([], depth, more)
      | none =>
        if line.indent < 0 then further
        else if ctx.interrupts .paragraph line then none
        else further

/-- The text of lines of a paragraph. -/
def Context.paragraphText (ctx : Context) (lines : List Line) : List Char :=
  trimSpacing (cutLines ctx.indent lines)

/-! ## 4. Definitions

A definition is read from the text of the lines that it could reach to, and uses as many of them as
it has line feeds. -/

/-- Reads the label of a definition and the bracket that closes it. -/
def definitionLabel? : List Char → Option (List Char × List Char)
  | [] => none
  | [c] => if c = ']' then some ([], []) else none
  | c :: d :: rest =>
    if c = '[' then none
    else if c = ']' then some ([], d :: rest)
    else if c = '\\' then
      (definitionLabel? rest).map fun (inside, after) => (c :: d :: inside, after)
    else (definitionLabel? (d :: rest)).map fun (inside, after) => (c :: inside, after)

/-- A text up to and with its first line feed, and what follows. -/
def splitFirstLine (cs : List Char) : List Char × List Char :=
  match cs.dropWhile (· ≠ '\n') with
  | lf :: rest => (cs.takeWhile (· ≠ '\n') ++ [lf], rest)
  | [] => (cs, [])

/-- Whether nothing but blanks follows on a line. -/
def restIsBlank (cs : List Char) : Bool :=
  match cs.dropWhile isSpaceOrTab with
  | [] => true
  | c :: _ => c == '\n'

/-- Whether a character is skipped between the parts of a definition. -/
def isDefinitionBlank (c : Char) : Bool := isSpaceOrTab c || c == '\n'

/-- Reads the title of a definition after its destination, if there is a valid one: the title
and how much of the text follows it.  Only a title that goes on in the next line may stand right
behind the destination. -/
def definitionTitle? (afterDestination : List Char) : Option (List Char × List Char) :=
  let start := afterDestination.dropWhile isDefinitionBlank
  match title? start with
  | none => none
  | some (title, rest) =>
    let apart := start.length < afterDestination.length
    if apart || (start.take (start.length - rest.length)).contains '\n' then some (title, rest)
    else none

/-- Reads a definition from the text of its lines: it, and how many characters of the text lie
before the end of its last part.  A destination that ends with a backslash takes the line feed
with it, and then nothing else belongs to the definition. -/
def definition? (text : List Char) : Option (Definition × Nat) :=
  match text with
  | '[' :: inside =>
    match definitionLabel? inside with
    | some (label, ':' :: afterColon) =>
      let start := afterColon.dropWhile isDefinitionBlank
      let (line, later) := splitFirstLine start
      match destination? line with
      | none => none
      | some (raw, afterRaw) =>
        let address := normalizeAddress raw
        let label := normalizeLabel label
        let plain : Option (Definition × Nat) :=
          if afterRaw.isEmpty || restIsBlank (afterRaw ++ later) then
            some (⟨label, address, none⟩, text.length - start.length)
          else none
        if !isSafeAddress address || label.isEmpty then none
        else
          match (if afterRaw.isEmpty then none else definitionTitle? (afterRaw ++ later)) with
          | none => plain
          | some (title, afterTitle) =>
            if restIsBlank afterTitle then
              some (⟨label, address, nonEmpty? title⟩, text.length - afterTitle.length)
            else if title.isEmpty then none
            else plain
    | _ => none
  | _ => none

/-- The text in which a definition is read: lines without their margin. -/
def definitionText (lines : List Line) : List Char :=
  lines.flatMap fun l => l.body ++ (if l.ended then ['\n'] else [])

/-- Reads a definition at the start of a list of lines, and what follows it. -/
def Context.readDefinition? (ctx : Context) (line : Line) (more : List Line) :
    Option (Definition × List Line) :=
  if line.body.head? = some '[' then
    let text := definitionText (line :: more.takeWhile (ctx.continues .definition))
    (definition? text).map fun (found, used) =>
      (found, more.drop ((text.take used).count '\n'))
  else none

/-! ## 5. Quotations

A line without a mark goes on with a paragraph in a quotation, and is marked as lazy. -/

/-- A line of a quotation, seen from inside: behind `>` and one blank. -/
def Line.quoted (line : Line) : Line :=
  let after := line.body.drop 1
  let start := line.indent.toNat + 1
  let inside (text : List Char) (start adjust : Nat) (blank : Nat) : Line :=
    let (count, stop) := blanksFrom (start + line.column + adjust) text
    ⟨text, count, (stop - (start + line.column + adjust) : Nat), line.indent.toNat + 1 + blank,
      line.ended⟩
  match after with
  | ' ' :: text => inside text (start + 1) 0 1
  | '\t' :: text =>
    if (line.column + start) % 4 = 3 then inside text (start + 1) 0 1
    else inside after start 1 1
  | _ => inside after start 0 0

/-- The lines of a quotation after its first, seen from inside; `afterBlank` says whether the
last one was blank, so that no lazy line may follow. -/
def Context.quotedLines (ctx : Context) (afterBlank : Bool) : List Line → List Line
  | [] => []
  | line :: more =>
    if line.isBlank then []
    else if ctx.indent ≤ line.indent && line.body.head? == some '>' then
      line.quoted :: quotedLines ctx line.quoted.isBlank more
    else if afterBlank || ctx.interrupts .quotation line then []
    else line.asLazy :: quotedLines ctx afterBlank more

/-! ## 6. List items

The content of an item begins where its text does, and its lines are those that are indented as
far. -/

/-- The first line of a list item, seen from inside, and the indentation of its content. -/
def Line.inItem (line : Line) (marker : ListMarker) : Line × Nat :=
  let start := line.indent.toNat + marker.length
  let text := line.body.drop marker.length
  let (count, stop) := blanksFrom (start + line.column) text
  let width := stop - (start + line.column)
  let after := if text.length ≤ count ∨ 4 < width then 1 else width
  ({ line with margin := line.margin + marker.length + count, indent := (start + width : Nat) },
    start + after)

/-- Whether the lines that have been used end with a blank one, when there are more than one. -/
def endsBlank (lines rest : List Line) : Bool :=
  let used := lines.take (lines.length - rest.length)
  1 < used.length && (used.getLast?.map Line.isBlank).getD false

/-- What has been read of a list: its items, whether it is tight, and the lines left over. -/
structure ListReading where
  items : List (List SourceBlock)
  tight : Bool
  rest : List Line

/-- Reads the items of a list from one with a given marker on, with a reader for the content of
an item; `afterBlank` says whether a blank line ended the item before. -/
def Context.readItems (ctx : Context) (content : Context → List Line → Reading)
    (first : ListMarker) :
    (fuel : Nat) → (afterBlank : Bool) → ListMarker → Line → List Line → ListReading
  | 0, _, _, line, more => ⟨[], true, line :: more⟩
  | fuel + 1, afterBlank, marker, line, more =>
    let (inside, indent) := line.inItem marker
    let reading : Reading :=
      if inside.isBlank && (more.head?.map Line.isBlank).getD true then ⟨[], more.drop 1, true⟩
      else content ⟨indent, some ctx.indent⟩ (inside :: more)
    let tight := reading.tight && !afterBlank
    let final : ListReading := ⟨[reading.blocks], tight, reading.rest⟩
    match reading.rest with
    | [] => final
    | next :: others =>
      if next.indent < ctx.indent || ctx.isCode next || ctx.endsItems next then final
      else
        match listMarker? next.body with
        | some marker =>
          if marker.sameList first then
            let others := readItems ctx content first fuel (endsBlank (line :: more) reading.rest)
              marker next others
            ⟨reading.blocks :: others.items, tight && others.tight, others.rest⟩
          else final
        | none => final

/-! ## 7. Documents

The order in which blocks are tried decides what a line is that could be several things. -/

/-- Reads the block that begins with a line, given readers for the content of quotations and of
list items: the block and what follows it. -/
def Context.readBlock (ctx : Context) (quotation item : Context → List Line → Reading)
    (line : Line) (more : List Line) : SourceBlock × List Line :=
  if ctx.isCode line then
    let (code, rest) := ctx.splitCode (line :: more)
    (.indentedCode (cutLines (4 + ctx.indent) code ++ ['\n']), rest)
  else
    match fence? line.body with
    | some fence =>
      let (inside, rest) := ctx.splitFence fence more
      (.fencedCode fence.info (inside.flatMap (Line.cutEnded line.indent.toNat)), rest)
    | none =>
    if line.body.head? = some '>' then
      let lines := line.quoted :: ctx.quotedLines line.quoted.isBlank more
      let reading := quotation ⟨0, ctx.listIndent⟩ lines
      (.quotation reading.blocks, (line :: more).drop (lines.length - reading.rest.length))
    else if isRule line.body then (.rule, more)
    else
    match ctx.itemMarker? line with
    | some marker =>
      let list := ctx.readItems item marker (more.length + 1) false marker line more
      (.list marker.number list.tight list.items, list.rest)
    | none =>
    match ctx.readDefinition? line more with
    | some (found, rest) => (.definition found, rest)
    | none =>
    match HtmlBlock.ofLine? line.body with
    | some kind =>
      let (inside, rest) := if kind.endsAt line.body then ([], more) else ctx.splitHtml kind more
      (.html ((line :: inside).flatMap (Line.cutEnded ctx.indent)), rest)
    | none =>
    match atxHeading? line.body with
    | some (depth, text) => (.heading depth text, more)
    | none =>
    match ctx.underlined? more with
    | some (above, depth, rest) => (.heading depth (ctx.paragraphText (line :: above)), rest)
    | none =>
      let others := more.takeWhile (ctx.continues .paragraph)
      (.paragraph (ctx.paragraphText (line :: others)), more.drop others.length)

/-- Whether the last of the lines that have been used is blank. -/
def lastUsedBlank (lines rest : List Line) : Bool :=
  ((lines.take (lines.length - rest.length)).getLast?.map Line.isBlank).getD false

/-- Reads block after block; `afterBlank` says whether there has been a blank line, and `tight`
is the answer if no block follows. -/
def Context.readAll (ctx : Context) (quotation item : Context → List Line → Reading) :
    (fuel : Nat) → (afterBlank tight : Bool) → List Line → Reading
  | 0, _, tight, lines => ⟨[], lines, tight⟩
  | fuel + 1, afterBlank, tight, lines =>
    match lines.dropWhile Line.isBlank with
    | [] => ⟨[], [], tight⟩
    | line :: more =>
      if line.indent < ctx.indent then ⟨[], line :: more, tight⟩
      else
        let (block, rest) := ctx.readBlock quotation item line more
        let blankNext := (rest.head?.map Line.isBlank).getD false
        let later := readAll ctx quotation item fuel
          (afterBlank || lastUsedBlank (line :: more) rest || blankNext) (!afterBlank)
          (if blankNext then rest.drop 1 else rest)
        { later with blocks := block :: later.blocks }

/-- What is nested too deep is left out. -/
def Context.skipAll (ctx : Context) (lines : List Line) : Reading :=
  match lines.dropWhile Line.isBlank with
  | [] => ⟨[], [], true⟩
  | line :: more => ⟨[], if line.indent < ctx.indent then line :: more else [], true⟩

/-- Reads the lines of a container in which containers may nest so deep.  A quotation takes one
level and a list two, itself and its item. -/
def readBlocks : (depth : Nat) → Context → List Line → Reading
  | 0, ctx, lines => ctx.skipAll lines
  | 1, ctx, lines =>
    ctx.readAll Context.skipAll Context.skipAll (lines.length + 1) false true lines
  | depth + 2, ctx, lines =>
    ctx.readAll (readBlocks (depth + 1)) (readBlocks depth) (lines.length + 1) false true lines

/-- How deep containers may nest. -/
def nestingLimit : Nat := 20

/-- The blocks of a text with uniform line ends. -/
def readSource (text : List Char) : List SourceBlock :=
  (readBlocks nestingLimit .top (sourceLines text)).blocks

end TaskNotes.Markup
