/-
# Documents in markup

Reading a document in full: its blocks first, then, once all its definitions are known, the
spans of each text.  A text keeps its source beside its spans, because the box of a task counts
only as it is written.

That there are two steps is due to references: a label may be defined anywhere in a document, also
behind the text that refers to it, and without its definition it is text.  Texts do not influence
blocks, so the first step can go ahead without them.
-/
import TaskNotes.Markup.Blocks
import TaskNotes.Markup.Spans

namespace TaskNotes.Markup

/-- A text inside a block: its source, and the spans it is made of. -/
structure Inline where
  source : List Char
  spans : List Span

/-- A document: its definitions and its blocks. -/
structure Document where
  definitions : List Definition
  blocks : List (Block Inline)

/-- Reads a document; `strikes` says whether pairs of tildes strike text through. -/
def readDocument (strikes : Bool) (text : List Char) : Document :=
  let blocks := readSource (normalizeSource text)
  let definitions := Block.definitionsOfAll blocks
  ⟨definitions, Block.mapAll (fun source => ⟨source, readSpans definitions strikes source⟩) blocks⟩

end TaskNotes.Markup
