/-
# Natural order

Names are listed as people sort them: numbers inside a name by their value and before text, text
without regard to case and accents.  Names that agree in all this are ordered by their text
without regard to case, and in the end as they are, so that only equal names are ordered the
same.

Taking the key of a name can fail, because its digits are read as numbers and a number can be too
long.  Sorting fails if this happens for one of the names, whatever the others are.
-/
import TaskNotes.Text.BaseLetters
import TaskNotes.Text.Casefold
import TaskNotes.Text.Digit

namespace TaskNotes

/-! ## 1. Chunks

A name is cut where digits begin or end, and digits of any script count. -/

/-- A part of a name: a number, or text with case and accents folded. -/
inductive Chunk
  | number (value : Nat)
  | text (folded : List Char)
deriving DecidableEq, Repr

/-- Compares chunks. -/
def Chunk.compare : Chunk → Chunk → Ordering
  | .number a, .number b => Ord.compare a b
  | .number _, .text _ => .lt
  | .text _, .number _ => .gt
  | .text a, .text b => Ord.compare a b

instance : Ord Chunk := ⟨Chunk.compare⟩

/-- Cuts a text where digits begin or end. -/
def digitRuns : List Char → List (List Char)
  | [] => []
  | c :: cs =>
    match digitRuns cs with
    | (d :: run) :: runs =>
      if isDigit c = isDigit d then (c :: d :: run) :: runs else [c] :: (d :: run) :: runs
    | runs => [c] :: runs

/-- A text without case and accents. -/
def foldText (cs : List Char) : List Char := casefold (baseLetters cs)

/-- The chunk of a text that is all digits or has none. -/
def chunkOf (run : List Char) : Except NumeralError Chunk :=
  match run with
  | [] => .ok (.text [])
  | c :: _ => if isDigit c then (readNumeral run).map .number else .ok (.text (foldText run))

/-! ## 2. Keys

The three parts of a key are compared one after the other.  The last is the name itself, and only
there case and accents make a difference that nothing else makes. -/

/-- What names are compared by. -/
structure NaturalKey where
  chunks : List Chunk
  folded : List Char
  raw : List Char
deriving DecidableEq, Repr

/-- Compares keys. -/
def NaturalKey.compare (a b : NaturalKey) : Ordering :=
  (Ord.compare a.chunks b.chunks).then
    ((Ord.compare a.folded b.folded).then (Ord.compare a.raw b.raw))

instance : Ord NaturalKey := ⟨NaturalKey.compare⟩

/-- The key of a name. -/
def naturalKey (name : List Char) : Except NumeralError NaturalKey := do
  let chunks ← (digitRuns name).mapM chunkOf
  pure ⟨chunks, casefold name, name⟩

/-! ## 3. Sorting

The sort is stable, so names with the same key, which are the same names, stay in their order. -/

/-- Sorts by names in natural order. -/
def naturalSort {α : Type} (name : α → List Char) (items : List α) :
    Except NumeralError (List α) := do
  let keyed ← items.mapM fun item => do
    let key ← naturalKey (name item)
    pure (key, item)
  pure ((keyed.mergeSort fun a b => (compare a.1 b.1).isLE).map (·.2))

/-- Texts in the order of their characters, each one once. -/
def sortUnique (texts : List (List Char)) : List (List Char) :=
  (texts.mergeSort fun a b => (compare a b).isLE).eraseDups

end TaskNotes
