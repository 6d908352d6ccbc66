/-
# Lines

A text is a sequence of lines with line feeds between them.  `splitLines` and `joinLines` are
inverse to each other on texts; every text has at least one line.

There are two notions of a line.  A text in markup has line feeds alone, after all its line ends
have been made line feeds (`uniformLines`).  Where lines are counted in a wide sense, several other
characters end one too (`brokenLines`), and a break at the end of the text is not followed by an
empty line.
-/
import TaskNotes.Text.Blank

namespace TaskNotes

/-- Cuts a text at its line feeds. -/
def splitLines : List Char → List (List Char)
  | [] => [[]]
  | c :: cs =>
    if c = '\n' then [] :: splitLines cs
    else
      match splitLines cs with
      | [] => [[c]]
      | line :: lines => (c :: line) :: lines

/-- Puts texts together with a separator between them. -/
def joinWith (separator : List Char) : List (List Char) → List Char
  | [] => []
  | [text] => text
  | text :: next :: texts => text ++ separator ++ joinWith separator (next :: texts)

/-- Puts lines together with line feeds between them. -/
def joinLines (lines : List (List Char)) : List Char := joinWith ['\n'] lines

/-- Whether a character is a line feed. -/
def isLineFeed (c : Char) : Bool := c == '\n'

/-- Changes every line of a text. -/
def mapLines (f : List Char → List Char) (cs : List Char) : List Char :=
  joinLines ((splitLines cs).map f)

/-- A text in which every line ends with a line feed alone. -/
def uniformLines : List Char → List Char
  | [] => []
  | '\r' :: '\n' :: cs => '\n' :: uniformLines cs
  | c :: cs => (if c = '\r' then '\n' else c) :: uniformLines cs

theorem not_mem_uniformLines (cs : List Char) : '\r' ∉ uniformLines cs := by
  fun_induction uniformLines cs with
  | case1 => simp
  | case2 cs ih => simp [ih]
  | case3 c cs _ ih =>
    by_cases hc : c = '\r'
    · simp [hc, ih]
    · simp [hc, ih, Ne.symm hc]

theorem uniformLines_eq_self {cs : List Char} (h : '\r' ∉ cs) : uniformLines cs = cs := by
  induction cs with
  | nil => rfl
  | cons c cs ih =>
    rw [List.mem_cons, not_or] at h
    obtain ⟨hc, h⟩ := h
    rw [uniformLines, ih h, if_neg (Ne.symm hc)]
    rintro rest rfl -
    exact absurd rfl hc

/-- A text with uniform lines stays as it is. -/
theorem uniformLines_uniformLines (cs : List Char) :
    uniformLines (uniformLines cs) = uniformLines cs :=
  uniformLines_eq_self (not_mem_uniformLines cs)

/-- Whether a character ends a line in a wide sense: line feeds, form feeds, vertical tabs and
separators of texts, paragraphs and lines. -/
def isLineBreak (c : Char) : Bool :=
  let n := c.toNat
  (10 ≤ n && n ≤ 13) || (28 ≤ n && n ≤ 30) || n == 0x85 || n == 0x2028 || n == 0x2029

/-- The lines of a text in that sense; a break at the end begins no further line. -/
def brokenLines : List Char → List (List Char)
  | [] => []
  | '\r' :: '\n' :: cs => [] :: brokenLines cs
  | c :: cs =>
    if isLineBreak c then [] :: brokenLines cs
    else
      match brokenLines cs with
      | [] => [[c]]
      | line :: lines => (c :: line) :: lines

theorem splitLines_ne_nil (cs : List Char) : splitLines cs ≠ [] := by
  cases cs with
  | nil => simp [splitLines]
  | cons c cs =>
    simp only [splitLines]
    split
    · simp
    · split <;> simp

/-- Joining the lines of a text gives the text. -/
theorem joinLines_splitLines (cs : List Char) : joinLines (splitLines cs) = cs := by
  induction cs with
  | nil => simp [splitLines, joinLines, joinWith]
  | cons c cs ih =>
    simp only [splitLines]
    cases h : splitLines cs with
    | nil => exact absurd h (splitLines_ne_nil cs)
    | cons line lines =>
      rw [h] at ih
      split
      · next hc => simp [joinLines, joinWith, hc] at ih ⊢; exact ih
      · cases lines with
        | nil => simp [joinLines, joinWith] at ih ⊢; exact ih
        | cons next lines => simp [joinLines, joinWith] at ih ⊢; exact ih

end TaskNotes
