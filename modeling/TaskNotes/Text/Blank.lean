/-
# Blank characters and trimming

A blank is a character of the whitespace class of the character standard, the separators
U+001C to U+001F among them; the zero-width space is none.  Two smaller classes count in markup:
spaces and tabs for the layout of a line, and spacing around text.

The classes are nested, and which one is meant matters for a few characters only, such as the
no-break space and the separators of the ASCII range.
-/
namespace TaskNotes

/-- The whitespace characters of the character standard. -/
def isBlank (c : Char) : Bool :=
  let n := c.toNat
  (9 ≤ n && n ≤ 13) || (28 ≤ n && n ≤ 32) || n == 0x85 || n == 0xA0 || n == 0x1680
    || (0x2000 ≤ n && n ≤ 0x200A) || n == 0x2028 || n == 0x2029 || n == 0x202F || n == 0x205F
    || n == 0x3000

/-- Spaces and tabs. -/
def isSpaceOrTab (c : Char) : Bool := c == ' ' || c == '\t'

/-- Spacing: the blanks of ASCII and the space separators of the character standard. -/
def isSpacing (c : Char) : Bool :=
  let n := c.toNat
  (9 ≤ n && n ≤ 13) || n == 32 || n == 0xA0 || n == 0x1680 || (0x2000 ≤ n && n ≤ 0x200A)
    || n == 0x202F || n == 0x205F || n == 0x3000

/-! ## Trimming

A text is trimmed at its start by dropping while a class lasts, and the other end is the same on
the text read backwards. -/

/-- Drops characters of a class from the end. -/
def dropEndWhile (p : Char → Bool) (cs : List Char) : List Char :=
  (cs.reverse.dropWhile p).reverse

/-- Drops characters of a class from both ends. -/
def trimBoth (p : Char → Bool) (cs : List Char) : List Char :=
  dropEndWhile p (cs.dropWhile p)

/-- Drops blanks from both ends. -/
def trimBlanks (cs : List Char) : List Char := trimBoth isBlank cs

/-- Drops spacing from both ends. -/
def trimSpacing (cs : List Char) : List Char := trimBoth isSpacing cs

/-- Whether all characters are blanks. -/
def allBlank (cs : List Char) : Bool := cs.all isBlank

end TaskNotes
