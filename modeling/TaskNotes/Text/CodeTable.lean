/-
# Tables of code points

The classes and letter mappings of the character standard are data.  A table is written as
one text: entries in hexadecimal, separated by spaces or line feeds, in ascending order.

* a class lists ranges, `30-39` or a single `AA`;
* a mapping lists `41-5A:61` (the range goes to consecutive letters from `61`),
  `100-12E/2:101` (every second one), or `DF:73.73` (one letter becomes several).

`CodeSet.ofText` and `CodeMap.ofText` read them; lookups are plain searches, so what a table
says about one letter can be read off its entries.
-/
namespace TaskNotes

/-! ## 1. Numbers and words of a table

The words of a table are told apart by spaces and line feeds, in any number. -/

/-- The value of one hexadecimal digit; other characters count as zero. -/
def hexDigitValue (c : Char) : Nat :=
  if '0' ≤ c ∧ c ≤ '9' then c.toNat - '0'.toNat
  else if 'A' ≤ c ∧ c ≤ 'F' then c.toNat - 'A'.toNat + 10
  else if 'a' ≤ c ∧ c ≤ 'f' then c.toNat - 'a'.toNat + 10
  else 0

/-- The number a hexadecimal word stands for. -/
def hexValue (word : List Char) : Nat :=
  word.foldl (fun n c => 16 * n + hexDigitValue c) 0

/-- Cuts a text at every separator. -/
def splitAtSeparators (separator : Char → Bool) : List Char → List (List Char)
  | [] => [[]]
  | c :: rest =>
    if separator c then [] :: splitAtSeparators separator rest
    else
      match splitAtSeparators separator rest with
      | [] => [[c]]
      | word :: more => (c :: word) :: more

/-- Cuts a text at every occurrence of a character. -/
def splitAtChar (separator : Char) : List Char → List (List Char) :=
  splitAtSeparators (· == separator)

/-- The non-empty words of a table. -/
def tableWords (text : String) : List (List Char) :=
  (splitAtSeparators (fun c => c == ' ' || c == '\n') text.toList).filter (fun w => !w.isEmpty)

/-! ## 2. Classes

Whether a character is in a class is asked range by range; the order of the ranges plays no part in
the answer. -/

/-- Ranges of code points, both ends included. -/
abbrev CodeSet := List (Nat × Nat)

namespace CodeSet

/-- Reads one range: `30-39` or `AA`. -/
def rangeOfWord (word : List Char) : Nat × Nat :=
  match splitAtChar '-' word with
  | [lo, hi] => (hexValue lo, hexValue hi)
  | _ => (hexValue word, hexValue word)

/-- Reads a class. -/
def ofText (text : String) : CodeSet := (tableWords text).map rangeOfWord

/-- Whether a code point lies in one of the ranges. -/
def contains (set : CodeSet) (n : Nat) : Bool :=
  set.any (fun r => r.1 ≤ n && n ≤ r.2)

end CodeSet

/-! ## 3. Mappings

The step lets one entry stand for every second letter of a range, which is how capitals and small
letters alternate in many scripts. -/

/-- Code points `first`, `first + step`, … up to `last`, and where the first of them goes; the
others go as far beyond as they lie behind it. -/
structure CodeMap.Entry where
  first : Nat
  last : Nat
  step : Nat
  image : List Nat

/-- A mapping of code points to sequences of code points. -/
abbrev CodeMap := List CodeMap.Entry

namespace CodeMap

/-- Reads the left side of an entry: `41-5A`, `100-12E/2` or `DF`. -/
def keyOfWord (word : List Char) : Nat × Nat × Nat :=
  let step := match splitAtChar '/' word with
    | [_, s] => hexValue s
    | _ => 1
  let range := CodeSet.rangeOfWord (word.takeWhile (· ≠ '/'))
  (range.1, range.2, step)

/-- Reads one entry. -/
def entryOfWord (word : List Char) : Entry :=
  let key := keyOfWord (word.takeWhile (· ≠ ':'))
  let image := match splitAtChar ':' word with
    | [_, images] => ((splitAtChar '.' images).filter (fun w => !w.isEmpty)).map hexValue
    | _ => []
  ⟨key.1, key.2.1, key.2.2, image⟩

/-- Reads a mapping. -/
def ofText (text : String) : CodeMap := (tableWords text).map entryOfWord

/-- Where a code point goes, or `none` when the table does not list it. -/
def image? (map : CodeMap) (n : Nat) : Option (List Nat) :=
  (map.find? (fun e => e.first ≤ n && n ≤ e.last && (n - e.first) % e.step == 0)).map
    (fun e => e.image.map (· + (n - e.first)))

/-- The letters a letter goes to; an unlisted letter stays as it is. -/
def apply (map : CodeMap) (c : Char) : List Char :=
  match map.image? c.toNat with
  | some image => image.map Char.ofNat
  | none => [c]

end CodeMap

end TaskNotes
