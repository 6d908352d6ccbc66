/-
# Host names in ASCII

A label of a host name with other characters is written with the ASCII characters it has, a
hyphen, and a row of digits that says where the others are inserted.  They are inserted in
ascending order; each digit row gives how far to go on from the last insertion, as a number to
base 36 whose digits end at a threshold, and the thresholds follow the size of the numbers
before.

Reading fails on a character that is no digit, on a number that does not end, and on a code point
that is no character.  Writing never fails.
-/
namespace TaskNotes

namespace Punycode

/-! ## 1. Numbers

The bias moves with what has been inserted so far, so that the next numbers are short. -/

/-- A digit: the letters count from zero, the decimal digits follow. -/
def digit (d : Nat) : Char :=
  if d < 26 then Char.ofNat (0x61 + d) else Char.ofNat (0x30 + (d - 26))

/-- The value of a digit; capital letters count like small ones. -/
def digitValue? (c : Char) : Option Nat :=
  if c.isLower then some (c.toNat - 0x61)
  else if c.isUpper then some (c.toNat - 0x41)
  else if c.isDigit then some (c.toNat - 0x30 + 26)
  else none

/-- The threshold at a place of a number: between 1 and 26. -/
def threshold (bias place : Nat) : Nat := max 1 (min 26 (36 * (place + 1) - bias))

theorem one_le_threshold (bias place : Nat) : 1 ≤ threshold bias place := Nat.le_max_left _ _

/-- Writes a number from a place on. -/
def writeNumber (bias place n : Nat) : List Char :=
  let t := threshold bias place
  if n < t then [digit n]
  else digit (t + (n - t) % (36 - t)) :: writeNumber bias (place + 1) ((n - t) / (36 - t))
termination_by n
decreasing_by
  have := one_le_threshold bias place
  have := Nat.div_le_self (n - threshold bias place) (36 - threshold bias place)
  omega

/-- Reads a number from a place on: the number and what follows. -/
def readNumber? (bias place weight : Nat) : List Char → Option (Nat × List Char)
  | [] => none
  | c :: rest =>
    match digitValue? c with
    | none => none
    | some d =>
      let t := threshold bias place
      if d < t then some (d * weight, rest)
      else
        (readNumber? bias (place + 1) (weight * (36 - t)) rest).map
          fun (n, more) => (d * weight + n, more)

/-- Brings a number down to the range in which it decides about the next thresholds. -/
def scaleDown (bias delta : Nat) : Nat :=
  if 455 < delta then scaleDown (bias + 36) (delta / 35)
  else bias + 36 * delta / (delta + 38)
termination_by delta

/-- The bias after a number, with so many characters in place. -/
def adapt (first : Bool) (delta size : Nat) : Nat :=
  let delta := if first then delta / 700 else delta / 2
  scaleDown 0 (delta + delta / size)

/-! ## 2. Labels

Writing goes over the label once for every code point in it that is not ASCII, and reading inserts
one character for each number. -/

/-- What is remembered between insertions: how many characters are in place, the distance since
the last insertion, the bias, whether nothing has been inserted, and the digits so far. -/
structure Writing where
  size : Nat
  delta : Nat
  bias : Nat
  first : Bool
  digits : List Char

/-- One character of the label, while the occurrences of one code point are inserted. -/
def Writing.visit (code : Nat) (w : Writing) (c : Char) : Writing :=
  if c.toNat < code then { w with delta := w.delta + 1 }
  else if c.toNat = code then
    ⟨w.size + 1, 0, adapt w.first w.delta (w.size + 1), false,
      w.digits ++ writeNumber w.bias 0 w.delta⟩
  else w

/-- Inserts the occurrences of each code point, in ascending order. -/
def insertAll (label : List Char) : (next : Nat) → List Nat → Writing → Writing
  | _, [], w => w
  | next, code :: codes, w =>
    let w := { w with delta := w.delta + (code - next) * (w.size + 1) }
    let w := label.foldl (Writing.visit code) w
    insertAll label (code + 1) codes { w with delta := w.delta + 1 }

/-- The ASCII form of a label, without the mark of such labels. -/
def encode (label : List Char) : List Char :=
  let basic := label.filter (fun c => c.toNat < 128)
  let codes := ((label.filter (fun c => 128 ≤ c.toNat)).map Char.toNat).mergeSort.eraseDups
  let written := insertAll label 128 codes ⟨basic.length, 0, 72, true, []⟩
  if basic.isEmpty then written.digits else basic ++ '-' :: written.digits

/-- Inserts characters as the digits say; `fuel` bounds their number. -/
def insertFrom? (fuel : Nat) (text : List Char) (code position bias : Nat) (first : Bool)
    (digits : List Char) : Option (List Char) :=
  match fuel, digits with
  | _, [] => some text
  | 0, _ => none
  | fuel + 1, digits =>
    match readNumber? bias 0 1 digits with
    | none => none
    | some (delta, rest) =>
      let size := text.length + 1
      let code := code + (position + delta) / size
      let place := (position + delta) % size
      if h : code.isValidChar then
        let text := text.take place ++ Char.ofNatAux code h :: text.drop place
        insertFrom? fuel text code (place + 1) (adapt first delta size) false rest
      else none

/-- The label with the given ASCII form. -/
def decode? (form : List Char) : Option (List Char) :=
  let tail := (form.reverse.takeWhile (· ≠ '-')).reverse
  let basic := if form.contains '-' then form.take (form.length - tail.length - 1) else []
  if form.any (fun c => 128 ≤ c.toNat) then none
  else insertFrom? tail.length basic 128 0 72 true tail

end Punycode

end TaskNotes
