/-
# Decimal digits

A decimal digit is a character of the general category "decimal number": ten consecutive code
points in each of several scripts, from zero to nine.  Numbers are read from digits of any
script, also mixed, and written with the ASCII digits.

`numeralLimit` bounds the numerals that are converted: a longer one is refused in both
directions, and the message names the bound.
-/
import TaskNotes.Text.CodeTable

namespace TaskNotes

/-! ## 1. Digits

A digit counts by its place in its range. -/

/-- The digits beyond ASCII, each range from zero to nine. -/
def digitRanges : CodeSet := CodeSet.ofText
  "660-669 6F0-6F9 7C0-7C9 966-96F 9E6-9EF A66-A6F AE6-AEF B66-B6F BE6-BEF C66-C6F CE6-CEF
   D66-D6F DE6-DEF E50-E59 ED0-ED9 F20-F29 1040-1049 1090-1099 17E0-17E9 1810-1819 1946-194F
   19D0-19D9 1A80-1A89 1A90-1A99 1B50-1B59 1BB0-1BB9 1C40-1C49 1C50-1C59 A620-A629 A8D0-A8D9
   A900-A909 A9D0-A9D9 A9F0-A9F9 AA50-AA59 ABF0-ABF9 FF10-FF19 104A0-104A9 10D30-10D39
   11066-1106F 110F0-110F9 11136-1113F 111D0-111D9 112F0-112F9 11450-11459 114D0-114D9
   11650-11659 116C0-116C9 11730-11739 118E0-118E9 11950-11959 11C50-11C59 11D50-11D59
   11DA0-11DA9 16A60-16A69 16AC0-16AC9 16B50-16B59 1D7CE-1D7D7 1D7D8-1D7E1 1D7E2-1D7EB
   1D7EC-1D7F5 1D7F6-1D7FF 1E140-1E149 1E2F0-1E2F9 1E950-1E959 1FBF0-1FBF9"

/-- Whether a character is a decimal digit of any script. -/
def isDigit (c : Char) : Bool :=
  if c.toNat < 128 then c.isDigit else digitRanges.contains c.toNat

/-- The value of a decimal digit; other characters count as zero. -/
def digitValue (c : Char) : Nat :=
  if c.toNat < 128 then
    if c.isDigit then c.toNat - '0'.toNat else 0
  else
    match digitRanges.find? (fun r => r.1 ≤ c.toNat && c.toNat ≤ r.2) with
    | some r => c.toNat - r.1
    | none => 0

/-- The number a row of digits stands for. -/
def digitsValue (digits : List Char) : Nat :=
  digits.foldl (fun n c => 10 * n + digitValue c) 0

/-! ## 2. Numerals

Reading can fail and so can writing, the latter because adding to a number of as many digits as are
allowed can make one of more.  What is written has no leading zeros, so a numeral that was read
with some is shorter when it is written again. -/

/-- How many digits a numeral may have. -/
def numeralLimit : Nat := 4300

/-- A numeral that is too long to convert. -/
inductive NumeralError
  /-- A text of so many digits was to be read as a number. -/
  | reading (digits : Nat)
  /-- A number of more digits than the limit was to be written. -/
  | writing
deriving DecidableEq, Repr

/-- What is said about a numeral that is too long. -/
def NumeralError.message : NumeralError → String
  | .reading digits =>
    "Exceeds the limit (4300 digits) for integer string conversion: value has "
      ++ toString digits ++ " digits; use sys.set_int_max_str_digits() to increase the limit"
  | .writing =>
    "Exceeds the limit (4300 digits) for integer string conversion; "
      ++ "use sys.set_int_max_str_digits() to increase the limit"

/-- Reads a row of digits; leading zeros count towards the limit. -/
def readNumeral (digits : List Char) : Except NumeralError Nat :=
  if digits.length ≤ numeralLimit then .ok (digitsValue digits)
  else .error (.reading digits.length)

/-- The ASCII digits of a number, without leading zeros. -/
def decimal (n : Nat) : List Char := Nat.toDigits 10 n

/-- Writes a number, unless it is too long. -/
def writeNumeral (n : Nat) : Except NumeralError (List Char) :=
  let digits := decimal n
  if digits.length ≤ numeralLimit then .ok digits else .error .writing

/-- The ASCII digits of an integer, with a leading minus sign when it is negative. -/
def decimalInt : Int → List Char
  | .ofNat n => decimal n
  | .negSucc n => '-' :: decimal (n + 1)

end TaskNotes
