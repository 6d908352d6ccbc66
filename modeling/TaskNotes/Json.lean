/-
# JSON values

The values in which trees are exchanged, and their printed form: two blanks of indentation for
each level, `[]` and `{}` for what is empty, and in strings only the quote, the backslash and
the control characters escaped.

Numbers are kept as they are written, in decimal digits, since what a number is taken for is
decided by the check it has to pass.  An object may have a field twice; the first one counts.
-/
namespace TaskNotes

/-- A JSON value.  A number is a decimal fraction: `mantissa` divided by ten to the power
`decimals`.  One without decimals was written as a whole number. -/
inductive Json
  | null
  | bool (value : Bool)
  | number (mantissa : Int) (decimals : Nat)
  | string (value : String)
  | array (items : List Json)
  | object (fields : List (String × Json))
deriving Repr, Inhabited

namespace Json

/-- A whole number. -/
abbrev int (n : Int) : Json := .number n 0

/-- The value of a field; the first one counts. -/
def field? (fields : List (String × Json)) (name : String) : Option Json :=
  (fields.find? (fun f => f.1 == name)).map (·.2)

/-! ## Printing -/

/-- The four hexadecimal digits of a control character. -/
def controlDigits (c : Char) : List Char :=
  let digits := Nat.toDigits 16 c.toNat
  List.replicate (4 - digits.length) '0' ++ digits

/-- One character of a printed string.  Characters beyond ASCII are printed as they are. -/
def printedChar (c : Char) : List Char :=
  if c = '"' then ['\\', '"']
  else if c = '\\' then ['\\', '\\']
  else if c = '\n' then ['\\', 'n']
  else if c = '\r' then ['\\', 'r']
  else if c = '\t' then ['\\', 't']
  else if c.toNat = 8 then ['\\', 'b']
  else if c.toNat = 12 then ['\\', 'f']
  else if c.toNat < 32 then '\\' :: 'u' :: controlDigits c
  else [c]

/-- A string between quotes. -/
def printedString (value : String) : String :=
  String.ofList ('"' :: value.toList.flatMap printedChar ++ ['"'])

/-- A decimal fraction. -/
def printedNumber (mantissa : Int) (decimals : Nat) : String :=
  if decimals = 0 then toString mantissa
  else
    let digits := toString mantissa.natAbs
    let padded := String.ofList (List.replicate (decimals + 1 - digits.length) '0') ++ digits
    let whole := String.ofList (padded.toList.take (padded.length - decimals))
    let rest := String.ofList (padded.toList.drop (padded.length - decimals))
    (if mantissa < 0 then "-" else "") ++ whole ++ "." ++ rest

/-- Blanks for a level of nesting. -/
def indentation (level : Nat) : String := String.ofList (List.replicate (2 * level) ' ')

mutual
/-- Prints a value that stands at a level of nesting. -/
def print (level : Nat) : Json → String
  | .null => "null"
  | .bool true => "true"
  | .bool false => "false"
  | .number mantissa decimals => printedNumber mantissa decimals
  | .string value => printedString value
  | .array [] => "[]"
  | .array (item :: items) =>
    "[\n" ++ printItems (level + 1) (item :: items) ++ "\n" ++ indentation level ++ "]"
  | .object [] => "\x7b\x7d"
  | .object (field :: fields) =>
    "\x7b\n" ++ printFields (level + 1) (field :: fields) ++ "\n" ++ indentation level ++ "\x7d"

/-- Prints the items of an array, one a line. -/
def printItems (level : Nat) : List Json → String
  | [] => ""
  | item :: items =>
    let rest := printItems level items
    indentation level ++ print level item ++ (if items.isEmpty then "" else ",\n") ++ rest

/-- Prints the fields of an object, one a line. -/
def printFields (level : Nat) : List (String × Json) → String
  | [] => ""
  | (name, value) :: fields =>
    let rest := printFields level fields
    indentation level ++ printedString name ++ ": " ++ print level value
      ++ (if fields.isEmpty then "" else ",\n") ++ rest
end

end Json

end TaskNotes
