/-
# Checking values

A value is checked field by field, and all that is wrong with it is reported: each fault with
the place where it was found, in the order of the fields.  Numbers and truth values may be
written loosely, as `"3"`, `2.0`, `true` or `"yes"`; texts may not.

A check gives a value or a list of faults that is not empty (`Checked`).  Two checks are put
together by `Checked.map₂`, which keeps the faults of both, and a check of a field names the field
in front of the place of each fault (`Checked.under`); so the faults of a nested value come with
the whole way to them.

A number that is written with decimals is a binary number before it is looked at, and one without
is a whole number of any size.  This makes a difference for large ones, and for those whose
decimals are too far behind the point to be kept.
-/
import TaskNotes.Json
import TaskNotes.Rounding
import TaskNotes.Text.Blank
import TaskNotes.Text.Digit

namespace TaskNotes

/-! ## 1. Faults

The kinds of faults have names, and these are what is reported. -/

/-- What can be wrong with a value. -/
inductive FaultKind
  | missing
  | unionTagNotFound
  | unionTagInvalid
  | notAnObject
  | greaterThanEqual
  | lessThanEqual
  | stringType
  | listType
  | intType
  | intParsing
  | intParsingSize
  | intFromFloat
  | finiteNumber
  | boolType
  | boolParsing
  | valueError
deriving DecidableEq, Repr

/-- The name under which a fault is reported. -/
def FaultKind.name : FaultKind → String
  | .missing => "missing"
  | .unionTagNotFound => "union_tag_not_found"
  | .unionTagInvalid => "union_tag_invalid"
  | .notAnObject => "model_attributes_type"
  | .greaterThanEqual => "greater_than_equal"
  | .lessThanEqual => "less_than_equal"
  | .stringType => "string_type"
  | .listType => "list_type"
  | .intType => "int_type"
  | .intParsing => "int_parsing"
  | .intParsingSize => "int_parsing_size"
  | .intFromFloat => "int_from_float"
  | .finiteNumber => "finite_number"
  | .boolType => "bool_type"
  | .boolParsing => "bool_parsing"
  | .valueError => "value_error"

/-- One step on the way to a place in a value. -/
inductive FieldStep
  | name (field : String)
  | index (position : Nat)
deriving DecidableEq, Repr

/-- A fault and where it is. -/
structure Fault where
  place : List FieldStep
  kind : FaultKind
deriving DecidableEq, Repr

/-- The name of a step. -/
def FieldStep.text : FieldStep → String
  | .name field => field
  | .index position => toString position

/-- What is said about a fault. -/
def Fault.message (fault : Fault) : String :=
  String.intercalate "." (fault.place.map FieldStep.text) ++ ": " ++ fault.kind.name

/-- The same fault, seen from further outside. -/
def Fault.under (step : FieldStep) (fault : Fault) : Fault := ⟨step :: fault.place, fault.kind⟩

/-- A value, or everything that is wrong with it. -/
abbrev Checked (α : Type) := Except (List Fault) α

namespace Checked

/-- Combines two checks; the faults of both are reported, the first ones first. -/
def map₂ {α β γ : Type} (f : α → β → γ) : Checked α → Checked β → Checked γ
  | .ok a, .ok b => .ok (f a b)
  | .ok _, .error e => .error e
  | .error e, .ok _ => .error e
  | .error e, .error e' => .error (e ++ e')

/-- Combines three checks. -/
def map₃ {α β γ δ : Type} (f : α → β → γ → δ) (a : Checked α) (b : Checked β) (c : Checked γ) :
    Checked δ :=
  map₂ (fun g x => g x) (map₂ f a b) c

/-- Combines four checks. -/
def map₄ {α β γ δ ε : Type} (f : α → β → γ → δ → ε) (a : Checked α) (b : Checked β)
    (c : Checked γ) (d : Checked δ) : Checked ε :=
  map₂ (fun g x => g x) (map₃ f a b c) d

/-- The same check, seen from further outside. -/
def under {α : Type} (step : FieldStep) : Checked α → Checked α
  | .ok a => .ok a
  | .error faults => .error (faults.map (Fault.under step))

end Checked

/-- A single fault at the value itself. -/
def fault {α : Type} (kind : FaultKind) : Checked α := .error [⟨[], kind⟩]

/-! ## 2. Whole numbers

A text is taken apart in a fixed order: blanks, the sign, a fraction of zeros, zeros in front,
underscores.  What is left has to be digits. -/

/-- Splits a text into whether it has a minus sign and what follows the sign. -/
def splitSign? : List Char → Option (Bool × List Char)
  | '+' :: '-' :: _ => none
  | '+' :: rest => some (false, rest)
  | '-' :: rest => some (true, rest)
  | cs => some (false, cs)

/-- Drops a fraction that consists of zeros. -/
def dropZeroFraction (cs : List Char) : List Char :=
  match cs.dropWhile (· ≠ '.') with
  | '.' :: '0' :: zeros => if zeros.all (· == '0') then cs.takeWhile (· ≠ '.') else cs
  | _ => cs

/-- Drops the zeros in front, also with underscores, but for the last character. -/
def dropLeadingZeros (cs : List Char) : List Char :=
  if cs.head? = some '0' then
    match cs.dropWhile (fun c => c == '0' || c == '_') with
    | [] => cs.drop (cs.length - 1)
    | rest => rest
  else cs

/-- Whether underscores stand only singly, and between other characters. -/
def separates : List Char → Bool
  | [] => true
  | '_' :: _ => false
  | _ :: '_' :: rest => !rest.isEmpty && separates rest
  | _ :: rest => separates rest

/-- Drops underscores that separate digits. -/
def dropUnderscores (cs : List Char) : List Char :=
  if separates cs then cs.filter (· ≠ '_') else cs

/-- Blanks that may stand around a number. -/
def isNumberBlank (c : Char) : Bool := isBlank c && !(28 ≤ c.toNat && c.toNat ≤ 31)

/-- A text as a whole number: blanks around it, a sign, zeros in front, a fraction of zeros and
single underscores between the digits are allowed.  Too many digits are refused, whatever
follows them. -/
def checkIntText (text : String) : Checked Int :=
  match splitSign? (trimBoth isNumberBlank text.toList) with
  | none => fault .intParsing
  | some (negative, rest) =>
    let body := dropUnderscores (dropLeadingZeros (dropZeroFraction rest))
    let digits := body.takeWhile Char.isDigit
    if numeralLimit < digits.length + (if negative then 1 else 0) then fault .intParsingSize
    else if digits.isEmpty ∨ digits ≠ body then fault .intParsing
    else .ok (if negative then -Int.ofNat (digitsValue digits) else Int.ofNat (digitsValue digits))

/-- A number that fits in a machine word is smaller than this. -/
def wordLimit : Nat := powerOfTwo 63

/-- A number with decimals as a whole number.  What counts is the binary number that it is held as:
this has to be whole, and to fit in a machine word. -/
def checkDecimal (mantissa : Int) (decimals : Nat) : Checked Int :=
  match (nearestBinary mantissa.natAbs (powerOfTen decimals)).whole? with
  | none => fault .intFromFloat
  | some n =>
    if binaryLimit ≤ n then fault .finiteNumber
    else if wordLimit ≤ n then fault .intParsingSize
    else .ok (if mantissa < 0 then -Int.ofNat n else Int.ofNat n)

/-- A value as a whole number. -/
def checkInt : Json → Checked Int
  | .number n 0 => .ok n
  | .number mantissa decimals => checkDecimal mantissa decimals
  | .bool b => .ok (if b then 1 else 0)
  | .string text => checkIntText text
  | _ => fault .intType

/-! ## 3. Truth values and texts

Only a few words and the numbers zero and one are truth values. -/

/-- The words for true. -/
def trueWords : List String := ["1", "t", "y", "on", "yes", "true"]

/-- The words for false. -/
def falseWords : List String := ["0", "f", "n", "no", "off", "false"]

/-- A text as a truth value; case does not matter. -/
def checkBoolText (text : String) : Checked Bool :=
  let word := String.ofList (text.toList.map Char.toLower)
  if trueWords.contains word then .ok true
  else if falseWords.contains word then .ok false
  else fault .boolParsing

/-- A whole number as a truth value. -/
def checkBoolInt (n : Int) : Checked Bool :=
  if n = 0 then .ok false else if n = 1 then .ok true else fault .boolParsing

/-- A number as a truth value; it has to be a whole one that fits in a machine word. -/
def checkBoolNumber (mantissa : Int) (decimals : Nat) : Checked Bool :=
  if decimals = 0 then
    if -Int.ofNat wordLimit ≤ mantissa ∧ mantissa < Int.ofNat wordLimit then checkBoolInt mantissa
    else fault .boolType
  else
    match checkDecimal mantissa decimals with
    | .ok n => checkBoolInt n
    | .error _ => fault .boolType

/-- A value as a truth value. -/
def checkBool : Json → Checked Bool
  | .bool b => .ok b
  | .string text => checkBoolText text
  | .number mantissa decimals => checkBoolNumber mantissa decimals
  | _ => fault .boolType

/-- A value as a text. -/
def checkString : Json → Checked String
  | .string text => .ok text
  | _ => fault .stringType

/-- A value that may be null. -/
def checkOption {α : Type} (check : Json → Checked α) : Json → Checked (Option α)
  | .null => .ok none
  | value =>
    match check value with
    | .ok a => .ok (some a)
    | .error faults => .error faults

/-! ## 4. Fields

A field that is absent and one that is null are not the same: the first has its default, the second
has to pass its check. -/

/-- A field that has to be there. -/
def requiredField {α : Type} (name : String) (check : Json → Checked α) (value : Option Json) :
    Checked α :=
  match value with
  | some v => (check v).under (.name name)
  | none => .error [⟨[.name name], .missing⟩]

/-- A field with a default. -/
def optionalField {α : Type} (name : String) (default : α) (check : Json → Checked α)
    (value : Option Json) : Checked α :=
  match value with
  | some v => (check v).under (.name name)
  | none => .ok default

end TaskNotes
