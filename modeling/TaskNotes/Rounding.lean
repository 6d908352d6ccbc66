/-
# Rounding to binary digits

A number that is written with a fraction is held in binary: 53 digits are kept from the first
one on, and none beyond the 1074th after the point.  Of the two neighbours of a number the
nearer one is taken, and of two that are equally near the even one.

The number is given as a quotient of two whole numbers, so nothing is lost before it is rounded.
All is done with whole numbers: the place of the last digit that is kept is found first, and the
quotient is scaled by it and rounded once.
-/
namespace TaskNotes

/-! ## 1. Whole numbers -/

/-- A power of ten. -/
def powerOfTen (exponent : Nat) : Nat := Nat.pow 10 exponent

/-- A power of two. -/
def powerOfTwo (exponent : Nat) : Nat := Nat.pow 2 exponent

/-- The whole number nearest to `n / d`; a half goes to the even neighbour. -/
def roundQuotient (n d : Nat) : Nat :=
  if d < 2 * (n % d) ∨ (2 * (n % d) = d ∧ n / d % 2 = 1) then n / d + 1 else n / d

/-! ## 2. Binary digits

Numbers that are too large to be held are not told apart here; who asks compares with
`binaryLimit`. -/

/-- A number with binary digits: `mantissa` times two to the power `exponent`. -/
structure BinaryNumber where
  mantissa : Nat
  exponent : Int
deriving DecidableEq, Repr

/-- The place of the first binary digit of `n / d`; the place before the point is zero. -/
def firstPlace (n d : Nat) : Int :=
  if d ≤ n then Int.ofNat (Nat.log2 (n / d))
  else
    let place := Nat.log2 (d / n)
    if d ≤ n * powerOfTwo place then -Int.ofNat place else -Int.ofNat (place + 1)

/-- The place of the last binary digit of `n / d` that is kept. -/
def lastPlace (n d : Nat) : Int := max (firstPlace n d - 52) (-1074)

/-- The number that `n / d` is held as: as many times the unit of the last place that is kept as is
nearest to it. -/
def nearestBinary (n d : Nat) : BinaryNumber :=
  let place := lastPlace n d
  let unit := powerOfTwo place.natAbs
  if 0 ≤ place then ⟨roundQuotient n (d * unit), place⟩ else ⟨roundQuotient (n * unit) d, place⟩

/-- A number without a fraction. -/
def BinaryNumber.whole? (x : BinaryNumber) : Option Nat :=
  let unit := powerOfTwo x.exponent.natAbs
  if 0 ≤ x.exponent then some (x.mantissa * unit)
  else if x.mantissa % unit = 0 then some (x.mantissa / unit)
  else none

/-- The numbers that can be held are smaller than this. -/
def binaryLimit : Nat := powerOfTwo 1024

end TaskNotes
