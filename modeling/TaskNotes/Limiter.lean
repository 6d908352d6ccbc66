/-
# Limits on what runs at once

A limiter has slots.  What runs holds a slot from when it is acquired until it is released, and
where none is free it has to wait.  Releasing a slot that was never acquired adds one.

A slot is first reserved and then entered, and the two can lie apart: a call that has waited is
given its slot when another one ends, and counts as running only when its turn comes.  The number
of those that run is a count for the log, and no slot depends on it.
-/
namespace TaskNotes

/-- Slots that are free, and how much is running. -/
structure Limiter where
  free : Nat
  running : Int
deriving DecidableEq, Repr

namespace Limiter

/-- A limiter with so many slots; a negative number is refused. -/
def ofSlots? (slots : Int) : Option Limiter :=
  if 0 ≤ slots then some ⟨slots.toNat, 0⟩ else none

/-- What is said about a negative number of slots. -/
def negativeSlotsMessage : String := "Semaphore initial value must be >= 0"

/-- Takes a slot, if one is free. -/
def reserve? (l : Limiter) : Option Limiter :=
  match l.free with
  | 0 => none
  | free + 1 => some { l with free := free }

/-- Counts what holds a slot, from when it goes on. -/
def enter (l : Limiter) : Limiter := { l with running := l.running + 1 }

/-- Takes a slot, if one is free, and goes on at once. -/
def acquire? (l : Limiter) : Option Limiter := l.reserve?.map enter

/-- Gives a slot back. -/
def release (l : Limiter) : Limiter := ⟨l.free + 1, l.running - 1⟩

end Limiter

end TaskNotes
