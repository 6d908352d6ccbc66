/-
# Gathering results

Calls are run side by side, as many at once as there are slots, and their results are gathered
in the order of the calls.  Ready calls take turns: each runs until it pauses and goes to the
end of the queue.  A call that finds no slot waits; a call that ends hands its slot to the one
that has waited longest.

How long a call runs between two pauses cannot be seen here, and neither can what it does; a call
is how often it pauses and how it ends.  This is one schedule of many, the one of a queue that is
served in turn, and `Proofs/GatherSchedules` shows that it is one of those.

The first failure in time is the one that is reported, and it does not stop the other calls.
-/
import TaskNotes.Limiter

namespace TaskNotes

/-! ## 1. Calls

The slot of a call that has ended goes to a waiting one at once, so a call that comes later cannot
take it first. -/

/-- A call: how often it pauses, and how it ends. -/
structure Call (α : Type) where
  pauses : Nat
  outcome : α

/-- A call in the queue, with its place among all calls: one that has not been tried yet, one
that has been given a slot, or one that goes on after a pause, with so many pauses left. -/
inductive Turn (α : Type)
  | fresh (position : Nat) (call : Call α)
  | admitted (position : Nat) (call : Call α)
  | resumed (position : Nat) (outcome : α) (pauses : Nat)

/-- The state of a gathering: the queue, the calls that wait for a slot, the free slots, how many
calls are in flight and have been at most, and which calls have begun and how they have ended, the
last one first. -/
structure Gathering (α : Type) where
  queue : List (Turn α)
  waiting : List (Nat × Call α)
  limiter : Limiter
  peak : Nat
  begun : List Nat
  ended : List (Nat × α)

namespace Gathering

variable {α : Type}

/-- Before the first turn. -/
def start (limiter : Limiter) (calls : List (Call α)) : Gathering α :=
  ⟨calls.mapIdx fun position call => .fresh position call, [], limiter, 0, [], []⟩

/-- Gives the slot that has become free to the call that has waited longest. -/
def handOver (g : Gathering α) : Gathering α :=
  match g.waiting, g.limiter.reserve? with
  | (next, call) :: others, some limiter =>
    { g with waiting := others, limiter := limiter, queue := g.queue ++ [.admitted next call] }
  | _, _ => g

/-- Ends a call: its slot goes to the call that has waited longest. -/
def finish (g : Gathering α) (position : Nat) (outcome : α) : Gathering α :=
  { g with ended := (position, outcome) :: g.ended, limiter := g.limiter.release }.handOver

/-- Runs a call until its next pause or its end. -/
def runTurn (g : Gathering α) (position : Nat) (outcome : α) : (pauses : Nat) → Gathering α
  | 0 => g.finish position outcome
  | pauses + 1 => { g with queue := g.queue ++ [.resumed position outcome pauses] }

/-- Counts a call that holds a slot as begun. -/
def enter (g : Gathering α) (position : Nat) : Gathering α :=
  let limiter := g.limiter.enter
  { g with limiter := limiter, peak := max g.peak limiter.running.toNat,
           begun := position :: g.begun }

/-- Starts a call that holds a slot. -/
def begin (g : Gathering α) (position : Nat) (call : Call α) : Gathering α :=
  (g.enter position).runTurn position call.outcome call.pauses

/-- One turn of the call at the head of the queue. -/
def step (g : Gathering α) : Turn α → Gathering α
  | .fresh position call =>
    match g.limiter.reserve? with
    | some limiter => { g with limiter := limiter }.begin position call
    | none => { g with waiting := g.waiting ++ [(position, call)] }
  | .admitted position call => g.begin position call
  | .resumed position outcome pauses => g.runTurn position outcome pauses

/-- Takes turns until the queue is empty; `fuel` bounds their number. -/
def run : (fuel : Nat) → Gathering α → Gathering α
  | 0, g => g
  | fuel + 1, g =>
    match g.queue with
    | [] => g
    | turn :: queue => run fuel ({ g with queue := queue }.step turn)

/-- How many turns calls can take. -/
def turnsOf : List (Call α) → Nat
  | [] => 0
  | call :: calls => call.pauses + 3 + turnsOf calls

end Gathering

/-! ## 2. Results

Calls end in any order, and each result is kept with the position of its call. -/

/-- Results in the order of their positions. -/
def inOrder {α : Type} (ended : List (Nat × α)) : List α :=
  (ended.mergeSort fun a b => a.1 ≤ b.1).map (·.2)

/-- The first failure of calls that have ended, the last one first, or all values. -/
def collect {ε α : Type} (ended : List (Nat × Except ε α)) : Except ε (List α) :=
  match ended.reverse.findSome? (fun e => match e.2 with
    | .error e => some e
    | .ok _ => none) with
  | some e => .error e
  | none => (inOrder ended).mapM id

/-- Gathers the results of calls: the first failure, or all values and how many calls have been in
flight at most. -/
def gather {ε α : Type} (limiter : Limiter) (calls : List (Call (Except ε α))) :
    Except ε (List α × Nat) :=
  let g := Gathering.run (Gathering.turnsOf calls) (.start limiter calls)
  (collect g.ended).map fun values => (values, g.peak)

end TaskNotes
