/-
# Gathering under any schedule

Which of the calls in the queue goes on next is not known: `GatherStep` lets any of them take its
turn, and a schedule is a row of such turns, so calls in flight can end in every order
(`exists_run_ending`).  What holds at every moment is `Sound`: each slot is free or held by one call
in the queue, the calls that are counted are those in flight, none waits while a slot is free, and
every call is in the queue, waits, or has ended.  Each turn leaves less to do (`work_step_lt`).

So under every schedule no more calls are in flight than there are slots, none gets stuck, and the
results are gathered in the order of the calls (`gather_any_schedule`).

A call is what it does between its pauses, of which nothing is visible here but how many there are,
and an outcome.  A turn of a call goes from one pause to the next: until it has a slot, then until
it ends.  Everything that the scheduler of the system may decide is which call has the next turn,
and so a schedule is a choice of turns and nothing else.

The order of the queue plays no part in the invariant, which speaks of it up to permutation.  This
is what makes it hold for every schedule: a turn that is taken from the middle of the queue is
brought to the front first, and then there is only one kind of step to look at.
-/
import TaskNotes.Gather
import TaskNotes.Proofs.Success
import Mathlib.Algebra.Ring.Nat
import Mathlib.Logic.Relation
import Mathlib.Data.List.Basic
import Mathlib.Data.List.Nodup
import Mathlib.Data.List.Range

namespace TaskNotes

variable {α : Type}

/-! ## 1. Slots and turns -/

namespace Limiter

variable {l reserved : Limiter}

theorem reserve?_eq_some_iff :
    l.reserve? = some reserved ↔ l.free = reserved.free + 1 ∧ l.running = reserved.running := by
  obtain ⟨free, running⟩ := l
  obtain ⟨free', running'⟩ := reserved
  cases free with
  | zero => exact iff_of_false nofun fun h => absurd h.1 (Nat.succ_ne_zero _).symm
  | succ free =>
    simp only [reserve?, Option.some.injEq, mk.injEq, Nat.add_right_cancel_iff]

theorem reserve?_eq_none_iff : l.reserve? = none ↔ l.free = 0 := by
  obtain ⟨free, running⟩ := l
  cases free with
  | zero => exact iff_of_true rfl rfl
  | succ free => exact iff_of_false nofun (Nat.succ_ne_zero _)

end Limiter

namespace Turn

/-- The position of a call, and how it ends. -/
def result : Turn α → Nat × α
  | .fresh position call => (position, call.outcome)
  | .admitted position call => (position, call.outcome)
  | .resumed position outcome _ => (position, outcome)

/-- Whether a call has a slot. -/
def holdsSlot : Turn α → Bool
  | .fresh _ _ => false
  | .admitted _ _ => true
  | .resumed _ _ _ => true

/-- The position of a call in flight: it has begun, and goes on after a pause. -/
def inFlight? : Turn α → Option Nat
  | .resumed position _ _ => some position
  | _ => none

/-- How many turns a call takes at most. -/
def work : Turn α → Nat
  | .fresh _ call => call.pauses + 3
  | .admitted _ call => call.pauses + 1
  | .resumed _ _ pauses => pauses + 1

end Turn

namespace Gathering

/-- The positions of the calls in flight. -/
def inFlight (g : Gathering α) : List Nat := g.queue.filterMap Turn.inFlight?

/-- How many turns the calls in a queue take at most. -/
def queueWork (queue : List (Turn α)) : Nat := (queue.map Turn.work).sum

/-- How many turns calls that wait take at most, once they have a slot, and one for getting it. -/
def waitingWork (waiting : List (Nat × Call α)) : Nat := (waiting.map fun w => w.2.pauses + 2).sum

/-- How much is left to do. -/
def work (g : Gathering α) : Nat := queueWork g.queue + waitingWork g.waiting

/-- A gathering with a turn in front of its queue. -/
def push (g : Gathering α) (turn : Turn α) : Gathering α := { g with queue := turn :: g.queue }

end Gathering

/-- Some call in the queue takes its turn. -/
inductive GatherStep : Gathering α → Gathering α → Prop
  | turn {g : Gathering α} (before : List (Turn α)) (turn : Turn α) (after : List (Turn α))
      (h : g.queue = before ++ turn :: after) :
      GatherStep g ({ g with queue := before ++ after }.step turn)

/-! ## 2. What holds at every moment

A slot that becomes free is handed over to the call that has waited longest, in the same turn.
Between the two halves of that turn a slot is free while calls wait, so `full` holds at the ends of
turns only, and what holds in between is `Balanced`. -/

namespace Gathering

/-- Slots and calls add up: each slot is free or held, the calls that are counted are those that
have begun and not ended, and no call is lost. -/
structure Balanced (slots : Nat) (results : List (Nat × α)) (g : Gathering α) : Prop where
  slots_eq : g.limiter.free + g.queue.countP Turn.holdsSlot = slots
  running_eq : g.limiter.running = g.inFlight.length
  peak_le : g.peak ≤ slots
  begun_perm : g.begun.Perm (g.ended.map Prod.fst ++ g.inFlight)
  results_perm : (g.queue.map Turn.result ++ (g.waiting.map fun w => (w.1, w.2.outcome)) ++
    g.ended).Perm results

/-- Besides, no call waits while a slot is free. -/
structure Sound (slots : Nat) (results : List (Nat × α)) (g : Gathering α) : Prop
    extends Balanced slots results g where
  full : g.waiting ≠ [] → g.limiter.free = 0

section

variable {slots : Nat} {results : List (Nat × α)} {g : Gathering α} {position : Nat}
  {call : Call α} {outcome : α} {pauses : Nat}

theorem length_inFlight_le (g : Gathering α) :
    g.inFlight.length ≤ g.queue.countP Turn.holdsSlot := by
  rw [inFlight, List.length_filterMap_eq_countP]
  refine List.countP_mono_left fun turn _ h => ?_
  cases turn with
  | fresh _ _ => exact h
  | admitted _ _ => rfl
  | resumed _ _ _ => rfl

/-- The order of the queue does not matter. -/
theorem Balanced.of_perm (h : Balanced slots results g) {queue : List (Turn α)}
    (hperm : queue.Perm g.queue) : Balanced slots results { g with queue := queue } where
  slots_eq := by
    rw [← h.slots_eq, hperm.countP_eq]
  running_eq := by
    rw [h.running_eq, inFlight, inFlight, (hperm.filterMap _).length_eq]
  peak_le := h.peak_le
  begun_perm := h.begun_perm.trans ((hperm.filterMap _).symm.append_left _)
  results_perm := (((hperm.map _).append_right _).append_right _).trans h.results_perm

theorem Sound.of_perm (h : Sound slots results g) {queue : List (Turn α)}
    (hperm : queue.Perm g.queue) : Sound slots results { g with queue := queue } :=
  ⟨h.toBalanced.of_perm hperm, h.full⟩

/-! ## 3. One turn

One lemma for each thing that a turn can do: it takes a slot, finds none, begins, goes on, or ends
and hands its slot over. -/

/-- A call takes a free slot. -/
theorem Sound.reserve {limiter : Limiter} (h : Sound slots results (g.push (.fresh position call)))
    (hreserve : g.limiter.reserve? = some limiter) :
    Sound slots results ({ g with limiter := limiter }.push (.admitted position call)) := by
  obtain ⟨hfree, hrunning⟩ := Limiter.reserve?_eq_some_iff.mp hreserve
  refine ⟨⟨?_, ?_, h.peak_le, h.begun_perm, h.results_perm⟩, fun hwaiting => ?_⟩
  · have hslots : g.limiter.free + (Turn.fresh position call :: g.queue).countP Turn.holdsSlot =
        slots := h.slots_eq
    rw [List.countP_cons_of_neg Bool.false_ne_true] at hslots
    change limiter.free + (Turn.admitted position call :: g.queue).countP Turn.holdsSlot = slots
    rw [List.countP_cons_of_pos rfl]
    omega
  · exact hrunning.symm.trans h.running_eq
  · have hnone : g.limiter.free = 0 := h.full hwaiting
    omega

/-- A call finds no free slot. -/
theorem Sound.wait (h : Sound slots results (g.push (.fresh position call)))
    (hreserve : g.limiter.reserve? = none) :
    Sound slots results { g with waiting := g.waiting ++ [(position, call)] } := by
  refine ⟨⟨?_, h.running_eq, h.peak_le, h.begun_perm, ?_⟩, fun _ => ?_⟩
  · have hslots : g.limiter.free + (Turn.fresh position call :: g.queue).countP Turn.holdsSlot =
        slots := h.slots_eq
    rwa [List.countP_cons_of_neg Bool.false_ne_true] at hslots
  · refine List.Perm.trans (List.Perm.append_right _ ?_) h.results_perm
    rw [List.map_append, ← List.append_assoc]
    exact List.perm_append_singleton _ _
  · exact Limiter.reserve?_eq_none_iff.mp hreserve

/-- A call that has a slot begins. -/
theorem Sound.enter (h : Sound slots results (g.push (.admitted position call))) :
    Sound slots results
      ((g.enter position).push (.resumed position call.outcome call.pauses)) := by
  have hslots : g.limiter.free + (Turn.admitted position call :: g.queue).countP Turn.holdsSlot =
      slots := h.slots_eq
  rw [List.countP_cons_of_pos rfl] at hslots
  have hrunning : g.limiter.running = g.inFlight.length := h.running_eq
  refine ⟨⟨?_, ?_, Nat.max_le.mpr ⟨h.peak_le, ?_⟩, ?_, h.results_perm⟩, h.full⟩
  · change g.limiter.free + (Turn.resumed position _ _ :: g.queue).countP Turn.holdsSlot = slots
    rw [List.countP_cons_of_pos rfl]
    exact hslots
  · change g.limiter.running + 1 = ((position :: g.inFlight).length : Int)
    rw [hrunning]
    rfl
  · have hle := g.length_inFlight_le
    change (g.limiter.running + 1).toNat ≤ slots
    omega
  · exact (h.begun_perm.cons position).trans List.perm_middle.symm

/-- The slot that has become free is given away. -/
theorem Balanced.handOver (h : Balanced slots results g)
    (hfree : g.waiting ≠ [] → g.limiter.free = 1) : Sound slots results g.handOver := by
  rw [Gathering.handOver]
  split
  next next call others limiter hwaiting hreserve =>
    obtain ⟨hslot, hrunning⟩ := Limiter.reserve?_eq_some_iff.mp hreserve
    -- the call that goes on is not in flight before its turn
    have hinFlight : (g.queue ++ [Turn.admitted next call]).filterMap Turn.inFlight? =
        g.inFlight := by
      rw [List.filterMap_append]
      exact List.append_nil _
    refine ⟨⟨?_, ?_, h.peak_le, ?_, ?_⟩, fun _ => ?_⟩
    · have hslots := h.slots_eq
      change limiter.free + (g.queue ++ [Turn.admitted next call]).countP Turn.holdsSlot = slots
      rw [List.countP_append, List.countP_cons_of_pos rfl, List.countP_nil]
      omega
    · rw [inFlight, hinFlight]
      exact hrunning.symm.trans h.running_eq
    · rw [inFlight, hinFlight]
      exact h.begun_perm
    · have hresults := h.results_perm
      rw [hwaiting] at hresults
      rw [List.map_append, List.append_assoc (g.queue.map _)]
      exact hresults
    · have hone := hfree (by rw [hwaiting]; exact List.cons_ne_nil _ _)
      change limiter.free = 0
      omega
  next hnot =>
    refine ⟨h, fun hwaiting => ?_⟩
    obtain ⟨⟨next, call⟩, others, hcons⟩ := List.exists_cons_of_ne_nil hwaiting
    have hslot : g.limiter.reserve? = some ⟨0, g.limiter.running⟩ :=
      Limiter.reserve?_eq_some_iff.mpr ⟨hfree hwaiting, rfl⟩
    exact absurd hslot (hnot next call others _ hcons)

/-- A call in flight ends. -/
theorem Sound.finish (h : Sound slots results (g.push (.resumed position outcome pauses))) :
    Sound slots results (g.finish position outcome) := by
  refine Balanced.handOver ⟨?_, ?_, h.peak_le, ?_, ?_⟩ fun hwaiting => ?_
  · have hslots : g.limiter.free +
        (Turn.resumed position outcome pauses :: g.queue).countP Turn.holdsSlot = slots :=
      h.slots_eq
    rw [List.countP_cons_of_pos rfl] at hslots
    change g.limiter.free + 1 + g.queue.countP Turn.holdsSlot = slots
    omega
  · have hrunning : g.limiter.running = ((position :: g.inFlight).length : Int) := h.running_eq
    change g.limiter.running - 1 = (g.inFlight.length : Int)
    rw [hrunning, List.length_cons]
    omega
  · exact h.begun_perm.trans List.perm_middle
  · exact List.perm_middle.trans h.results_perm
  · exact congrArg (· + 1) (h.full hwaiting)

/-- A call in flight goes on until its next pause or its end. -/
theorem Sound.runTurn (h : Sound slots results (g.push (.resumed position outcome pauses))) :
    Sound slots results (g.runTurn position outcome pauses) := by
  cases pauses with
  | zero => exact h.finish
  | succ pauses =>
    have hpaused : Sound slots results (g.push (.resumed position outcome pauses)) :=
      ⟨⟨h.slots_eq, h.running_eq, h.peak_le, h.begun_perm, h.results_perm⟩, h.full⟩
    exact hpaused.of_perm (List.perm_append_singleton _ _)

/-- **Whoever takes a turn, slots and calls add up as before.** -/
theorem Sound.step {turn : Turn α} (h : Sound slots results (g.push turn)) :
    Sound slots results (g.step turn) := by
  cases turn with
  | fresh position call =>
    rw [Gathering.step]
    split
    next limiter hreserve => exact (h.reserve hreserve).enter.runTurn
    next hreserve => exact h.wait hreserve
  | admitted position call => exact h.enter.runTurn
  | resumed position outcome pauses => exact h.runTurn

theorem Sound.gatherStep {next : Gathering α} (h : Sound slots results g)
    (hstep : GatherStep g next) : Sound slots results next := by
  cases hstep with
  | turn before turn after hqueue =>
    have hqueue : (turn :: (before ++ after)).Perm g.queue := by
      rw [hqueue]
      exact List.perm_middle.symm
    have hpush : Sound slots results (push { g with queue := before ++ after } turn) :=
      h.of_perm hqueue
    exact hpush.step

theorem sound_start (slots : Nat) (calls : List (Call α)) :
    Sound slots (calls.mapIdx fun position call => (position, call.outcome))
      (.start ⟨slots, 0⟩ calls) := by
  have hfresh : ∀ turn ∈ (start ⟨slots, 0⟩ calls).queue, ∃ position call,
      turn = .fresh position call := by
    intro turn hturn
    obtain ⟨position, hposition, rfl⟩ := List.mem_mapIdx.mp hturn
    exact ⟨_, _, rfl⟩
  have hinFlight : (start ⟨slots, 0⟩ calls).inFlight = [] := by
    refine List.filterMap_eq_nil_iff.mpr fun turn hturn => ?_
    obtain ⟨position, call, rfl⟩ := hfresh turn hturn
    rfl
  refine ⟨⟨?_, ?_, Nat.zero_le _, ?_, ?_⟩, fun h => absurd rfl h⟩
  · rw [List.countP_eq_zero.mpr]
    · rfl
    · intro turn hturn
      obtain ⟨position, call, rfl⟩ := hfresh turn hturn
      exact Bool.false_ne_true
  · rw [hinFlight]
    rfl
  · rw [hinFlight]
    exact .nil
  · rw [start, List.map_nil, List.append_nil, List.append_nil, map_mapIdx]
    exact .refl _

/-- **Slots and calls add up under every schedule.** -/
theorem Sound.run {start : Gathering α} (h : Sound slots results start)
    (hrun : Relation.ReflTransGen GatherStep start g) : Sound slots results g := by
  induction hrun with
  | refl => exact h
  | tail _ hstep ih => exact ih.gatherStep hstep

end

theorem inFlight_sublist (g : Gathering α) :
    g.inFlight.Sublist (g.queue.map fun turn => turn.result.1) := by
  have hqueue (queue : List (Turn α)) : (queue.filterMap Turn.inFlight?).Sublist
      (queue.map fun turn => turn.result.1) := by
    induction queue with
    | nil => exact .slnil
    | cons turn queue ih =>
      cases turn with
      | fresh _ _ => exact ih.cons _
      | admitted _ _ => exact ih.cons _
      | resumed _ _ _ => exact ih.cons_cons _
  exact hqueue g.queue

/-- No call begins twice. -/
theorem Balanced.nodup_begun {slots : Nat} {results : List (Nat × α)} {g : Gathering α}
    (h : Balanced slots results g) (hdistinct : (results.map Prod.fst).Nodup) : g.begun.Nodup := by
  rw [← (h.results_perm.map Prod.fst).nodup_iff, List.map_append, List.map_append, List.map_map,
    List.append_assoc] at hdistinct
  rw [h.begun_perm.nodup_iff, List.perm_append_comm.nodup_iff]
  refine hdistinct.sublist (g.inFlight_sublist.append ?_)
  exact List.sublist_append_right _ _

/-! ## 4. The work that is left

A measure for termination.  A turn is paid for by the call that takes it, which has one pause less
before it, or has got a slot, or is gone; handing a slot over moves a call from those that wait to
the queue, where it is worth one less. -/

theorem queueWork_cons (turn : Turn α) (queue : List (Turn α)) :
    queueWork (turn :: queue) = turn.work + queueWork queue := List.sum_cons

theorem queueWork_append (queue others : List (Turn α)) :
    queueWork (queue ++ others) = queueWork queue + queueWork others := by
  rw [queueWork, List.map_append, List.sum_append, queueWork, queueWork]

theorem queueWork_concat (queue : List (Turn α)) (turn : Turn α) :
    queueWork (queue ++ [turn]) = queueWork queue + turn.work := by
  rw [queueWork_append, queueWork_cons]
  rfl

theorem waitingWork_cons (position : Nat) (call : Call α) (waiting : List (Nat × Call α)) :
    waitingWork ((position, call) :: waiting) = call.pauses + 2 + waitingWork waiting :=
  List.sum_cons

theorem waitingWork_concat (waiting : List (Nat × Call α)) (position : Nat) (call : Call α) :
    waitingWork (waiting ++ [(position, call)]) = waitingWork waiting + (call.pauses + 2) := by
  rw [waitingWork, List.map_append, List.sum_append]
  rfl

section

variable {g : Gathering α}

theorem work_handOver_le : g.handOver.work ≤ g.work := by
  rw [handOver]
  split
  next next call others limiter hwaiting hreserve =>
    change queueWork (g.queue ++ [.admitted next call]) + waitingWork others ≤
      queueWork g.queue + waitingWork g.waiting
    rw [hwaiting, queueWork_concat, waitingWork_cons, Turn.work]
    omega
  next => exact Nat.le_refl _

theorem work_runTurn_lt (position : Nat) (outcome : α) (pauses : Nat) :
    (g.runTurn position outcome pauses).work < pauses + 1 + g.work := by
  cases pauses with
  | zero =>
    have hle : (g.finish position outcome).work ≤ g.work := work_handOver_le
    exact Nat.lt_of_le_of_lt hle (by omega)
  | succ pauses =>
    change queueWork (g.queue ++ [.resumed position outcome pauses]) + waitingWork g.waiting <
      pauses + 1 + 1 + (queueWork g.queue + waitingWork g.waiting)
    rw [queueWork_concat, Turn.work]
    omega

/-- **Whoever takes a turn, less is left to do.** -/
theorem work_step_lt (turn : Turn α) : (g.step turn).work < turn.work + g.work := by
  cases turn with
  | fresh position call =>
    rw [step]
    split
    next limiter hreserve =>
      have hlt : ({ g with limiter := limiter }.begin position call).work <
        call.pauses + 1 + g.work := work_runTurn_lt _ _ _
      rw [Turn.work]
      omega
    next hreserve =>
      change queueWork g.queue + waitingWork (g.waiting ++ [(position, call)]) <
        call.pauses + 3 + (queueWork g.queue + waitingWork g.waiting)
      rw [waitingWork_concat]
      omega
  | admitted position call => exact work_runTurn_lt _ _ _
  | resumed position outcome pauses => exact work_runTurn_lt _ _ _

theorem work_lt_of_gatherStep {next : Gathering α} (h : GatherStep g next) :
    next.work < g.work := by
  cases h with
  | turn before turn after hqueue =>
    have hlt : ({ g with queue := before ++ after }.step turn).work <
      turn.work + (queueWork (before ++ after) + waitingWork g.waiting) := work_step_lt turn
    rw [work, work, hqueue, queueWork_append, queueWork_cons]
    rw [queueWork_append] at hlt
    exact Nat.lt_of_lt_of_le hlt (by omega)

theorem sum_pauses_eq_turnsOf (calls : List (Call α)) :
    (calls.map fun call => call.pauses + 3).sum = turnsOf calls := by
  induction calls with
  | nil => rfl
  | cons call calls ih => rw [List.map_cons, List.sum_cons, ih, turnsOf]

theorem work_start (limiter : Limiter) (calls : List (Call α)) :
    (start limiter calls).work = turnsOf calls := by
  have hqueue : (start limiter calls).queue.map Turn.work =
      calls.map fun call => call.pauses + 3 := by
    rw [start, map_mapIdx]
    exact mapIdx_eq_map _ _
  rw [work, queueWork, hqueue, sum_pauses_eq_turnsOf]
  rfl

/-- A gathering goes on as long as there is work. -/
theorem gatherStep_run {fuel : Nat} (hfuel : g.work ≤ fuel) :
    Relation.ReflTransGen GatherStep g (run fuel g) ∧ (run fuel g).queue = [] := by
  induction fuel generalizing g with
  | zero =>
    refine ⟨.refl, ?_⟩
    cases hqueue : g.queue with
    | nil => exact hqueue
    | cons turn queue =>
      have hpos : 0 < turn.work := by cases turn <;> exact Nat.succ_pos _
      rw [work, hqueue, queueWork_cons] at hfuel
      omega
  | succ fuel ih =>
    rw [run]
    split
    next hqueue => exact ⟨.refl, hqueue⟩
    next turn queue hqueue =>
      have hstep : GatherStep g ({ g with queue := queue }.step turn) := .turn [] turn queue hqueue
      have hless := work_lt_of_gatherStep hstep
      obtain ⟨hrun, hend⟩ := ih (Nat.le_of_lt_succ (Nat.lt_of_lt_of_le hless hfuel))
      exact ⟨.head hstep hrun, hend⟩

/-! ## 5. The end -/

/-- Whether all calls have ended. -/
def IsDone (g : Gathering α) : Prop := g.queue = [] ∧ g.waiting = []

/-- As long as there is a slot, some call can take its turn until all have ended. -/
theorem Sound.exists_gatherStep {slots : Nat} {results : List (Nat × α)}
    (h : Sound slots results g) (hslots : 1 ≤ slots) : g.IsDone ∨ ∃ next, GatherStep g next := by
  cases hqueue : g.queue with
  | nil =>
    refine .inl ⟨hqueue, ?_⟩
    by_contra hwaiting
    have hfree := h.slots_eq
    rw [h.full hwaiting, hqueue, List.countP_nil] at hfree
    omega
  | cons turn queue => exact .inr ⟨_, .turn [] turn queue hqueue⟩

/-- When all calls have ended, all slots are free again, and nothing is lost. -/
theorem Sound.end {slots : Nat} {results : List (Nat × α)} (h : Sound slots results g)
    (hdone : g.IsDone) :
    g.limiter = ⟨slots, 0⟩ ∧ g.begun.Perm (results.map Prod.fst) ∧ g.ended.Perm results := by
  obtain ⟨hqueue, hwaiting⟩ := hdone
  have hinFlight : g.inFlight = [] := by
    rw [inFlight, hqueue]
    rfl
  have hended : g.ended.Perm results := by
    have hresults := h.results_perm
    rwa [hqueue, hwaiting, List.map_nil, List.map_nil, List.nil_append, List.nil_append] at hresults
  refine ⟨?_, ?_, hended⟩
  · have hfree := h.slots_eq
    have hrunning := h.running_eq
    rw [hqueue, List.countP_nil, Nat.add_zero] at hfree
    rw [hinFlight] at hrunning
    rw [← hfree]
    exact congrArg (Limiter.mk g.limiter.free) hrunning
  · have hbegun := h.begun_perm
    rw [hinFlight, List.append_nil] at hbegun
    exact hbegun.trans (hended.map _)

/-- The order in which calls end is free: whichever is in flight can be the next to end. -/
theorem exists_run_ending {position : Nat} (h : position ∈ g.inFlight) :
    ∃ next outcome, Relation.ReflTransGen GatherStep g next ∧
      next.ended = (position, outcome) :: g.ended := by
  have hended (g : Gathering α) : g.handOver.ended = g.ended := by
    rw [handOver]
    split <;> rfl
  obtain ⟨turn, hturn, hposition⟩ := List.mem_filterMap.mp h
  cases turn with
  | fresh _ _ => cases hposition
  | admitted _ _ => cases hposition
  | resumed place outcome pauses =>
    cases hposition
    clear h
    induction pauses generalizing g with
    | zero =>
      obtain ⟨before, after, hqueue⟩ := List.append_of_mem hturn
      exact ⟨_, outcome, .single (.turn before _ after hqueue), hended _⟩
    | succ pauses ih =>
      obtain ⟨before, after, hqueue⟩ := List.append_of_mem hturn
      have hstep := GatherStep.turn before _ after hqueue
      obtain ⟨next, outcome', hrun, hnext⟩ := @ih (step { g with queue := before ++ after }
        (.resumed position outcome (pauses + 1))) (List.mem_append_right _ List.mem_cons_self)
      exact ⟨next, outcome', .head hstep hrun, hnext⟩

end

end Gathering

/-! ## 6. Results -/

section

variable {calls : List (Call α)} {ended : List (Nat × α)}

theorem map_fst_results (calls : List (Call α)) :
    (calls.mapIdx fun position call => (position, call.outcome)).map Prod.fst =
      List.range calls.length := by
  rw [map_mapIdx]
  refine List.ext_getElem ?_ fun i _ _ => ?_
  · rw [List.length_mapIdx, List.length_range]
  · rw [List.getElem_mapIdx, List.getElem_range]

theorem map_snd_results (calls : List (Call α)) :
    (calls.mapIdx fun position call => (position, call.outcome)).map Prod.snd =
      calls.map Call.outcome := by
  rw [map_mapIdx]
  exact mapIdx_eq_map _ _

/-- **Results are gathered in the order of the calls**, in whichever order the calls have ended. -/
theorem inOrder_of_perm
    (h : ended.Perm (calls.mapIdx fun position call => (position, call.outcome))) :
    inOrder ended = calls.map Call.outcome := by
  have hascend : (calls.mapIdx fun position call => (position, call.outcome)).Pairwise
      fun a b => a.1 < b.1 := by
    rw [← List.pairwise_map, map_fst_results]
    exact List.pairwise_lt_range
  have hsorted : (ended.mergeSort fun a b => a.1 ≤ b.1).Pairwise fun a b => a.1 ≤ b.1 := by
    refine (List.pairwise_mergeSort ?_ ?_ ended).imp fun h => of_decide_eq_true h
    · exact fun a b c hab hbc => decide_eq_true
        (Nat.le_trans (of_decide_eq_true hab) (of_decide_eq_true hbc))
    · exact fun a b => by simp only [Bool.or_eq_true, decide_eq_true_eq]; exact Nat.le_total _ _
  have heq : (ended.mergeSort fun a b => a.1 ≤ b.1) =
      calls.mapIdx fun position call => (position, call.outcome) := by
    have hperm := (List.mergeSort_perm ended fun a b => a.1 ≤ b.1).trans h
    refine hperm.eq_of_pairwise ?_ hsorted (hascend.imp Nat.le_of_lt)
    intro a b ha hb hab hba
    have hnodup := List.nodup_range (n := calls.length)
    rw [← map_fst_results] at hnodup
    exact List.inj_on_of_nodup_map hnodup (hperm.mem_iff.mp ha) hb (Nat.le_antisymm hab hba)
  rw [inOrder, heq, map_snd_results]

end

section

variable {ι ε : Type} {items : List ι} {call : ι → Call (Except ε α)} {value : ι → α}

/-- If no call fails, the results are the values of the calls. -/
theorem collect_of_perm (hvalue : ∀ item ∈ items, (call item).outcome = .ok (value item))
    {ended : List (Nat × Except ε α)} (h : ended.Perm
      ((items.map call).mapIdx fun position call => (position, call.outcome))) :
    collect ended = .ok (items.map value) := by
  have hok : ∀ e ∈ ended, ∃ v, e.2 = .ok v := by
    intro e he
    have hmem : e.2 ∈ (items.map call).map Call.outcome := by
      rw [← map_snd_results]
      exact List.mem_map_of_mem (h.mem_iff.mp he)
    obtain ⟨_, hcall, houtcome⟩ := List.mem_map.mp hmem
    obtain ⟨item, hitem, rfl⟩ := List.mem_map.mp hcall
    exact ⟨value item, houtcome.symm.trans (hvalue item hitem)⟩
  rw [collect]
  split
  next failure hfailure =>
    obtain ⟨e, he, hfailure⟩ := List.exists_of_findSome?_eq_some hfailure
    obtain ⟨v, hv⟩ := hok e (List.mem_reverse.mp he)
    rw [hv] at hfailure
    cases hfailure
  next =>
    rw [inOrder_of_perm h, List.map_map]
    refine mapM_eq_ok_iff.mpr (List.forall₂_map_left_iff.mpr (List.forall₂_map_right_iff.mpr ?_))
    exact List.forall₂_same.mpr hvalue

/-- **Gathering is safe under every schedule.**  With at least one slot and calls of which none
fails, whatever the order in which the calls take turns: the calls that are counted are those in
flight, which are those that have begun and not ended; they are never more than there are slots;
no call begins twice; whichever is in flight can be the next to end; until all have ended some call
can take its turn, and every turn leaves less to do; and when all have ended, each call has begun
once, no slot is taken, and the values are those of the items, in their order.  Taking turns in the
order of the queue is one of the schedules. -/
theorem gather_any_schedule {slots : Nat} (hslots : 1 ≤ slots)
    (hvalue : ∀ item ∈ items, (call item).outcome = .ok (value item)) :
    (∀ g, Relation.ReflTransGen GatherStep (.start ⟨slots, 0⟩ (items.map call)) g →
      g.limiter.running = g.inFlight.length ∧ g.inFlight.length ≤ slots ∧ g.peak ≤ slots ∧
        g.begun.Perm (g.ended.map Prod.fst ++ g.inFlight) ∧ g.begun.Nodup ∧
        (∀ position ∈ g.inFlight, ∃ next outcome, Relation.ReflTransGen GatherStep g next ∧
          next.ended = (position, outcome) :: g.ended) ∧
        (g.IsDone ∨ ∃ next, GatherStep g next) ∧
        (g.IsDone → g.limiter = ⟨slots, 0⟩ ∧ g.begun.Perm (List.range items.length) ∧
          collect g.ended = .ok (items.map value))) ∧
      (∀ g next : Gathering (Except ε α), GatherStep g next → next.work < g.work) ∧
      ∃ peak, peak ≤ slots ∧
        gather ⟨slots, 0⟩ (items.map call) = .ok (items.map value, peak) := by
  have hsound {g : Gathering (Except ε α)}
      (hrun : Relation.ReflTransGen GatherStep (.start ⟨slots, 0⟩ (items.map call)) g) :=
    (Gathering.sound_start slots (items.map call)).run hrun
  refine ⟨fun g hrun => ?_, fun _ _ => Gathering.work_lt_of_gatherStep, ?_⟩
  · have hg := hsound hrun
    refine ⟨hg.running_eq, ?_, hg.peak_le, hg.begun_perm, ?_, fun _ => Gathering.exists_run_ending,
      hg.exists_gatherStep hslots, fun hdone => ?_⟩
    · have hle := g.length_inFlight_le
      have hfree := hg.slots_eq
      omega
    · refine hg.nodup_begun ?_
      rw [map_fst_results]
      exact List.nodup_range
    · obtain ⟨hlimiter, hbegun, hended⟩ := hg.end hdone
      rw [map_fst_results, List.length_map] at hbegun
      exact ⟨hlimiter, hbegun, collect_of_perm hvalue hended⟩
  · obtain ⟨hrun, hqueue⟩ :=
      Gathering.gatherStep_run (Gathering.work_start ⟨slots, 0⟩ (items.map call)).le
    have hg := hsound hrun
    have hdone : Gathering.IsDone _ := (hg.exists_gatherStep hslots).resolve_right <| by
      rintro ⟨_, ⟨before, turn, after, hcons⟩⟩
      rw [hqueue] at hcons
      exact List.append_ne_nil_of_right_ne_nil _ (List.cons_ne_nil _ _) hcons.symm
    refine ⟨_, hg.peak_le, map_eq_ok_iff.mpr ⟨_, collect_of_perm hvalue (hg.end hdone).2.2, rfl⟩⟩

/-- A call that pauses the less often the later its item comes. -/
def shorterCall (item : Nat) : Call (Except Unit Nat) := ⟨5 - item, .ok (10 * item)⟩

/-- Two slots are enough for five such calls. -/
theorem gather_any_schedule_shorterCalls :
    1 ≤ 2 ∧ (∀ item ∈ [0, 1, 2, 3, 4], (shorterCall item).outcome = .ok (10 * item)) ∧
      (∀ g, Relation.ReflTransGen GatherStep
          (.start ⟨2, 0⟩ ([0, 1, 2, 3, 4].map shorterCall)) g →
        g.limiter.running = g.inFlight.length ∧ g.inFlight.length ≤ 2) ∧
      ∃ peak, peak ≤ 2 ∧ gather ⟨2, 0⟩ ([0, 1, 2, 3, 4].map shorterCall) =
        .ok ([0, 10, 20, 30, 40], peak) := by
  have hslots : 1 ≤ 2 := by decide
  have hvalue : ∀ item ∈ [0, 1, 2, 3, 4], (shorterCall item).outcome = .ok (10 * item) :=
    fun _ _ => rfl
  obtain ⟨hany, -, hgather⟩ := gather_any_schedule hslots hvalue
  exact ⟨hslots, hvalue, fun g hrun => ⟨(hany g hrun).1, (hany g hrun).2.1⟩, hgather⟩

end

end TaskNotes
