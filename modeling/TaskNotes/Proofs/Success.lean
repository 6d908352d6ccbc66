/-
# Computations that succeed

Numbering, sorting and planning can be refused, so a fact about what they give begins with the
result at hand.  The lemmas here take such a result apart at the steps of its computation: a bind
(`bind_eq_ok_iff`), a list of computations (`mapM_eq_ok_iff`), a step of numbering
(`numbering_bind_eq_ok_iff`).  With them no proof opens `Except` or the state of numbering, and a
proof about a plan or a run reads from its result back to what it was computed from.
-/
import TaskNotes.Task.Allocator
import TaskNotes.Text.NaturalOrder
import TaskNotes.Proofs.Lists

namespace TaskNotes

/-! ## 1. Steps of a computation -/

section

variable {ε α β : Type}

theorem bind_eq_ok_iff {x : Except ε α} {f : α → Except ε β} {b : β} :
    (x >>= f) = .ok b ↔ ∃ a, x = .ok a ∧ f a = .ok b := by
  cases x with
  | error e => simp [bind, Except.bind]
  | ok a => simp [bind, Except.bind]

theorem map_eq_ok_iff {x : Except ε α} {f : α → β} {b : β} :
    x.map f = .ok b ↔ ∃ a, x = .ok a ∧ f a = b := by
  cases x with
  | error e => simp [Except.map]
  | ok a => simp [Except.map]

theorem mapError_eq_ok_iff {ε' : Type} {x : Except ε α} {f : ε → ε'} {a : α} :
    x.mapError f = .ok a ↔ x = .ok a := by
  cases x <;> simp [Except.mapError]

theorem exists_eq_ok_of_ne_error {x : Except ε α} (h : ∀ e, x ≠ .error e) :
    ∃ a, x = .ok a := by
  cases x with
  | error e => exact absurd rfl (h e)
  | ok a => exact ⟨a, rfl⟩

theorem pure_eq_ok_iff {a b : α} : (pure a : Except ε α) = .ok b ↔ a = b := by
  simp [pure, Except.pure]

/-- Going through a list succeeds iff every member does. -/
theorem mapM_eq_ok_iff {f : α → Except ε β} :
    ∀ {as : List α} {bs : List β},
      as.mapM f = .ok bs ↔ List.Forall₂ (fun a b => f a = .ok b) as bs
  | [], bs => by
    rw [List.mapM_nil, pure_eq_ok_iff]
    constructor
    · rintro rfl
      exact .nil
    · intro h
      cases h
      rfl
  | a :: as, bs => by
    rw [List.mapM_cons, bind_eq_ok_iff]
    constructor
    · rintro ⟨b, hb, h⟩
      obtain ⟨others, hothers, h⟩ := bind_eq_ok_iff.mp h
      obtain rfl := pure_eq_ok_iff.mp h
      exact .cons hb (mapM_eq_ok_iff.mp hothers)
    · intro h
      cases h with
      | cons hb hothers =>
        exact ⟨_, hb, bind_eq_ok_iff.mpr ⟨_, mapM_eq_ok_iff.mpr hothers, rfl⟩⟩

/-- Going through a list succeeds where each member can be computed. -/
theorem exists_mapM_eq_ok {f : α → Except ε β} :
    ∀ {as : List α}, (∀ a ∈ as, ∃ b, f a = .ok b) → ∃ bs, as.mapM f = .ok bs
  | [], _ => ⟨[], rfl⟩
  | a :: as, h => by
    obtain ⟨b, hb⟩ := h a List.mem_cons_self
    obtain ⟨bs, hbs⟩ := exists_mapM_eq_ok fun a ha => h a (List.mem_cons_of_mem _ ha)
    exact ⟨b :: bs, mapM_eq_ok_iff.mpr (.cons hb (mapM_eq_ok_iff.mp hbs))⟩

theorem ofNumeral_eq_ok_iff {x : Except NumeralError α} {a : α} :
    ofNumeral x = .ok a ↔ x = .ok a := by
  cases x with
  | error e => simp [ofNumeral]
  | ok b => simp [ofNumeral]

/-- A step of numbering hands its allocator on to the next. -/
theorem numbering_bind_eq_ok_iff {x : Numbering α} {f : α → Numbering β} {a : Allocator}
    {r : β × Allocator} :
    (x >>= f).run a = .ok r ↔ ∃ q, x.run a = .ok q ∧ (f q.1).run q.2 = .ok r := by
  rw [StateT.run_bind, bind_eq_ok_iff]

theorem numbering_pure_eq_ok_iff {b : β} {a : Allocator} {r : β × Allocator} :
    (pure b : Numbering β).run a = .ok r ↔ (b, a) = r := by
  rw [StateT.run_pure, pure_eq_ok_iff]

end

/-! ## 2. Sorting -/

/-- Sorting in natural order neither loses nor invents an item. -/
theorem naturalSort_perm {α : Type} {name : α → List Char} {items sorted : List α}
    (h : naturalSort name items = .ok sorted) : sorted.Perm items := by
  obtain ⟨keyed, hkeyed, h⟩ := bind_eq_ok_iff.mp h
  obtain rfl := pure_eq_ok_iff.mp h
  have hitems : keyed.map (·.2) = items.map id := by
    refine map_eq_map_of_forall₂ ?_ (mapM_eq_ok_iff.mp hkeyed)
    intro item pair hpair
    obtain ⟨key, -, hpair⟩ := bind_eq_ok_iff.mp hpair
    rw [← pure_eq_ok_iff.mp hpair, id]
  rw [List.map_id] at hitems
  rw [← hitems]
  exact (List.mergeSort_perm keyed _).map _

end TaskNotes
