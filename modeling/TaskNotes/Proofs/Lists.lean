/-
# Lists

What the rest of the library needs of lists and the standard library does not have.  Nothing here
knows of a node, a path or a command, so a change to the program leaves this module as it is.

* Prefixes: where `takeWhile` and `dropWhile` stop.  The readers of markup are built from these
  two, and `takeWhile_append_of_stop` and `dropWhile_append_of_stop` are how they read back what a
  printer wrote.
* Members: deciding what is said about all of them, a list with one of them replaced, and positions
  that are not looked at.
* Lists side by side: `List.Forall₂` is how a pass over documents, commands or writes is told, one
  member of the input beside one of the output.
* Lists without repetitions: `eraseDups` takes the first of each kind of member and is not
  structurally recursive, since it filters the others first; `eraseDups_induction` is its own
  induction, and what is left comes in the order in which it came first
  (`pairwise_idxOf_eraseDups`).
-/
import Mathlib.Data.List.Forall2
import Mathlib.Data.List.Nodup
import Mathlib.Data.List.TakeWhile

namespace TaskNotes

/-! ## 1. Members, decided

What is said about the members of a list is decided member by member.  For characters there is
also a search through all that there are, which does not come to an end; hence the priorities. -/

section

variable {α : Type} {p : α → Prop} [DecidablePred p]

instance (priority := 1100) decidableForallMem (l : List α) : Decidable (∀ a ∈ l, p a) :=
  List.decidableBAll p l

instance (priority := 1100) decidableForallMemOption (o : Option α) :
    Decidable (∀ a ∈ o, p a) :=
  Option.decidableForallMem o

end

/-! ## 2. Prefixes -/

section

variable {α : Type} {p q : α → Bool} {front rest as : List α}

/-- Dropping stops at a member that is not dropped. -/
theorem eq_false_of_head?_dropWhile {a : α} (h : (as.dropWhile p).head? = some a) :
    p a = false := by
  have := List.head?_dropWhile_not p as
  rw [h] at this
  simpa using this

theorem dropWhile_eq_self (h : ∀ a ∈ as.head?, p a = false) : as.dropWhile p = as := by
  cases as with
  | nil => rfl
  | cons a as => rw [List.dropWhile_cons, h a rfl, if_neg Bool.false_ne_true]

theorem takeWhile_append_of_stop (h : ∀ a ∈ front, p a = true)
    (hstop : ∀ a ∈ rest.head?, p a = false) : (front ++ rest).takeWhile p = front := by
  rw [List.takeWhile_append_of_pos h]
  cases rest with
  | nil => exact List.append_nil front
  | cons a rest =>
    rw [List.takeWhile_cons, hstop a rfl, if_neg Bool.false_ne_true, List.append_nil]

theorem dropWhile_append_of_stop (h : ∀ a ∈ front, p a = true)
    (hstop : ∀ a ∈ rest.head?, p a = false) : (front ++ rest).dropWhile p = rest := by
  rw [List.dropWhile_append_of_pos h, dropWhile_eq_self hstop]

/-- What would be dropped anyway may be dropped before. -/
theorem dropWhile_dropWhile_append (h : ∀ a, p a = true → q a = true) (others : List α) :
    ∀ as : List α, (as.dropWhile p ++ others).dropWhile q = (as ++ others).dropWhile q
  | [] => rfl
  | a :: as => by
    rw [List.dropWhile_cons]
    cases ha : p a with
    | true =>
      rw [if_pos rfl, dropWhile_dropWhile_append h others as, List.cons_append,
        List.dropWhile_cons, if_pos (h a ha)]
    | false => rw [if_neg Bool.false_ne_true]

/-- Dropping loses none of the members that are not of its class. -/
theorem countP_dropWhile (p : α → Bool) (as : List α) :
    (as.dropWhile p).countP (fun a => !p a) = as.countP fun a => !p a := by
  induction as with
  | nil => rfl
  | cons a as ih =>
    rw [List.dropWhile_cons, List.countP_cons]
    cases ha : p a with
    | true =>
      rw [if_pos rfl, ih]
      rfl
    | false => rw [if_neg Bool.false_ne_true, List.countP_cons, ha]

theorem beq_of_mem_replicate [BEq α] [LawfulBEq α] {mark : α} {n : Nat} :
    ∀ a ∈ List.replicate n mark, (a == mark) = true :=
  fun _ ha => beq_iff_eq.mpr (List.eq_of_mem_replicate ha)

/-! ## 3. Members -/

/-- A list in which one member took the place of another has one new member at most. -/
theorem mem_update {before after : List α} {old new a : α} (h : a ∈ before ++ new :: after) :
    a = new ∨ a ∈ before ++ old :: after := by
  rcases List.mem_append.mp h with h | h
  · exact .inr (List.mem_append_left _ h)
  · rcases List.mem_cons.mp h with h | h
    · exact .inl h
    · exact .inr (List.mem_append_right _ (List.mem_cons_of_mem _ h))

theorem map_mapIdx {β γ : Type} (as : List α) (f : Nat → α → β) (g : β → γ) :
    (as.mapIdx f).map g = as.mapIdx fun i a => g (f i a) := by
  refine List.ext_getElem ?_ fun i _ _ => ?_
  · rw [List.length_map, List.length_mapIdx, List.length_mapIdx]
  · rw [List.getElem_map, List.getElem_mapIdx, List.getElem_mapIdx]

/-- Where positions do not matter, `mapIdx` is `map`. -/
theorem mapIdx_eq_map {β : Type} (as : List α) (f : α → β) :
    (as.mapIdx fun _ a => f a) = as.map f := by
  refine List.ext_getElem ?_ fun i _ _ => ?_
  · rw [List.length_mapIdx, List.length_map]
  · rw [List.getElem_mapIdx, List.getElem_map]

/-- Texts are compared character by character. -/
theorem compare_eq_lt_iff {cs ds : List Char} : compare cs ds = .lt ↔ cs < ds := by
  induction cs generalizing ds with
  | nil =>
    cases ds with
    | nil => simp
    | cons d ds => simp
  | cons c cs ih =>
    cases ds with
    | nil => simp
    | cons d ds =>
      have hchar : compare c d = .lt ↔ c < d := compareOfLessAndEq_eq_lt
      rw [List.compare_cons_cons, Ordering.then_eq_lt, ih, hchar, List.cons_lt_cons_iff,
        Std.LawfulEqOrd.compare_eq_iff_eq]

end

/-! ## 4. Lists side by side -/

section

variable {α β γ : Type} {R : α → β → Prop} {as : List α} {bs : List β}

/-- Lists whose members agree pairwise in some respect agree in it as a whole. -/
theorem map_eq_map_of_forall₂ {f : α → γ} {g : β → γ} (hR : ∀ a b, R a b → g b = f a)
    (h : List.Forall₂ R as bs) : bs.map g = as.map f := by
  induction h with
  | nil => rfl
  | cons hab _ ih => rw [List.map_cons, List.map_cons, hR _ _ hab, ih]

/-- Of lists whose members agree pairwise, each member of the second has its like in the first. -/
theorem exists_of_mem_forall₂ (h : List.Forall₂ R as bs) {b : β} (hb : b ∈ bs) :
    ∃ a ∈ as, R a b := by
  induction h with
  | nil => cases hb
  | cons hab _ ih =>
    rcases List.mem_cons.mp hb with rfl | hb
    · exact ⟨_, List.mem_cons_self, hab⟩
    · obtain ⟨a, ha, hR⟩ := ih hb
      exact ⟨a, List.mem_cons_of_mem _ ha, hR⟩

/-- What two passes one after the other make of a member. -/
theorem forall₂_of_forall₂_of_forall₂ {S : β → γ → Prop} {T : α → γ → Prop} {cs : List γ}
    (hT : ∀ a b c, R a b → S b c → T a c) (hR : List.Forall₂ R as bs)
    (hS : List.Forall₂ S bs cs) : List.Forall₂ T as cs := by
  induction hR generalizing cs with
  | nil =>
    cases hS
    exact .nil
  | cons hab _ ih =>
    cases hS with
    | cons hbc hS => exact .cons (hT _ _ _ hab hbc) (ih hS)

/-- What is picked from a list is picked, in its order, from the list that corresponds to it, as
long as it is picked from each member. -/
theorem filterMap_sublist_of_forall₂ {f : α → Option γ} {g : β → Option γ}
    (h : List.Forall₂ R as bs)
    (hpick : ∀ a ∈ as, ∀ b, R a b → ∀ c, f a = some c → g b = some c) :
    (as.filterMap f).Sublist (bs.filterMap g) := by
  induction h with
  | nil => exact .slnil
  | @cons a b as bs hab _ ih =>
    have ih := ih fun a ha => hpick a (List.mem_cons_of_mem _ ha)
    cases hfa : f a with
    | none =>
      rw [List.filterMap_cons_none hfa, List.filterMap_cons]
      split
      · exact ih
      · exact ih.cons _
    | some c =>
      rw [List.filterMap_cons_some hfa,
        List.filterMap_cons_some (hpick a List.mem_cons_self b hab c hfa)]
      exact ih.cons_cons c

end

/-! ## 5. Lists without repetitions -/

/-- Induction along `eraseDups`: the first member is taken out of the others, which are shorter
then. -/
theorem eraseDups_induction {α : Type} [BEq α] {motive : List α → Prop} (nil : motive [])
    (cons : ∀ a as, motive (as.filter fun b => !b == a) → motive (a :: as)) (as : List α) :
    motive as := by
  match as with
  | [] => exact nil
  | a :: as => exact cons a as (eraseDups_induction nil cons _)
termination_by as.length
decreasing_by
  have := List.length_filter_le (fun b => !b == a) as
  simp only [List.length_cons]
  omega

theorem eraseDups_sublist {α : Type} [BEq α] (as : List α) : as.eraseDups.Sublist as := by
  induction as using eraseDups_induction with
  | nil => exact .slnil
  | cons a as ih =>
    rw [List.eraseDups_cons]
    exact (ih.trans List.filter_sublist).cons_cons a

section

variable {α : Type} [BEq α] [LawfulBEq α]

theorem nodup_eraseDups (as : List α) : as.eraseDups.Nodup := by
  induction as using eraseDups_induction with
  | nil => exact List.nodup_nil
  | cons a as ih =>
    rw [List.eraseDups_cons, List.nodup_cons]
    refine ⟨fun ha => ?_, ih⟩
    have h := (List.mem_filter.mp (List.mem_eraseDups.mp ha)).2
    simp at h

theorem eraseDups_of_nodup : ∀ {as : List α}, as.Nodup → as.eraseDups = as
  | [], _ => rfl
  | a :: as, h => by
    obtain ⟨hmem, hnodup⟩ := List.nodup_cons.mp h
    have hothers : (as.filter fun b => !b == a) = as := by
      refine List.filter_eq_self.mpr fun b hb => ?_
      rw [Bool.not_eq_true', beq_eq_false_iff_ne]
      rintro rfl
      exact hmem hb
    rw [List.eraseDups_cons, hothers, eraseDups_of_nodup hnodup]

/-- Taking elements out does not change which of two others comes first. -/
theorem idxOf_lt_of_filter {p : α → Bool} {b c : α} (hb : p b = true) (hc : p c = true) :
    ∀ {as : List α}, (as.filter p).idxOf b < (as.filter p).idxOf c → as.idxOf b < as.idxOf c
  | [], h => absurd h (Nat.lt_irrefl _)
  | a :: as, h => by
    have hothers : (as.filter p).idxOf b < (as.filter p).idxOf c → as.idxOf b < as.idxOf c :=
      idxOf_lt_of_filter hb hc
    by_cases ha : p a = true
    · rw [List.filter_cons_of_pos ha] at h
      by_cases hac : a = c
      · simp [hac] at h
      · by_cases hab : a = b
        · simp [hab, hab ▸ hac]
        · simp only [List.idxOf_cons, beq_false_of_ne hab, beq_false_of_ne hac, cond_false] at h ⊢
          exact Nat.succ_lt_succ (hothers (Nat.lt_of_succ_lt_succ h))
    · rw [List.filter_cons_of_neg ha] at h
      have hab : a ≠ b := fun hab => ha (hab ▸ hb)
      have hac : a ≠ c := fun hac => ha (hac ▸ hc)
      simp only [List.idxOf_cons, beq_false_of_ne hab, beq_false_of_ne hac, cond_false]
      exact Nat.succ_lt_succ (hothers h)

/-- **What is left without repetitions is in the order in which it came first.** -/
theorem pairwise_idxOf_eraseDups (as : List α) :
    as.eraseDups.Pairwise fun b c => as.idxOf b < as.idxOf c := by
  induction as using eraseDups_induction with
  | nil => exact .nil
  | cons a as ih =>
    have hne : ∀ b ∈ (as.filter fun b => !b == a).eraseDups, (!b == a) = true := by
      intro b hb
      exact (List.mem_filter.mp (List.mem_eraseDups.mp hb)).2
    have hshift : ∀ b ∈ (as.filter fun b => !b == a).eraseDups,
        (a :: as).idxOf b = as.idxOf b + 1 := by
      intro b hb
      have hab : b ≠ a := by simpa using hne b hb
      rw [List.idxOf_cons, beq_false_of_ne hab.symm, cond_false]
    rw [List.eraseDups_cons, List.pairwise_cons]
    constructor
    · intro b hb
      rw [List.idxOf_cons_self, hshift b hb]
      exact Nat.succ_pos _
    · refine ih.imp_of_mem fun hb hc h => ?_
      rw [hshift _ hb, hshift _ hc]
      exact Nat.succ_lt_succ
        (idxOf_lt_of_filter (p := fun b => !b == a) (hne _ hb) (hne _ hc) h)

end

end TaskNotes
