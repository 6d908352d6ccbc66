/-
# Drawing numbers

What numbering does to an allocator: it draws numbers and does nothing else.  So the allocator that
is left goes on from the one that was there (`Allocator.GoesOn`), and what has been handed out in
between are the identifiers of its project with the numbers in between (`Allocator.HandsOut`).

This is a fact about steps that is handed up to computations (`OnlyDraws`), to rebuilt trees
(`onlyDraws_rebuild`) and so to numbering, for whatever project an allocator is.

Numbers are drawn deep inside of a recursion through the tree, so the fact cannot be read off the
result.  But it is closed under everything that the recursion is made of: a value that is returned
draws nothing, and of two computations one after the other the second goes on where the first has
stopped.  What remains is `nextId`, the only access that a computation has to its allocator.
-/
import TaskNotes.Proofs.NumberedText
import TaskNotes.Proofs.Siblings

namespace TaskNotes

/-! ## 1. Allocators -/

/-- One allocator goes on from another: it is of the same project, and no number has been taken
back. -/
structure Allocator.GoesOn (a b : Allocator) : Prop where
  project_eq : b.project = a.project
  last_le : a.last ≤ b.last

/-- The identifiers that are handed out while an allocator becomes another one. -/
def Allocator.HandsOut (a b : Allocator) (id : List Char) : Prop :=
  ∃ n, a.last < n ∧ n ≤ b.last ∧ id = a.project.toList ++ '-' :: decimal n

section

variable {a b c : Allocator} {id : List Char}

theorem Allocator.GoesOn.refl (a : Allocator) : a.GoesOn a := ⟨rfl, Nat.le_refl _⟩

theorem Allocator.GoesOn.trans (h : a.GoesOn b) (h' : b.GoesOn c) : a.GoesOn c :=
  ⟨h'.project_eq.trans h.project_eq, Nat.le_trans h.last_le h'.last_le⟩

theorem Allocator.GoesOn.handsOut (h : a.GoesOn b) (hid : b.HandsOut c id) : a.HandsOut c id := by
  obtain ⟨n, hlow, hhigh, rfl⟩ := hid
  refine ⟨n, Nat.lt_of_le_of_lt h.last_le hlow, hhigh, ?_⟩
  rw [h.project_eq]

theorem Allocator.HandsOut.goesOn (hid : a.HandsOut b id) (h : b.GoesOn c) : a.HandsOut c id := by
  obtain ⟨n, hlow, hhigh, rfl⟩ := hid
  exact ⟨n, hlow, Nat.le_trans hhigh h.last_le, rfl⟩

/-- An identifier that is drawn is handed out by its draw. -/
theorem handsOut_of_nextId (h : nextId.run a = .ok (id, b)) : a.HandsOut b id := by
  obtain ⟨rfl, rfl⟩ := nextId_eq_ok h
  exact ⟨a.last + 1, Nat.lt_succ_self _, Nat.le_refl _, rfl⟩

end

/-! ## 2. Computations

One lemma for each way in which a computation is put together, and then one for each function that
numbers a text.  The cases of these functions are not looked at: all of them end in a value or in a
draw followed by a value. -/

/-- Whether a computation does nothing to an allocator but draw numbers from it. -/
def OnlyDraws {α : Type} (x : Numbering α) : Prop :=
  ∀ (a b : Allocator) (r : α), x.run a = .ok (r, b) → a.GoesOn b

section

variable {α β : Type}

theorem onlyDraws_pure (r : α) : OnlyDraws (pure r) := by
  intro a b _ h
  cases numbering_pure_eq_ok_iff.mp h
  exact .refl a

theorem OnlyDraws.bind {x : Numbering α} {f : α → Numbering β} (hx : OnlyDraws x)
    (hf : ∀ r, OnlyDraws (f r)) : OnlyDraws (x >>= f) := by
  intro a b _ h
  obtain ⟨_, hfirst, h⟩ := numbering_bind_eq_ok_iff.mp h
  exact (hx _ _ _ hfirst).trans (hf _ _ _ _ h)

theorem onlyDraws_nextId : OnlyDraws nextId := by
  intro a b id h
  obtain ⟨-, rfl⟩ := nextId_eq_ok h
  exact ⟨rfl, Nat.le_succ _⟩

/-- An identifier is drawn and used. -/
theorem onlyDraws_nextId_bind (f : List Char → α) :
    OnlyDraws (do let id ← nextId; pure (f id)) :=
  onlyDraws_nextId.bind fun _ => onlyDraws_pure _

theorem onlyDraws_numberHeadingText (project : ProjectId) (text : List Char) :
    OnlyDraws (numberHeadingText project text) := by
  have hrule := headingRule project text
  generalize numberHeadingText project text = x at hrule ⊢
  cases hrule with
  | kept _ | boxed _ _ | other _ _ _ => exact onlyDraws_pure _
  | replacedBehindBox _ _ | inserted _ | replaced _ _ _ => exact onlyDraws_nextId_bind _

theorem onlyDraws_numberItemText (project : ProjectId) (checked : Option Bool)
    (text : List Char) : OnlyDraws (numberItemText project checked text) := by
  have hrule := itemRule project checked text
  generalize numberItemText project checked text = x at hrule ⊢
  cases hrule with
  | boxed _ | other _ _ => exact onlyDraws_pure _
  | replaced _ _ | inserted _ _ => exact onlyDraws_nextId_bind _

theorem onlyDraws_numberTask (project : ProjectId) (kind : Branch) (cs : List Node) :
    OnlyDraws (numberTask project kind cs) := by
  have hrule := taskRule project kind cs
  generalize numberTask project kind cs = x at hrule ⊢
  cases hrule with
  | other _ | headingWithoutText _ | itemWithoutText _ => exact onlyDraws_pure _
  | heading _ => exact (onlyDraws_numberHeadingText _ _).bind fun _ => onlyDraws_pure _
  | item _ => exact (onlyDraws_numberItemText _ _ _).bind fun _ => onlyDraws_pure _
  | itemFilled _ => exact onlyDraws_nextId_bind _

end

/-! ## 3. Trees -/

section

variable {regions : Regions} {visit : Visit Numbering}

mutual
/-- A tree is rebuilt by drawing numbers alone if every branch is visited so. -/
theorem onlyDraws_rebuild (hvisit : ∀ kind cs, OnlyDraws (visit kind cs)) (tree : Node) :
    OnlyDraws (tree.rebuild regions visit) := by
  match tree with
  | .leaf kind =>
    rw [Node.rebuild]
    exact onlyDraws_pure _
  | .branch kind cs =>
    rw [Node.rebuild]
    exact (hvisit kind cs).bind fun _ =>
      (onlyDraws_rebuildAll hvisit none cs).bind fun _ => onlyDraws_pure _

/-- So are siblings, behind the body of a region and elsewhere. -/
theorem onlyDraws_rebuildAll (hvisit : ∀ kind cs, OnlyDraws (visit kind cs))
    (skipping : Option String) (cs : List Node) :
    OnlyDraws (rebuildAll regions visit skipping cs) := by
  match cs, skipping with
  | [], _ =>
    rw [rebuildAll_nil]
    exact onlyDraws_pure _
  | c :: cs, some name =>
    rw [rebuildAll_skip]
    exact onlyDraws_rebuildAll hvisit _ cs
  | c :: cs, none =>
    cases hbegin : regionBegin? regions.names c with
    | none =>
      rw [rebuildAll_of_not_begin hbegin]
      exact (onlyDraws_rebuild hvisit c).bind fun _ =>
        (onlyDraws_rebuildAll hvisit none cs).bind fun _ => onlyDraws_pure _
    | some name =>
      rw [rebuildAll_of_begin hbegin]
      exact (onlyDraws_rebuildAll hvisit _ cs).bind fun _ => onlyDraws_pure _
end

end

end TaskNotes
