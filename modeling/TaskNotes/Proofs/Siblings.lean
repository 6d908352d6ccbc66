/-
# Regions among siblings

The traversal takes siblings one by one, and there are three things that it can do: it passes over
the first of them inside of the body of a region, it rebuilds it, or it keeps it as the marker with
which a region begins.  Each is an equation (`rebuildAll_skip`, `rebuildAll_of_not_begin`,
`rebuildAll_of_begin`), in whatever monad branches are visited; what is proved about the traversal
is proved from these.

The body of a region is what stands in front of its end marker (`regionBody`), and where there is
such a marker the body is passed over (`regionPassed`).

The traversal is written with a flag for the region that is being passed over, and so are its three
equations: with the flag set there is one of them, and without it two.  A proof about siblings is
by recursion on them with the flag left open, and takes these cases; most modules about trees have
a pair of lemmas of this kind, one for a tree and one for its siblings.
-/
import TaskNotes.Task.Numbering
import TaskNotes.Proofs.Success
import Mathlib.Data.List.TakeWhile

namespace TaskNotes

/-! ## 1. Markers of regions

Only HTML can be a marker, so neither a text nor a branch begins a region. -/

theorem mem_of_regionBegin? {names : List String} {node : Node} {name : String}
    (h : regionBegin? names node = some name) : name ∈ names :=
  List.mem_of_find?_eq_some h

/-- The marker that closes a region ends it. -/
theorem isRegionEnd_endMarker {name : String} (h : name ∈ regionNames) :
    isRegionEnd name (.html (endMarker name)) = true := by
  revert name
  decide

@[simp] theorem regionBegin?_text (names : List String) (value : String) :
    regionBegin? names (.text value) = none :=
  List.find?_eq_none.mpr (fun _ _ => Bool.false_ne_true)

@[simp] theorem regionBegin?_branch (names : List String) (kind : Branch) (cs : List Node) :
    regionBegin? names (.branch kind cs) = none :=
  List.find?_eq_none.mpr (fun _ _ => Bool.false_ne_true)

/-! ## 2. Bodies of regions

A body that has been closed is found again as it was, if there is no end marker in it. -/

/-- The body of a region that begins in front of siblings; a region that is not closed has none. -/
def regionBody (name : String) (cs : List Node) : List Node :=
  if cs.any (isRegionEnd name) then cs.takeWhile fun c => !isRegionEnd name c else []

/-- The region whose body is passed over among siblings in front of which a region begins. -/
def regionPassed (name : String) (cs : List Node) : Option String :=
  if cs.any (isRegionEnd name) then some name else none

theorem isRegionEnd_eq_false_of_mem_regionBody {name : String} {cs : List Node} {c : Node}
    (h : c ∈ regionBody name cs) : isRegionEnd name c = false := by
  rw [regionBody] at h
  split at h
  next =>
    have := List.mem_takeWhile_imp h
    simpa using this
  next => cases h

/-- The body of a region is what stands in front of the first end marker. -/
theorem regionBody_append_cons {name : String} {e : Node} {body behind : List Node}
    (hbody : ∀ d ∈ body, isRegionEnd name d = false) (hend : isRegionEnd name e = true) :
    regionBody name (body ++ e :: behind) = body := by
  have hany : (body ++ e :: behind).any (isRegionEnd name) = true :=
    List.any_eq_true.mpr ⟨e, List.mem_append_right _ List.mem_cons_self, hend⟩
  rw [regionBody, if_pos hany, List.takeWhile_append_of_pos, List.takeWhile_cons, hend]
  · simp
  · intro d hd
    rw [hbody d hd, Bool.not_false]

section

variable {name : String} {body rest : List Node}

theorem any_isRegionEnd_close (h : name ∈ regionNames) (body rest : List Node) :
    (Regions.kept.close name body rest).any (isRegionEnd name) = true := by
  rw [Regions.close, List.any_append, List.any_cons, isRegionEnd_endMarker h, Bool.true_or,
    Bool.or_true]

theorem regionPassed_close (h : name ∈ regionNames) (body rest : List Node) :
    regionPassed name (Regions.kept.close name body rest) = some name := by
  rw [regionPassed, if_pos (any_isRegionEnd_close h body rest)]

/-- The body that has been closed is the body of its region. -/
theorem regionBody_close (hname : name ∈ regionNames)
    (hbody : ∀ c ∈ body, isRegionEnd name c = false) (rest : List Node) :
    regionBody name (Regions.kept.close name body rest) = body :=
  regionBody_append_cons hbody (isRegionEnd_endMarker hname)

/-- What passes over siblings up to an end marker passes over the body that has been closed. -/
theorem skip_close {β : Type} {f : Option String → List Node → β}
    (hskip : ∀ name c cs,
      f (some name) (c :: cs) = f (if isRegionEnd name c then none else some name) cs)
    (hname : name ∈ regionNames) (rest : List Node) :
    ∀ body : List Node, (∀ c ∈ body, isRegionEnd name c = false) →
      f (some name) (Regions.kept.close name body rest) = f none rest
  | [], _ => by
    rw [Regions.close, Regions.kept, List.nil_append, hskip, isRegionEnd_endMarker hname,
      if_pos rfl]
  | c :: body, h => by
    have hc : isRegionEnd name c = false := h c List.mem_cons_self
    have ih := skip_close hskip hname rest body fun d hd => h d (List.mem_cons_of_mem _ hd)
    rw [Regions.close, Regions.kept, List.cons_append, hskip, hc]
    exact ih

end

/-! ## 3. The traversal, sibling by sibling -/

section

variable {m : Type → Type} [Monad m] {regions : Regions} {visit : Visit m} {c : Node}

theorem rebuildAll_nil (regions : Regions) (visit : Visit m) (skipping : Option String) :
    rebuildAll regions visit skipping [] = pure [] := by
  rw [rebuildAll]

/-- Inside of a body siblings are passed over, up to the one that ends the region. -/
theorem rebuildAll_skip (regions : Regions) (visit : Visit m) (name : String) (c : Node)
    (cs : List Node) :
    rebuildAll regions visit (some name) (c :: cs) =
      rebuildAll regions visit (if isRegionEnd name c then none else some name) cs := by
  rw [rebuildAll]

/-- Outside of regions siblings are rebuilt one after the other. -/
theorem rebuildAll_of_not_begin (h : regionBegin? regions.names c = none) (cs : List Node) :
    rebuildAll regions visit none (c :: cs) = (do
      let first ← c.rebuild regions visit
      let others ← rebuildAll regions visit none cs
      pure (first :: others)) := by
  rw [rebuildAll, h]

/-- What begins a region stays; its body is built anew, and what is behind the body is rebuilt. -/
theorem rebuildAll_of_begin {name : String} (h : regionBegin? regions.names c = some name)
    (cs : List Node) :
    rebuildAll regions visit none (c :: cs) = (do
      let rest ← rebuildAll regions visit (regionPassed name cs) cs
      pure (c :: regions.close name (regionBody name cs) rest)) := by
  rw [rebuildAll, h, regionBody, regionPassed]
  by_cases hend : cs.any (isRegionEnd name) = true
  · simp only [hend, if_true]
  · simp only [hend, if_false, Bool.false_eq_true]

end

/-! ## 4. Replacing bodies

Replacing bodies is the traversal with a visit that does nothing, in the monad that does nothing. -/

/-- What replacing bodies makes of siblings; `skipping` is the region whose body they begin
with. -/
def replaceAmong (regions : Regions) (skipping : Option String) (cs : List Node) : List Node :=
  Id.run (rebuildAll regions visitNothing skipping cs)

section

variable {regions : Regions} {c : Node} {name : String}

@[simp] theorem replaceRegions_leaf (kind : Leaf) :
    (Node.leaf kind).replaceRegions regions = .leaf kind := by
  rw [Node.replaceRegions, Node.rebuild]
  rfl

@[simp] theorem replaceRegions_branch (kind : Branch) (cs : List Node) :
    (Node.branch kind cs).replaceRegions regions =
      .branch kind (replaceAmong regions none cs) := by
  rw [Node.replaceRegions, Node.rebuild]
  rfl

@[simp] theorem replaceAmong_nil (skipping : Option String) :
    replaceAmong regions skipping [] = [] := by
  rw [replaceAmong, rebuildAll_nil]
  rfl

theorem replaceAmong_skip (name : String) (c : Node) (cs : List Node) :
    replaceAmong regions (some name) (c :: cs) =
      replaceAmong regions (if isRegionEnd name c then none else some name) cs := by
  rw [replaceAmong, rebuildAll_skip, replaceAmong]

theorem replaceAmong_of_begin (h : regionBegin? regions.names c = some name) (cs : List Node) :
    replaceAmong regions none (c :: cs) =
      c :: regions.close name (regionBody name cs)
        (replaceAmong regions (regionPassed name cs) cs) := by
  rw [replaceAmong, rebuildAll_of_begin h]
  rfl

theorem replaceAmong_of_not_begin (h : regionBegin? regions.names c = none) (cs : List Node) :
    replaceAmong regions none (c :: cs) =
      c.replaceRegions regions :: replaceAmong regions none cs := by
  rw [replaceAmong, rebuildAll_of_not_begin h]
  rfl

end

/-! ## 5. Rebuilding with an allocator

The same equations with the results of computations named, as they are needed where a run is taken
apart. -/

section

variable {regions : Regions} {visit : Visit Numbering} {a b : Allocator} {c out : Node}
  {cs outs : List Node}

theorem rebuild_branch_eq_ok_iff {kind : Branch} {r : Node × Allocator} :
    ((Node.branch kind cs).rebuild regions visit).run a = .ok r ↔
      ∃ after finish between, (visit kind cs).run a = .ok ((after, finish), between) ∧
        ∃ rebuilt last, (rebuildAll regions visit none cs).run between = .ok (rebuilt, last) ∧
          (.branch after (finish rebuilt), last) = r := by
  rw [Node.rebuild]
  simp only [numbering_bind_eq_ok_iff, numbering_pure_eq_ok_iff, Prod.exists]

/-- **What becomes of siblings.**  The first of them is rebuilt and then the others; or it begins a
region, stays, and is followed by the body of the region, its end marker and what is made of the
siblings behind the body. -/
theorem rebuildAll_cons_eq_ok
    (h : (rebuildAll regions visit none (c :: cs)).run a = .ok (outs, b)) :
    (regionBegin? regions.names c = none ∧ ∃ first between others,
        (c.rebuild regions visit).run a = .ok (first, between) ∧
        (rebuildAll regions visit none cs).run between = .ok (others, b) ∧
        outs = first :: others) ∨
      ∃ name rest, regionBegin? regions.names c = some name ∧
        (rebuildAll regions visit (regionPassed name cs) cs).run a = .ok (rest, b) ∧
        outs = c :: regions.close name (regionBody name cs) rest := by
  cases hbegin : regionBegin? regions.names c with
  | none =>
    rw [rebuildAll_of_not_begin hbegin] at h
    obtain ⟨⟨first, between⟩, hfirst, h⟩ := numbering_bind_eq_ok_iff.mp h
    obtain ⟨⟨others, _⟩, hothers, h⟩ := numbering_bind_eq_ok_iff.mp h
    cases numbering_pure_eq_ok_iff.mp h
    exact .inl ⟨rfl, first, between, others, hfirst, hothers, rfl⟩
  | some name =>
    rw [rebuildAll_of_begin hbegin] at h
    obtain ⟨⟨rest, _⟩, hrest, h⟩ := numbering_bind_eq_ok_iff.mp h
    cases numbering_pure_eq_ok_iff.mp h
    exact .inr ⟨name, rest, rfl, hrest, rfl⟩

/-- What has been rebuilt begins no region if it did not before. -/
theorem regionBegin?_of_rebuild {names : List String} (hbegin : regionBegin? names c = none)
    (h : (c.rebuild regions visit).run a = .ok (out, b)) : regionBegin? names out = none := by
  cases c with
  | leaf kind =>
    cases numbering_pure_eq_ok_iff.mp h
    exact hbegin
  | branch kind cs =>
    obtain ⟨_, _, _, -, _, _, -, h⟩ := rebuild_branch_eq_ok_iff.mp h
    cases h
    exact regionBegin?_branch _ _ _

/-- Rebuilt siblings begin with the text that they began with. -/
theorem firstText?_of_rebuildAll (h : (rebuildAll regions visit none cs).run a = .ok (outs, b)) :
    firstText? outs = firstText? cs := by
  cases cs with
  | nil =>
    obtain ⟨rfl, rfl⟩ := Prod.mk.inj (numbering_pure_eq_ok_iff.mp h)
    rfl
  | cons c cs =>
    rcases rebuildAll_cons_eq_ok h with ⟨-, first, _, others, hfirst, -, rfl⟩ | ⟨_, _, -, -, rfl⟩
    · cases c with
      | branch kind inner =>
        obtain ⟨_, _, _, -, _, _, -, h⟩ := rebuild_branch_eq_ok_iff.mp hfirst
        obtain ⟨rfl, rfl⟩ := Prod.mk.inj h
        rfl
      | leaf kind =>
        obtain ⟨rfl, rfl⟩ := Prod.mk.inj (numbering_pure_eq_ok_iff.mp hfirst)
        cases kind <;> rfl
    · cases c with
      | branch kind inner => rfl
      | leaf kind => cases kind <;> rfl

end

end TaskNotes
