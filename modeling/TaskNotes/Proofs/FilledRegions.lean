/-
# Trees in which regions are filled

A tree is filled when each region of a name is closed and has a certain body.  Filling regions
gives such a tree (`isFilled_replaceRegions`) and leaves it as it is (`IsFilled.replaceRegions_eq`),
and a filled tree stays filled when the regions of the other name are filled
(`IsFilled.replaceRegions_other`).  So filling first the indexes and then the tables of contents
gives a tree that a second time leaves alone.

`IsFilled` is a relation on trees and not an equation for `replaceRegions`, because it has to be
kept by filling other regions.  A body stands between its markers as a row of siblings; when the
regions of the other name are filled, the walk goes through this row, finds no marker of the other
name, and leaves it as it is.  This needs that bodies hold no markers of either name among their
own siblings: they are made of branches (`AllBranches`), and markers are leaves.
-/
import TaskNotes.Proofs.RegionBodies

namespace TaskNotes

/-! ## 1. Filled trees -/

mutual
/-- Whether each region of a name, anywhere in a tree, is closed and has a certain body. -/
inductive IsFilled (name : String) (body : List Node) : Node → Prop
  | leaf (kind : Leaf) : IsFilled name body (.leaf kind)
  | branch (kind : Branch) {cs : List Node} (h : AreFilled name body cs) :
      IsFilled name body (.branch kind cs)

/-- The same for siblings. -/
inductive AreFilled (name : String) (body : List Node) : List Node → Prop
  | nil : AreFilled name body []
  | cons {c : Node} {cs : List Node} (hbegin : isMarker (beginMarker name) c = false)
      (hfirst : IsFilled name body c) (hothers : AreFilled name body cs) :
      AreFilled name body (c :: cs)
  | region {c : Node} {cs : List Node} (hbegin : isMarker (beginMarker name) c = true)
      (hothers : AreFilled name body cs) :
      AreFilled name body (c :: (body ++ .html (endMarker name) :: cs))
end

section

variable {name other : String} {body inside : List Node}

mutual
/-- **Filling regions fills them.** -/
theorem isFilled_replaceRegions (tree : Node) :
    IsFilled name body (tree.replaceRegions (.filled name body)) := by
  match tree with
  | .leaf kind =>
    rw [replaceRegions_leaf]
    exact .leaf kind
  | .branch kind cs =>
    rw [replaceRegions_branch]
    exact .branch kind (areFilled_replaceAmong none cs)

theorem areFilled_replaceAmong (skipping : Option String) (cs : List Node) :
    AreFilled name body (replaceAmong (.filled name body) skipping cs) := by
  match cs, skipping with
  | [], _ =>
    rw [replaceAmong_nil]
    exact .nil
  | c :: cs, some passed =>
    rw [replaceAmong_skip]
    exact areFilled_replaceAmong _ cs
  | c :: cs, none =>
    cases hbegin : isMarker (beginMarker name) c with
    | true =>
      rw [replaceAmong_filled_of_begin hbegin]
      exact .region hbegin (areFilled_replaceAmong _ cs)
    | false =>
      rw [replaceAmong_filled_of_not_begin hbegin]
      exact .cons ((isMarker_replaceRegions _ c).trans hbegin) (isFilled_replaceRegions c)
        (areFilled_replaceAmong none cs)
end

mutual
/-- **Filled regions stay as they are when they are filled again.** -/
theorem IsFilled.replaceRegions_eq (hname : name ∈ regionNames) (hbody : AllBranches body)
    {tree : Node} (h : IsFilled name body tree) :
    tree.replaceRegions (.filled name body) = tree := by
  match h with
  | .leaf kind => exact replaceRegions_leaf kind
  | .branch kind h => rw [replaceRegions_branch, h.replaceAmong_eq hname hbody]

theorem AreFilled.replaceAmong_eq (hname : name ∈ regionNames) (hbody : AllBranches body)
    {cs : List Node} (h : AreFilled name body cs) :
    replaceAmong (.filled name body) none cs = cs := by
  match h with
  | .nil => exact replaceAmong_nil none
  | .cons hbegin hfirst hothers =>
    rw [replaceAmong_filled_of_not_begin hbegin, hfirst.replaceRegions_eq hname hbody,
      hothers.replaceAmong_eq hname hbody]
  | @AreFilled.region _ _ _ cs hbegin hothers =>
    have hend := isRegionEnd_endMarker hname
    have hpassed : regionPassed name (body ++ .html (endMarker name) :: cs) = some name := by
      rw [regionPassed, List.any_append, List.any_cons, hend, Bool.true_or, Bool.or_true,
        if_pos rfl]
    rw [replaceAmong_filled_of_begin hbegin, hpassed,
      skip_allBranches replaceAmong_skip name _ hbody, replaceAmong_skip, hend, if_pos rfl,
      hothers.replaceAmong_eq hname hbody]

end

/-! ## 2. Regions of the other name

A region of this name may lie inside the body of a region of the other name, and then it goes with
that body, as a whole.  So the induction is on the filled siblings, with the region that is being
passed over as an argument. -/

/-- Siblings without a region of a name are filled, whatever the body is. -/
theorem AreFilled.append_of_not_containsRegion {cs : List Node} (h : AreFilled name body cs) :
    ∀ {front : List Node}, AllBranches front → containsRegionAll name front = false →
      AreFilled name body (front ++ cs)
  | [], _, _ => h
  | c :: front, hfront, hnone => by
    rw [containsRegionAll, Bool.or_eq_false_iff] at hnone
    have hc : IsFilled name body (c.replaceRegions (.filled name body)) := isFilled_replaceRegions c
    rw [replaceRegions_of_not_containsRegion hnone.1] at hc
    exact .cons (isMarker_of_isParent (hfront c List.mem_cons_self) _) hc
      (h.append_of_not_containsRegion (fun d hd => hfront d (List.mem_cons_of_mem _ hd)) hnone.2)

mutual
/-- **A tree stays filled when the regions of another name are filled**, with a body that holds no
region. -/
theorem IsFilled.replaceRegions_other (hname : name ∈ regionNames) (hother : other ∈ regionNames)
    (hne : name ≠ other) (hbody : AllBranches body) (hnone : containsRegionAll other body = false)
    (hinside : AllBranches inside) (hnone' : containsRegionAll name inside = false) {tree : Node}
    (h : IsFilled name body tree) :
    IsFilled name body (tree.replaceRegions (.filled other inside)) := by
  match h with
  | .leaf kind =>
    rw [replaceRegions_leaf]
    exact .leaf kind
  | .branch kind h =>
    rw [replaceRegions_branch]
    exact .branch kind (h.replaceAmong_other hname hother hne hbody hnone hinside hnone' none nofun)

theorem AreFilled.replaceAmong_other (hname : name ∈ regionNames) (hother : other ∈ regionNames)
    (hne : name ≠ other) (hbody : AllBranches body) (hnone : containsRegionAll other body = false)
    (hinside : AllBranches inside) (hnone' : containsRegionAll name inside = false)
    {cs : List Node} (h : AreFilled name body cs) (skipping : Option String)
    (hskipping : ∀ passed ∈ skipping, passed = other) :
    AreFilled name body (replaceAmong (.filled other inside) skipping cs) := by
  match h, skipping with
  | .nil, _ =>
    rw [replaceAmong_nil]
    exact .nil
  | .cons hbegin hfirst hothers, some passed =>
    rw [replaceAmong_skip]
    refine hothers.replaceAmong_other hname hother hne hbody hnone hinside hnone' _ ?_
    split
    · simp
    · exact hskipping
  | .cons (c := c) hbegin hfirst hothers, none =>
    cases hbegin' : isMarker (beginMarker other) c with
    | true =>
      rw [replaceAmong_filled_of_begin hbegin']
      refine .cons hbegin hfirst (AreFilled.append_of_not_containsRegion ?_ hinside hnone')
      have hend : isMarker (beginMarker name) (.html (endMarker other)) = false :=
        begin_of_isRegionEnd hother hname (isRegionEnd_endMarker hother)
      refine .cons hend (.leaf _)
        (hothers.replaceAmong_other hname hother hne hbody hnone hinside hnone' _ ?_)
      rw [regionPassed]
      split
      · simp
      · simp
    | false =>
      rw [replaceAmong_filled_of_not_begin hbegin']
      exact .cons ((isMarker_replaceRegions _ c).trans hbegin)
        (hfirst.replaceRegions_other hname hother hne hbody hnone hinside hnone')
        (hothers.replaceAmong_other hname hother hne hbody hnone hinside hnone' none nofun)
  | .region hbegin hothers, some passed =>
    -- a region that is passed over goes as a whole
    obtain rfl : other = passed := (hskipping passed rfl).symm
    rw [replaceAmong_skip_region hname hother hne hbegin hbody]
    exact hothers.replaceAmong_other hname hother hne hbody hnone hinside hnone' _ hskipping
  | .region hbegin hothers, none =>
    have hkept : body.map (Node.replaceRegions (.filled other inside)) = body := by
      have hbody' : replaceAmong (.filled other inside) none body = body :=
        replaceAmong_of_not_containsRegionAll hnone
      rw [← List.append_nil body, replaceAmong_append_of_allBranches [] hbody, replaceAmong_nil,
        List.append_nil] at hbody'
      rwa [List.append_nil] at hbody'
    rw [replaceAmong_filled_region hname hother hne hbegin hbody, hkept]
    exact .region hbegin
      (hothers.replaceAmong_other hname hother hne hbody hnone hinside hnone' none nofun)
end

end

end TaskNotes
