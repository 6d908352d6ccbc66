/-
# Trees that differ in the bodies of regions

Filling the regions of a name gives trees that are the same except in the bodies of these regions,
whatever they are filled with (`sameOutside_filled`).  Such trees stay so when the regions of the
other name are filled (`SameOutside.filled`), and the same is authored in them
(`SameOutside.authored_eq`).

The bodies have to be free of markers.  All bodies that a plan makes consist of branches, and only
leaves are markers.

Such trees are told by an inductive relation with a constructor for closed regions, and not by an
equation between trees with their regions emptied.  This is so that both sides can be followed at
once: where one side has a region, so does the other, at the same place and with the same marker
behind it.

A body that could hold markers would not do.  It could end its own region early, or begin another
one.
-/
import TaskNotes.Plan.Index
import TaskNotes.Proofs.Authored

namespace TaskNotes

/-! ## 1. Markers

The markers of the two names are four different texts, so what is one of them is none of the
others. -/

section

variable {c : Node} {name other marker : String}

/-- A node is no two markers. -/
theorem isMarker_unique (h : isMarker marker c = true) (h' : isMarker other c = true) :
    marker = other := by
  cases c with
  | branch kind cs => cases h
  | leaf kind =>
    cases kind with
    | html value =>
      rw [isMarker, beq_iff_eq] at h h'
      exact String.toList_inj.mp (h.symm.trans h')
    | _ => cases h

theorem isMarker_of_regionBegin? {names : List String} (h : regionBegin? names c = some name) :
    isMarker (beginMarker name) c = true :=
  List.find?_some (p := fun name => isMarker (beginMarker name) c) h

theorem beginMarker_injOn (h : name ∈ regionNames) (h' : other ∈ regionNames)
    (heq : beginMarker name = beginMarker other) : name = other := by
  have hall : ∀ name ∈ regionNames, ∀ other ∈ regionNames,
      beginMarker name = beginMarker other → name = other := by decide +kernel
  exact hall name h other h' heq

theorem endMarker_injOn (h : name ∈ regionNames) (h' : other ∈ regionNames)
    (heq : endMarker name = endMarker other) : name = other := by
  have hall : ∀ name ∈ regionNames, ∀ other ∈ regionNames,
      endMarker name = endMarker other → name = other := by decide +kernel
  exact hall name h other h' heq

theorem beginMarker_ne_endMarker (h : name ∈ regionNames) (h' : other ∈ regionNames) :
    beginMarker name ≠ endMarker other := by
  have hall : ∀ name ∈ regionNames, ∀ other ∈ regionNames,
      beginMarker name ≠ endMarker other := by decide +kernel
  exact hall name h other h'

/-- What begins a region ends none. -/
theorem isRegionEnd_of_begin (hname : name ∈ regionNames) (hother : other ∈ regionNames)
    (h : isMarker (beginMarker name) c = true) : isRegionEnd other c = false := by
  by_contra hend
  rw [Bool.not_eq_false] at hend
  exact beginMarker_ne_endMarker hname hother (isMarker_unique h hend)

/-- What ends a region begins none. -/
theorem begin_of_isRegionEnd (hname : name ∈ regionNames) (hother : other ∈ regionNames)
    (h : isRegionEnd name c = true) : isMarker (beginMarker other) c = false := by
  by_contra hbegin
  rw [Bool.not_eq_false] at hbegin
  exact beginMarker_ne_endMarker hother hname (isMarker_unique hbegin h)

theorem regionBegin?_eq_some_iff (hname : name ∈ regionNames) :
    regionBegin? regionNames c = some name ↔ isMarker (beginMarker name) c = true := by
  refine ⟨isMarker_of_regionBegin?, fun h => ?_⟩
  cases hbegin : regionBegin? regionNames c with
  | none => exact absurd h (List.find?_eq_none.mp hbegin name hname)
  | some found =>
    have hfound := isMarker_of_regionBegin? hbegin
    rw [beginMarker_injOn (mem_of_regionBegin? hbegin) hname (isMarker_unique hfound h)]

theorem regionBegin?_singleton (name : String) (c : Node) :
    regionBegin? [name] c = if isMarker (beginMarker name) c then some name else none := by
  rw [regionBegin?, List.find?_cons]
  cases isMarker (beginMarker name) c <;> rfl

/-- Only leaves are markers. -/
theorem isMarker_of_isParent (h : c.isParent = true) (marker : String) :
    isMarker marker c = false := by
  cases c with
  | branch kind cs => rfl
  | leaf kind => cases h

theorem isRegionEnd_endMarker_iff (hname : name ∈ regionNames) (hother : other ∈ regionNames) :
    isRegionEnd other (.html (endMarker name)) = true ↔ other = name := by
  constructor
  · intro h
    exact endMarker_injOn hother hname (isMarker_unique h (isRegionEnd_endMarker hname))
  · rintro rfl
    exact isRegionEnd_endMarker hname

end

/-! ## 2. Filling regions

What filling does at a begin marker and elsewhere, and that it does nothing where the region does
not occur. -/

section

variable {regions : Regions} {c : Node}

/-- Replacing bodies neither makes a marker nor takes one away. -/
theorem isMarker_replaceRegions (marker : String) (c : Node) :
    isMarker marker (c.replaceRegions regions) = isMarker marker c := by
  cases c with
  | branch kind cs =>
    rw [replaceRegions_branch]
    rfl
  | leaf kind => rw [replaceRegions_leaf]

theorem replaceRegions_of_isMarker {marker : String} (h : isMarker marker c = true) :
    c.replaceRegions regions = c := by
  cases c with
  | branch kind cs => cases h
  | leaf kind => exact replaceRegions_leaf kind

end

section

variable {name : String} {body : List Node} {c : Node}

theorem replaceAmong_filled_of_begin (h : isMarker (beginMarker name) c = true)
    (cs : List Node) :
    replaceAmong (.filled name body) none (c :: cs) =
      c :: (body ++ .html (endMarker name) ::
        replaceAmong (.filled name body) (regionPassed name cs) cs) := by
  have hbegin : regionBegin? (Regions.filled name body).names c = some name := by
    rw [Regions.filled, regionBegin?_singleton, if_pos h]
  rw [replaceAmong_of_begin hbegin]
  rfl

theorem replaceAmong_filled_of_not_begin (h : isMarker (beginMarker name) c = false)
    (cs : List Node) :
    replaceAmong (.filled name body) none (c :: cs) =
      c.replaceRegions (.filled name body) :: replaceAmong (.filled name body) none cs := by
  refine replaceAmong_of_not_begin ?_ cs
  rw [Regions.filled, regionBegin?_singleton, h]
  rfl

mutual
/-- A tree without a region of a name stays as it is when that region is filled. -/
theorem replaceRegions_of_not_containsRegion {tree : Node}
    (h : tree.containsRegion name = false) :
    tree.replaceRegions (.filled name body) = tree := by
  match tree with
  | .leaf kind => exact replaceRegions_leaf kind
  | .branch kind cs =>
    rw [Node.containsRegion] at h
    rw [replaceRegions_branch, replaceAmong_of_not_containsRegionAll h]

/-- Siblings without a region of a name stay as they are. -/
theorem replaceAmong_of_not_containsRegionAll {cs : List Node}
    (h : containsRegionAll name cs = false) :
    replaceAmong (.filled name body) none cs = cs := by
  match cs with
  | [] => exact replaceAmong_nil none
  | c :: cs =>
    rw [containsRegionAll, Bool.or_eq_false_iff] at h
    have hbegin : isMarker (beginMarker name) c = false := by
      cases c with
      | branch kind inner => rfl
      | leaf kind => exact h.1
    rw [replaceAmong_filled_of_not_begin hbegin, replaceRegions_of_not_containsRegion h.1,
      replaceAmong_of_not_containsRegionAll h.2]
end

end

/-! ## 3. Trees that differ in the bodies of regions

First what such trees have in common: markers, and whether a region is closed.  Then how they come
about, how they behave under filling, and what is authored in them. -/

/-- Whether nodes are all branches, so that there is no marker among them. -/
def AllBranches (body : List Node) : Prop := ∀ c ∈ body, c.isParent = true

mutual
/-- Trees that are the same, except that the closed regions of a name may have different bodies
without markers. -/
inductive SameOutside (name : String) : Node → Node → Prop
  | leaf (kind : Leaf) : SameOutside name (.leaf kind) (.leaf kind)
  | branch (kind : Branch) {cs ds : List Node} (h : SameAmong name cs ds) :
      SameOutside name (.branch kind cs) (.branch kind ds)

/-- The same for siblings. -/
inductive SameAmong (name : String) : List Node → List Node → Prop
  | nil : SameAmong name [] []
  | cons {c d : Node} {cs ds : List Node} (hfirst : SameOutside name c d)
      (hothers : SameAmong name cs ds) : SameAmong name (c :: cs) (d :: ds)
  | region {c : Node} {body other cs ds : List Node}
      (hbegin : isMarker (beginMarker name) c = true) (hbody : AllBranches body)
      (hother : AllBranches other) (hrest : SameAmong name cs ds) :
      SameAmong name (c :: (body ++ .html (endMarker name) :: cs))
        (c :: (other ++ .html (endMarker name) :: ds))
end

section

variable {name : String} {c d : Node} {cs ds body : List Node}

theorem SameOutside.isMarker_eq (h : SameOutside name c d) (marker : String) :
    isMarker marker c = isMarker marker d := by
  cases h with
  | leaf kind => rfl
  | branch kind h => rfl

theorem SameOutside.regionBegin?_eq (h : SameOutside name c d) (names : List String) :
    regionBegin? names c = regionBegin? names d := by
  cases h with
  | leaf kind => rfl
  | branch kind h => rw [regionBegin?_branch, regionBegin?_branch]

theorem SameOutside.eq_of_isMarker (h : SameOutside name c d) {marker : String}
    (hmarker : isMarker marker c = true) : c = d := by
  cases h with
  | leaf kind => rfl
  | branch kind h => cases hmarker

theorem any_isRegionEnd_of_allBranches (h : AllBranches body) (name : String) :
    body.any (isRegionEnd name) = false := by
  rw [List.any_eq_false]
  intro c hc
  rw [isRegionEnd, isMarker_of_isParent (h c hc)]
  exact Bool.false_ne_true

theorem SameAmong.any_isRegionEnd_eq (other : String) {cs ds : List Node}
    (h : SameAmong name cs ds) : cs.any (isRegionEnd other) = ds.any (isRegionEnd other) := by
  match h with
  | .nil => rfl
  | .cons hfirst hothers =>
    rw [List.any_cons, List.any_cons, isRegionEnd, isRegionEnd, hfirst.isMarker_eq,
      hothers.any_isRegionEnd_eq]
  | .region hbegin hbody hother hrest =>
    rw [List.any_cons, List.any_append, List.any_cons, List.any_cons, List.any_append,
      List.any_cons, any_isRegionEnd_of_allBranches hbody, any_isRegionEnd_of_allBranches hother,
      hrest.any_isRegionEnd_eq]

theorem SameAmong.regionPassed_eq (h : SameAmong name cs ds) (other : String) :
    regionPassed other cs = regionPassed other ds := by
  rw [regionPassed, regionPassed, h.any_isRegionEnd_eq]

mutual
theorem SameOutside.refl (c : Node) : SameOutside name c c := by
  match c with
  | .leaf kind => exact .leaf kind
  | .branch kind cs => exact .branch kind (SameAmong.refl cs)

theorem SameAmong.refl (cs : List Node) : SameAmong name cs cs := by
  match cs with
  | [] => exact .nil
  | c :: cs => exact .cons (SameOutside.refl c) (SameAmong.refl cs)
end

theorem SameAmong.append_left (h : SameAmong name cs ds) (front : List Node) :
    SameAmong name (front ++ cs) (front ++ ds) := by
  induction front with
  | nil => exact h
  | cons c front ih => exact .cons (.refl c) ih

/-- What passes over siblings up to an end marker passes over branches. -/
theorem skip_allBranches {β : Type} {f : Option String → List Node → β}
    (hskip : ∀ name c cs,
      f (some name) (c :: cs) = f (if isRegionEnd name c then none else some name) cs)
    (other : String) (rest : List Node) :
    ∀ {body : List Node}, AllBranches body → f (some other) (body ++ rest) = f (some other) rest
  | [], _ => rfl
  | c :: body, h => by
    have hc : isRegionEnd other c = false := isMarker_of_isParent (h c List.mem_cons_self) _
    rw [List.cons_append, hskip, hc]
    exact skip_allBranches hskip other rest fun d hd => h d (List.mem_cons_of_mem _ hd)

/-- Outside of regions, branches are taken one by one. -/
theorem replaceAmong_append_of_allBranches {regions : Regions} (rest : List Node) :
    ∀ {body : List Node}, AllBranches body →
      replaceAmong regions none (body ++ rest) =
        body.map (Node.replaceRegions regions) ++ replaceAmong regions none rest
  | [], _ => rfl
  | c :: body, h => by
    have hc := h c List.mem_cons_self
    have hbody : AllBranches body := fun d hd => h d (List.mem_cons_of_mem _ hd)
    have ih : replaceAmong regions none (body ++ rest) = _ :=
      replaceAmong_append_of_allBranches rest hbody
    cases c with
    | leaf kind => cases hc
    | branch kind inner =>
      rw [List.cons_append, replaceAmong_of_not_begin (regionBegin?_branch _ _ _), ih]
      rfl

theorem AllBranches.map_replaceRegions (h : AllBranches body) (regions : Regions) :
    AllBranches (body.map (Node.replaceRegions regions)) := by
  intro c hc
  obtain ⟨d, hd, rfl⟩ := List.mem_map.mp hc
  have hd := h d hd
  cases d with
  | leaf kind => cases hd
  | branch kind inner =>
    rw [replaceRegions_branch]
    rfl

end

/-! ### Filled with one body or another -/

section

variable {name : String} {body other : List Node}

mutual
/-- **Trees whose regions are filled differ in the bodies of regions.** -/
theorem sameOutside_filled (hbody : AllBranches body) (hother : AllBranches other) (tree : Node) :
    SameOutside name (tree.replaceRegions (.filled name body))
      (tree.replaceRegions (.filled name other)) := by
  match tree with
  | .leaf kind =>
    rw [replaceRegions_leaf, replaceRegions_leaf]
    exact .leaf kind
  | .branch kind cs =>
    rw [replaceRegions_branch, replaceRegions_branch]
    exact .branch kind (sameAmong_filled hbody hother none cs)

theorem sameAmong_filled (hbody : AllBranches body) (hother : AllBranches other)
    (skipping : Option String) (cs : List Node) :
    SameAmong name (replaceAmong (.filled name body) skipping cs)
      (replaceAmong (.filled name other) skipping cs) := by
  match cs, skipping with
  | [], _ =>
    rw [replaceAmong_nil, replaceAmong_nil]
    exact .nil
  | c :: cs, some passed =>
    rw [replaceAmong_skip, replaceAmong_skip]
    exact sameAmong_filled hbody hother _ cs
  | c :: cs, none =>
    cases hbegin : isMarker (beginMarker name) c with
    | true =>
      rw [replaceAmong_filled_of_begin hbegin, replaceAmong_filled_of_begin hbegin]
      exact .region hbegin hbody hother (sameAmong_filled hbody hother _ cs)
    | false =>
      rw [replaceAmong_filled_of_not_begin hbegin, replaceAmong_filled_of_not_begin hbegin]
      exact .cons (sameOutside_filled hbody hother c) (sameAmong_filled hbody hother none cs)
end

end

/-! ### Filling regions of the other name -/

section

variable {name other : String} {body : List Node}

/-- Filling the regions of another name passes through a closed region without markers in its
body. -/
theorem replaceAmong_filled_region (hname : name ∈ regionNames) (hother : other ∈ regionNames)
    (hne : name ≠ other) {c : Node} (hbegin : isMarker (beginMarker name) c = true)
    {inside : List Node} (hinside : AllBranches inside) (rest : List Node) :
    replaceAmong (.filled other body) none (c :: (inside ++ .html (endMarker name) :: rest)) =
      c :: (inside.map (Node.replaceRegions (.filled other body)) ++
        .html (endMarker name) :: replaceAmong (.filled other body) none rest) := by
  have hc : isMarker (beginMarker other) c = false := by
    rw [← Bool.not_eq_true]
    intro hc
    exact hne (beginMarker_injOn hname hother (isMarker_unique hbegin hc))
  have hend : isMarker (beginMarker other) (.html (endMarker name)) = false :=
    begin_of_isRegionEnd hname hother (isRegionEnd_endMarker hname)
  rw [replaceAmong_filled_of_not_begin hc, replaceRegions_of_isMarker hbegin,
    replaceAmong_append_of_allBranches _ hinside, replaceAmong_filled_of_not_begin hend,
    replaceRegions_leaf]

/-- A region that is passed over does not end in one of another name. -/
theorem replaceAmong_skip_region {regions : Regions} (hname : name ∈ regionNames)
    (hother : other ∈ regionNames) (hne : name ≠ other) {c : Node}
    (hbegin : isMarker (beginMarker name) c = true) {inside : List Node}
    (hinside : AllBranches inside) (rest : List Node) :
    replaceAmong regions (some other) (c :: (inside ++ .html (endMarker name) :: rest)) =
      replaceAmong regions (some other) rest := by
  have hend : isRegionEnd other (.html (endMarker name)) = false := by
    rw [← Bool.not_eq_true, isRegionEnd_endMarker_iff hname hother]
    exact hne.symm
  rw [replaceAmong_skip, isRegionEnd_of_begin hname hother hbegin]
  simp only [Bool.false_eq_true, if_false]
  rw [skip_allBranches replaceAmong_skip other _ hinside, replaceAmong_skip, hend]
  rfl

mutual
/-- **Filling the regions of another name keeps trees that differ in bodies so.** -/
theorem SameOutside.filled (hname : name ∈ regionNames) (hother : other ∈ regionNames)
    (hne : name ≠ other) {c d : Node} (h : SameOutside name c d) :
    SameOutside name (c.replaceRegions (.filled other body))
      (d.replaceRegions (.filled other body)) := by
  match h with
  | .leaf kind =>
    rw [replaceRegions_leaf]
    exact .leaf kind
  | .branch kind h =>
    rw [replaceRegions_branch, replaceRegions_branch]
    exact .branch kind (h.filled hname hother hne none (by simp))

theorem SameAmong.filled (hname : name ∈ regionNames) (hother : other ∈ regionNames)
    (hne : name ≠ other) {cs ds : List Node} (h : SameAmong name cs ds)
    (skipping : Option String) (hskipping : ∀ passed ∈ skipping, passed = other) :
    SameAmong name (replaceAmong (.filled other body) skipping cs)
      (replaceAmong (.filled other body) skipping ds) := by
  match h, skipping with
  | .nil, _ =>
    rw [replaceAmong_nil]
    exact .nil
  | .cons hfirst hothers, some passed =>
    rw [replaceAmong_skip, replaceAmong_skip, isRegionEnd, isRegionEnd, hfirst.isMarker_eq]
    refine hothers.filled hname hother hne _ ?_
    split
    · simp
    · exact hskipping
  | .cons (c := c) hfirst hothers, none =>
    cases hbegin : isMarker (beginMarker other) c with
    | true =>
      obtain rfl := hfirst.eq_of_isMarker hbegin
      rw [replaceAmong_filled_of_begin hbegin, replaceAmong_filled_of_begin hbegin,
        hothers.regionPassed_eq]
      refine .cons (.refl c) (SameAmong.append_left (.cons (.refl _) ?_) body)
      refine hothers.filled hname hother hne _ ?_
      rw [regionPassed]
      split
      · simp
      · simp
    | false =>
      rw [replaceAmong_filled_of_not_begin hbegin,
        replaceAmong_filled_of_not_begin ((hfirst.isMarker_eq _).symm.trans hbegin)]
      exact .cons (hfirst.filled hname hother hne) (hothers.filled hname hother hne none (by simp))
  | .region hbegin hbody hother' hrest, some passed =>
    -- a region passed over from outside does not end at the markers of the other name
    obtain rfl : other = passed := (hskipping passed rfl).symm
    rw [replaceAmong_skip_region hname hother hne hbegin hbody,
      replaceAmong_skip_region hname hother hne hbegin hother']
    exact hrest.filled hname hother hne _ hskipping
  | .region hbegin hbody hother' hrest, none =>
    rw [replaceAmong_filled_region hname hother hne hbegin hbody,
      replaceAmong_filled_region hname hother hne hbegin hother']
    exact .region hbegin (hbody.map_replaceRegions _) (hother'.map_replaceRegions _)
      (hrest.filled hname hother hne none (by simp))
end

end

/-! ### What is authored -/

section

variable {name : String}

/-- Of a closed region without markers in its body the two markers are authored. -/
theorem authoredAmong_region (hname : name ∈ regionNames) {c : Node}
    (hbegin : isMarker (beginMarker name) c = true) {body : List Node} (hbody : AllBranches body)
    (rest : List Node) :
    authoredAmong none (c :: (body ++ .html (endMarker name) :: rest)) =
      c :: .html (endMarker name) :: authoredAmong none rest := by
  have hend := isRegionEnd_endMarker hname
  have hpassed : regionPassed name (body ++ .html (endMarker name) :: rest) = some name := by
    rw [regionPassed, List.any_append, List.any_cons, hend, Bool.true_or, Bool.or_true,
      if_pos rfl]
  rw [authoredAmong_of_begin ((regionBegin?_eq_some_iff hname).mpr hbegin), hpassed,
    skip_allBranches authoredAmong_skip name _ hbody, authoredAmong_skip, hend, if_pos rfl]

mutual
/-- **Trees that differ in the bodies of regions have the same authored part.** -/
theorem SameOutside.authored_eq (hname : name ∈ regionNames) {c d : Node}
    (h : SameOutside name c d) : c.authored = d.authored := by
  match h with
  | .leaf kind => rfl
  | .branch kind h =>
    rw [authored_branch, authored_branch, h.authoredAmong_eq hname none (by simp)]

theorem SameAmong.authoredAmong_eq (hname : name ∈ regionNames) {cs ds : List Node}
    (h : SameAmong name cs ds) (skipping : Option String)
    (hskipping : ∀ passed ∈ skipping, passed ∈ regionNames) :
    authoredAmong skipping cs = authoredAmong skipping ds := by
  match h, skipping with
  | .nil, _ => rfl
  | .cons hfirst hothers, some passed =>
    rw [authoredAmong_skip, authoredAmong_skip, isRegionEnd, isRegionEnd, hfirst.isMarker_eq]
    refine hothers.authoredAmong_eq hname _ ?_
    split
    · simp
    · exact hskipping
  | .cons (c := c) hfirst hothers, none =>
    cases hbegin : regionBegin? regionNames c with
    | some found =>
      obtain rfl := hfirst.eq_of_isMarker (isMarker_of_regionBegin? hbegin)
      rw [authoredAmong_of_begin hbegin, authoredAmong_of_begin hbegin, hothers.regionPassed_eq]
      have hfound := mem_of_regionBegin? hbegin
      rw [hothers.authoredAmong_eq hname]
      rw [regionPassed]
      split
      · intro passed hpassed
        rwa [← Option.some.inj hpassed]
      · simp
    | none =>
      rw [authoredAmong_of_not_begin hbegin,
        authoredAmong_of_not_begin ((hfirst.regionBegin?_eq _).symm.trans hbegin),
        hfirst.authored_eq hname, hothers.authoredAmong_eq hname none (by simp)]
  | .region hbegin hbody hother hrest, some passed =>
    have hpassed := hskipping passed rfl
    rw [authoredAmong_skip, authoredAmong_skip, isRegionEnd_of_begin hname hpassed hbegin]
    simp only [Bool.false_eq_true, if_false]
    rw [skip_allBranches authoredAmong_skip passed _ hbody,
      skip_allBranches authoredAmong_skip passed _ hother, authoredAmong_skip, authoredAmong_skip]
    refine hrest.authoredAmong_eq hname _ ?_
    split
    · simp
    · exact hskipping
  | .region hbegin hbody hother hrest, none =>
    rw [authoredAmong_region hname hbegin hbody, authoredAmong_region hname hbegin hother,
      hrest.authoredAmong_eq hname none (by simp)]
end

end

end TaskNotes
