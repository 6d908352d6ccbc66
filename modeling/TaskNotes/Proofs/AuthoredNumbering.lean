/-
# Numbering what is authored

Numbering commutes with leaving out what is generated: the numbered tree, without its region
bodies, is the tree without its region bodies, numbered (`rebuild_authored`).  The two runs make the
same draws, so this is an equation of computations and covers failure as well.

So region bodies have no influence on tasks: trees in which the same is authored have the same
tasks, are numbered with the same numbers, and the same is authored in them afterwards
(`tasks_and_numbers_of_authored_eq`).

Leaving out bodies changes the children of a branch, and numbering looks at children twice: before
they are rebuilt, when it decides what becomes of the branch, and afterwards, when it changes the
leading text of what they have become.  The first look sees the same (`numberTask_authoredAmong`),
because a leading text is never inside a region body.  The second commutes with leaving out bodies
(`KeepsBodies`), because each of the three changes that numbering makes touches a text or puts one
in front.
-/
import TaskNotes.Proofs.ListedTasks

namespace TaskNotes

/-! ## 1. What is decided about a branch -/

section

variable {project : ProjectId} {cs : List Node}

theorem leadingText?_authoredAmong (cs : List Node) :
    leadingText? (authoredAmong none cs) = leadingText? cs := by
  rcases cs with - | ⟨⟨kind, inner⟩ | kind, cs⟩
  · simp
  · rw [authoredAmong_cons_branch]
    cases kind with
    | paragraph => exact firstText?_authoredAmong inner
    | _ => rfl
  · obtain ⟨others, hothers⟩ := exists_cons_leaf_authoredAmong kind cs
    rw [hothers]
    cases kind <;> rfl

/-- What is decided about a branch is decided from what is authored in it. -/
theorem numberTask_authoredAmong (kind : Branch) (cs : List Node) :
    numberTask project kind (authoredAmong none cs) = numberTask project kind cs := by
  unfold numberTask
  rw [firstText?_authoredAmong, leadingText?_authoredAmong]

/-- Whether a change of children can be made before or after region bodies are left out. -/
def KeepsBodies (finish : List Node → List Node) : Prop :=
  ∀ cs, finish (authoredAmong none cs) = authoredAmong none (finish cs)

theorem keepsBodies_id : KeepsBodies id := fun _ => rfl

theorem keepsBodies_replaceFirstText (value : List Char) :
    KeepsBodies (replaceFirstText value) := by
  intro cs
  rcases cs with - | ⟨⟨kind, inner⟩ | kind, cs⟩
  · simp [replaceFirstText]
  · simp [replaceFirstText]
  · obtain ⟨others, hothers⟩ := exists_cons_leaf_authoredAmong kind cs
    cases kind with
    | text old => simp [replaceFirstText]
    | _ => simp only [hothers, replaceFirstText]

theorem keepsBodies_replaceLeadingText (value : List Char) :
    KeepsBodies (replaceLeadingText value) := by
  intro cs
  have hfirst := keepsBodies_replaceFirstText value
  rcases cs with - | ⟨⟨kind, inner⟩ | kind, cs⟩
  · exact hfirst []
  · have hbranch := hfirst (.branch kind inner :: cs)
    rw [authoredAmong_cons_branch] at hbranch ⊢
    cases kind with
    | paragraph => simp [replaceLeadingText, hfirst inner]
    | _ => exact hbranch
  · have hleaf := hfirst (.leaf kind :: cs)
    obtain ⟨others, hothers⟩ := exists_cons_leaf_authoredAmong kind cs
    rw [hothers] at hleaf ⊢
    exact hleaf

theorem keepsBodies_insertLeadingText (value : List Char) :
    KeepsBodies (insertLeadingText value) := by
  intro cs
  rcases cs with - | ⟨⟨kind, inner⟩ | kind, cs⟩
  · simp [insertLeadingText]
  · cases kind <;> simp [insertLeadingText]
  · obtain ⟨others, hothers⟩ := exists_cons_leaf_authoredAmong kind cs
    simp [insertLeadingText, hothers]

/-- What follows the decision about a branch can rely on it that region bodies do not matter to
how its children are changed. -/
theorem numberTask_bind_congr {β : Type} {kind : Branch}
    {f g : Branch × (List Node → List Node) → Numbering β}
    (h : ∀ after finish, KeepsBodies finish → f (after, finish) = g (after, finish)) :
    numberTask project kind cs >>= f = numberTask project kind cs >>= g := by
  have hrule := taskRule project kind cs
  generalize numberTask project kind cs = x at hrule ⊢
  cases hrule with
  | other _ => simp only [pure_bind, h _ _ keepsBodies_id]
  | heading _ => simp only [bind_assoc, pure_bind, h _ _ (keepsBodies_replaceFirstText _)]
  | headingWithoutText _ => simp only [pure_bind, h _ _ keepsBodies_id]
  | item _ => simp only [bind_assoc, pure_bind, h _ _ (keepsBodies_replaceLeadingText _)]
  | itemFilled _ => simp only [bind_assoc, pure_bind, h _ _ (keepsBodies_insertLeadingText _)]
  | itemWithoutText _ => simp only [pure_bind, h _ _ keepsBodies_id]

end

/-! ## 2. Numbering commutes with leaving out region bodies

An equation of computations is proved, and not one of results.  So the induction need not ask
whether a draw succeeds, and a failure on one side is a failure on the other, with the same error.
-/

/-- What is authored in siblings that begin with a region whose body is kept. -/
theorem authoredAmong_close {name : String} {c : Node} {cs : List Node}
    (hbegin : regionBegin? regionNames c = some name) (rest : List Node) :
    authoredAmong none (c :: Regions.kept.close name (regionBody name cs) rest) =
      c :: Regions.kept.close name [] (authoredAmong none rest) := by
  have hname : name ∈ regionNames := mem_of_regionBegin? hbegin
  rw [authoredAmong_of_begin hbegin, regionPassed_close hname,
    skip_close authoredAmong_skip hname rest _ fun _ => isRegionEnd_eq_false_of_mem_regionBody]
  rfl

mutual
/-- **Numbering commutes with leaving out what is generated.** -/
theorem rebuild_authored (project : ProjectId) (tree : Node) :
    tree.authored.rebuild .kept (numberTask project) =
      Node.authored <$> tree.rebuild .kept (numberTask project) := by
  match tree with
  | .leaf kind =>
    rw [authored_leaf, Node.rebuild, map_pure, authored_leaf]
  | .branch kind cs =>
    rw [authored_branch, Node.rebuild, Node.rebuild, numberTask_authoredAmong,
      rebuildAll_authoredAmong project none cs]
    simp only [map_bind, bind_map_left, map_pure, authored_branch]
    refine numberTask_bind_congr fun after finish hfinish => ?_
    simp only [hfinish _]

/-- Numbering siblings commutes with leaving out what is generated among them. -/
theorem rebuildAll_authoredAmong (project : ProjectId) (skipping : Option String)
    (cs : List Node) :
    rebuildAll .kept (numberTask project) none (authoredAmong skipping cs) =
      authoredAmong none <$> rebuildAll .kept (numberTask project) skipping cs := by
  match cs, skipping with
  | [], skipping => simp [rebuildAll_nil]
  | c :: cs, some name =>
    rw [authoredAmong_skip, rebuildAll_skip]
    exact rebuildAll_authoredAmong project _ cs
  | c :: cs, none =>
    cases hbegin : regionBegin? regionNames c with
    | none =>
      have hothers := rebuildAll_authoredAmong project none cs
      rw [authoredAmong_of_not_begin hbegin,
        rebuildAll_of_not_begin (show regionBegin? Regions.kept.names c = none from hbegin)]
      cases c with
      | leaf kind =>
        rw [authored_leaf, rebuildAll_of_not_begin hbegin, hothers]
        simp [Node.rebuild, authoredAmong_of_not_begin hbegin]
      | branch kind inner =>
        have hfirst := rebuild_authored project (.branch kind inner)
        rw [authored_branch] at hfirst ⊢
        rw [rebuildAll_of_not_begin (regionBegin?_branch _ _ _), hfirst, hothers]
        simp [Node.rebuild]
    | some name =>
      have hname : name ∈ regionNames := mem_of_regionBegin? hbegin
      have hothers := rebuildAll_authoredAmong project (regionPassed name cs) cs
      have hclosed (rest : List Node) : .html (endMarker name) :: rest =
          Regions.kept.close name [] rest := rfl
      have hbody (rest : List Node) : regionBody name (Regions.kept.close name [] rest) = [] :=
        regionBody_append_cons (List.forall_mem_nil _) (isRegionEnd_endMarker hname)
      rw [authoredAmong_of_begin hbegin, rebuildAll_of_begin hbegin, rebuildAll_of_begin hbegin,
        hclosed, regionPassed_close hname, hbody,
        skip_close (rebuildAll_skip _ _) hname _ [] nofun, hothers]
      simp only [map_bind, bind_map_left, map_pure, authoredAmong_close hbegin]
end

/-! ## 3. Region bodies have no influence -/

theorem ofNumeral_map {α β : Type} (f : α → β) (x : Except NumeralError α) :
    ofNumeral (f <$> x) = (ofNumeral x).map f := by
  cases x <;> rfl

theorem numberTree_authored (a : Allocator) (tree : Node) :
    numberTree .kept a tree.authored =
      (numberTree .kept a tree).map fun r => (r.1.authored, r.2) := by
  unfold numberTree
  cases checkProject a.project with
  | error e => rfl
  | ok project =>
    simp only [Node.number, rebuild_authored, StateT.run_map]
    exact ofNumeral_map _ _

/-- **Region bodies do not influence tasks.**  Trees in which the same is authored have the same
tasks.  They are numbered alike: either both fail and for the same reason, or the same is authored
in the results and the same numbers have been drawn. -/
theorem tasks_and_numbers_of_authored_eq {tree other : Node}
    (h : tree.authored = other.authored) :
    (∀ project, tree.tasks project = other.tasks project) ∧
      ∀ a, (numberTree .kept a tree).map (fun r => (r.1.authored, r.2)) =
        (numberTree .kept a other).map fun r => (r.1.authored, r.2) := by
  constructor
  · intro project
    rw [Node.tasks, Node.tasks, h]
  · intro a
    rw [← numberTree_authored, ← numberTree_authored, h]

/-- A tree with tasks and markers in the bodies of its regions, the last of which is not closed. -/
def filledTree : Node :=
  .root [.html "<!-- toc -->", .html "<!-- index -->", .heading .one [.text "TODO-7 x"],
    .listItem none false [.text "TODO-? y"], .html "<!-- /toc -->",
    .heading .two [.text "[ ] Go"],
    .listItem (some true) false [.html "<!-- index -->", .text "TODO-?"]]

/-- The same without the bodies, all regions closed. -/
def clearedTree : Node :=
  .root [.html "<!-- toc -->", .html " <!-- /toc -->\n", .heading .two [.text "[ ] Go"],
    .listItem (some true) false [.html "<!-- index -->", .html "<!-- /index -->", .text "TODO-?"]]

/-- What is numbered in them does not tell them apart. -/
theorem tasks_and_numbers_of_authored_eq_filledTree :
    filledTree.authored = clearedTree.authored ∧
      (∀ project, filledTree.tasks project = clearedTree.tasks project) ∧
      (numberTree .kept (.startingAt "TODO" 4) clearedTree).map (fun r => r.2.last) = .ok 6 ∧
      (numberTree .kept (.startingAt "TODO" 4) filledTree).map (fun r => (r.1.authored, r.2)) =
        (numberTree .kept (.startingAt "TODO" 4) clearedTree).map fun r =>
          (r.1.authored, r.2) := by
  have hauthored : filledTree.authored = clearedTree.authored := by decide +kernel
  obtain ⟨htasks, hnumbers⟩ := tasks_and_numbers_of_authored_eq hauthored
  exact ⟨hauthored, htasks, by decide +kernel, hnumbers _⟩

end TaskNotes
