/-
# What is authored

The authored part of a tree has its nodes outside of region bodies, with every region closed and
empty.  So the tasks of a tree are looked for in its carriers (`tasks_eq_filterMap_carriers`), and
where nothing can carry a task, numbering changes nothing that is authored
(`authored_of_rebuild`).

Both the authored part and the carriers are made by going through siblings with the region whose
body is being passed.  The lemmas of the first section are this walk, one for each kind of sibling:
a node in a body, a begin marker, and any other node.  They are the only place where the definition
of `Node.authored` is opened.

A carrier is not always a task: a heading without a box is none.  So the tasks are picked from the
carriers, and a carrier is looked at with the bodies inside of it emptied, as listing does.
-/
import TaskNotes.Proofs.Carriers
import TaskNotes.Proofs.DocumentOrder
import TaskNotes.Task.Record

namespace TaskNotes

/-! ## 1. The authored part, sibling by sibling -/

/-- The authored part of siblings; `skipping` is the region whose body they begin with. -/
def authoredAmong (skipping : Option String) (cs : List Node) : List Node :=
  Id.run (rebuildAll .emptied visitNothing skipping cs)

section

variable {c : Node}

@[simp] theorem authored_leaf (kind : Leaf) : (Node.leaf kind).authored = .leaf kind :=
  replaceRegions_leaf kind

@[simp] theorem authored_branch (kind : Branch) (cs : List Node) :
    (Node.branch kind cs).authored = .branch kind (authoredAmong none cs) :=
  replaceRegions_branch kind cs

@[simp] theorem authoredAmong_nil (skipping : Option String) : authoredAmong skipping [] = [] :=
  replaceAmong_nil skipping

theorem authoredAmong_skip (name : String) (c : Node) (cs : List Node) :
    authoredAmong (some name) (c :: cs) =
      authoredAmong (if isRegionEnd name c then none else some name) cs :=
  replaceAmong_skip name c cs

theorem authoredAmong_of_begin {name : String} (h : regionBegin? regionNames c = some name)
    (cs : List Node) :
    authoredAmong none (c :: cs) =
      c :: .html (endMarker name) :: authoredAmong (regionPassed name cs) cs :=
  replaceAmong_of_begin h cs

theorem authoredAmong_of_not_begin (h : regionBegin? regionNames c = none) (cs : List Node) :
    authoredAmong none (c :: cs) = c.authored :: authoredAmong none cs :=
  replaceAmong_of_not_begin h cs

@[simp] theorem authoredAmong_cons_text (value : String) (cs : List Node) :
    authoredAmong none (.text value :: cs) = .text value :: authoredAmong none cs := by
  rw [authoredAmong_of_not_begin (regionBegin?_text _ _), authored_leaf]

@[simp] theorem authoredAmong_cons_branch (kind : Branch) (inner cs : List Node) :
    authoredAmong none (.branch kind inner :: cs) =
      .branch kind (authoredAmong none inner) :: authoredAmong none cs := by
  rw [authoredAmong_of_not_begin (regionBegin?_branch _ _ _), authored_branch]

end

/-! ## 2. Tasks

Listing walks through the authored part in document order, and so do the carriers.  The induction
is on the tree and has a case for siblings, where the walk is in step with the carriers at every
region. -/

section

variable {project : ProjectId}

theorem task?_leaf (kind : Leaf) : (Node.leaf kind).task? project = none := rfl

theorem task?_branch_of_not_isCarrier {kind : Branch} (h : kind.isCarrier = false)
    (cs : List Node) : (Node.branch kind cs).task? project = none := by
  cases kind with
  | heading depth => cases h
  | listItem checked spread => cases h
  | _ => rfl

mutual
theorem filterMap_task?_preorder (tree : Node) :
    tree.authored.preorder.filterMap (Node.task? project) =
      tree.carriers.filterMap fun c => c.authored.task? project := by
  match tree with
  | .leaf kind =>
    rw [authored_leaf, Node.preorder, Node.carriers, List.filterMap_cons_none (task?_leaf kind)]
    rfl
  | .branch kind cs =>
    rw [authored_branch, Node.preorder, Node.carriers, List.filterMap_cons,
      filterMap_task?_preorderAll none cs]
    cases hkind : kind.isCarrier with
    | true => rw [if_pos rfl, List.filterMap_cons, authored_branch]
    | false => rw [task?_branch_of_not_isCarrier hkind, if_neg Bool.false_ne_true]

theorem filterMap_task?_preorderAll (skipping : Option String) (cs : List Node) :
    (Node.preorderAll (authoredAmong skipping cs)).filterMap (Node.task? project) =
      (carriersAmong skipping cs).filterMap fun c => c.authored.task? project := by
  match cs, skipping with
  | [], skipping =>
    rw [authoredAmong_nil]
    rfl
  | c :: cs, some name =>
    rw [authoredAmong_skip, carriersAmong_skip]
    exact filterMap_task?_preorderAll _ cs
  | c :: cs, none =>
    cases hbegin : regionBegin? regionNames c with
    | none =>
      rw [authoredAmong_of_not_begin hbegin, carriersAmong_of_not_begin hbegin,
        Node.preorderAll, List.filterMap_append, List.filterMap_append,
        filterMap_task?_preorder c, filterMap_task?_preorderAll none cs]
    | some name =>
      rw [authoredAmong_of_begin hbegin, carriersAmong_of_begin hbegin, Node.preorderAll,
        List.filterMap_append, Node.preorderAll, List.filterMap_append,
        filterMap_task?_preorderAll _ cs]
      cases c with
      | branch kind inner =>
        rw [regionBegin?_branch] at hbegin
        cases hbegin
      | leaf kind => rfl
end

/-- **The tasks of a tree are those of its carriers.** -/
theorem tasks_eq_filterMap_carriers (tree : Node) :
    tree.tasks project = tree.carriers.filterMap fun c => c.authored.task? project := by
  rw [Node.tasks, Node.walk_eq_preorder, filterMap_task?_preorder]

end

/-! ## 3. Without carriers -/

mutual
/-- **Without carriers nothing authored changes.** -/
theorem authored_of_rebuild {project : ProjectId} {tree out : Node} {a b : Allocator}
    (h : (tree.rebuild .kept (numberTask project)).run a = .ok (out, b))
    (hnone : tree.carriers = []) : out.authored = tree.authored := by
  match tree with
  | .leaf kind =>
    cases numbering_pure_eq_ok_iff.mp h
    rfl
  | .branch kind cs =>
    rw [Node.carriers] at hnone
    split at hnone
    next => cases hnone
    next hkind =>
      obtain ⟨after, finish, between, hvisit, rebuilt, _, hrebuilt, h⟩ :=
        rebuild_branch_eq_ok_iff.mp h
      cases h
      obtain ⟨rfl, rfl, rfl⟩ :=
        numberTask_of_not_isCarrier (Bool.of_not_eq_true hkind) hvisit
      rw [authored_branch, authored_branch, id, authoredAmong_of_rebuildAll hrebuilt hnone]

/-- Without carriers nothing authored changes among siblings. -/
theorem authoredAmong_of_rebuildAll {project : ProjectId} {skipping : Option String}
    {cs outs : List Node} {a b : Allocator}
    (h : (rebuildAll .kept (numberTask project) skipping cs).run a = .ok (outs, b))
    (hnone : carriersAmong skipping cs = []) :
    authoredAmong none outs = authoredAmong skipping cs := by
  match cs, skipping with
  | [], skipping =>
    cases numbering_pure_eq_ok_iff.mp h
    rw [authoredAmong_nil, authoredAmong_nil]
  | c :: cs, some name =>
    rw [rebuildAll_skip] at h
    rw [carriersAmong_skip] at hnone
    rw [authoredAmong_skip]
    exact authoredAmong_of_rebuildAll h hnone
  | c :: cs, none =>
    rcases rebuildAll_cons_eq_ok h with
      ⟨hbegin, first, between, others, hfirst, hothers, rfl⟩ | ⟨name, rest, hbegin, hrest, rfl⟩
    · rw [carriersAmong_of_not_begin hbegin, List.append_eq_nil_iff] at hnone
      rw [authoredAmong_of_not_begin hbegin,
        authoredAmong_of_not_begin (regionBegin?_of_rebuild hbegin hfirst),
        authored_of_rebuild hfirst hnone.1, authoredAmong_of_rebuildAll hothers hnone.2]
    · have hname : name ∈ regionNames := mem_of_regionBegin? hbegin
      rw [carriersAmong_of_begin hbegin] at hnone
      rw [authoredAmong_of_begin hbegin, authoredAmong_of_begin hbegin, regionPassed_close hname,
        skip_close authoredAmong_skip hname rest _ fun _ => isRegionEnd_eq_false_of_mem_regionBody,
        authoredAmong_of_rebuildAll hrest hnone]
end

end TaskNotes
