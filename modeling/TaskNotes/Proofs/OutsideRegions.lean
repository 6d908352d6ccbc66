/-
# Boxes and identifiers go together

`Node.outside` lists the nodes of a tree outside of region bodies, and `regionsAmong` the regions
that begin among siblings.  A tree is complete when, at whatever depth, every heading and list item
among these nodes has both its box and its identifier or asks for neither, and every region among
their children has its end marker (`Node.Complete`).

A numbered tree says this of the whole and its children.  What it says is handed down to every node
outside (`numbered_of_mem_outside`), so what numbering makes of a tree is complete
(`complete_of_numberTree`).

Completeness is stated with the patterns by which tasks are looked for, and being numbered with the
readers that numbering uses.  The two say the same of a text, so each part of completeness is read
off one case of the normal form.

The body of a region is no authored text and is not looked at.  Its markers are, as they stand
outside of it; and where a region is not closed, what stands behind its begin marker is outside
like everything else.
-/
import TaskNotes.Proofs.DrawnNumbers

namespace TaskNotes

/-! ## 1. Nodes and regions outside of bodies

A region is told by what stands behind its begin marker, and it is closed if its end marker is
there. -/

mutual
/-- The nodes of a tree outside of region bodies, in document order. -/
def Node.outside : Node → List Node
  | .leaf kind => [.leaf kind]
  | .branch kind cs => .branch kind cs :: outsideAmong none cs

/-- The nodes of siblings outside of region bodies; `skipping` is the region whose body they begin
with. -/
def outsideAmong (skipping : Option String) : List Node → List Node
  | [] => []
  | c :: cs =>
    match skipping with
    | some name =>
      if isRegionEnd name c then c :: outsideAmong none cs else outsideAmong (some name) cs
    | none =>
      match regionBegin? regionNames c with
      | none => c.outside ++ outsideAmong none cs
      | some name => c :: outsideAmong (regionPassed name cs) cs
end

/-- The regions that begin among siblings, each with what stands behind its begin marker.  A marker
inside the body of another region begins none. -/
def regionsAmong (skipping : Option String) : List Node → List (String × List Node)
  | [] => []
  | c :: cs =>
    match skipping with
    | some name => regionsAmong (if isRegionEnd name c then none else some name) cs
    | none =>
      match regionBegin? regionNames c with
      | none => regionsAmong none cs
      | some name => (name, cs) :: regionsAmong (regionPassed name cs) cs

/-! ## 2. Complete trees -/

/-- Boxes and identifiers go together everywhere outside of region bodies, and regions are
closed. -/
structure Node.Complete (project : ProjectId) (tree : Node) : Prop where
  /-- No heading starts with an identifier or a placeholder. -/
  heading_starts : ∀ {depth cs text}, .heading depth cs ∈ tree.outside →
    firstText? cs = some text → (Pattern.taskId (some project)).starts text.toList = false ∧
      (Pattern.placeholder (some project)).starts text.toList = false
  /-- A heading that starts with a box goes on with one space and an identifier. -/
  heading_box : ∀ {depth cs text}, .heading depth cs ∈ tree.outside →
    firstText? cs = some text → Pattern.box.starts text.toList = true →
      (Pattern.boxAndTaskId (some project)).starts text.toList = true
  /-- A list item with a box begins with a text that starts with an identifier. -/
  item_box : ∀ {box spread cs}, .listItem (some box) spread cs ∈ tree.outside →
    ∃ text, leadingText? cs = some text ∧
      (Pattern.taskId (some project)).starts text.toList = true
  /-- A list item without a box begins with no text that starts with an identifier or a
  placeholder. -/
  item_plain : ∀ {spread cs text}, .listItem none spread cs ∈ tree.outside →
    leadingText? cs = some text → (Pattern.taskId (some project)).starts text.toList = false ∧
      (Pattern.placeholder (some project)).starts text.toList = false
  /-- Every region has its end marker among the siblings behind its begin marker. -/
  region_closed : ∀ {kind cs name behind}, .branch kind cs ∈ tree.outside →
    (name, behind) ∈ regionsAmong none cs → ∃ e ∈ behind, isRegionEnd name e = true

/-! ## 3. What is numbered is numbered at every node

By recursion on the tree.  The siblings behind a begin marker are passed over up to the end marker,
which is there since a numbered tree has its regions closed. -/

section

variable {project : ProjectId} {name : String} {cs : List Node}

/-- The body of a region ends with its marker. -/
theorem exists_isRegionEnd_of_siblingsNumbered (h : SiblingsNumbered project (some name) cs) :
    ∃ e ∈ cs, isRegionEnd name e = true := by
  induction cs with
  | nil => cases h
  | cons c cs ih =>
    rw [SiblingsNumbered] at h
    by_cases hend : isRegionEnd name c = true
    · exact ⟨c, List.mem_cons_self, hend⟩
    · simp only [hend] at h
      obtain ⟨e, he, hend⟩ := ih h
      exact ⟨e, List.mem_cons_of_mem _ he, hend⟩

theorem regionPassed_of_siblingsNumbered (h : SiblingsNumbered project (some name) cs) :
    regionPassed name cs = some name := by
  rw [regionPassed, if_pos (List.any_eq_true.mpr (exists_isRegionEnd_of_siblingsNumbered h))]

end

mutual
/-- **What is numbered is numbered at every node outside of regions.** -/
theorem numbered_of_mem_outside {project : ProjectId} {tree d : Node}
    (h : tree.Numbered project) (hd : d ∈ tree.outside) : d.Numbered project := by
  match tree with
  | .leaf kind =>
    rw [Node.outside, List.mem_singleton] at hd
    rw [hd]
    exact h
  | .branch kind cs =>
    rw [Node.outside] at hd
    rcases List.mem_cons.mp hd with rfl | hd
    · exact h
    · rw [Node.Numbered] at h
      exact numbered_of_mem_outsideAmong h.2 hd

/-- Among numbered siblings, every node outside of regions is numbered. -/
theorem numbered_of_mem_outsideAmong {project : ProjectId} {skipping : Option String}
    {cs : List Node} {d : Node} (h : SiblingsNumbered project skipping cs)
    (hd : d ∈ outsideAmong skipping cs) : d.Numbered project := by
  match cs, skipping with
  | [], _ => cases hd
  | c :: cs, some name =>
    rw [SiblingsNumbered] at h
    rw [outsideAmong] at hd
    by_cases hend : isRegionEnd name c = true
    · simp only [hend, if_true] at h hd
      rcases List.mem_cons.mp hd with rfl | hd
      · rw [h.1, Node.Numbered]
        trivial
      · exact numbered_of_mem_outsideAmong h.2 hd
    · simp only [hend] at h hd
      exact numbered_of_mem_outsideAmong h hd
  | c :: cs, none =>
    rw [SiblingsNumbered] at h
    rw [outsideAmong] at hd
    cases hbegin : regionBegin? regionNames c with
    | none =>
      simp only [hbegin] at h hd
      rcases List.mem_append.mp hd with hd | hd
      · exact numbered_of_mem_outside h.1 hd
      · exact numbered_of_mem_outsideAmong h.2 hd
    | some name =>
      simp only [hbegin] at h hd
      rw [regionPassed_of_siblingsNumbered h] at hd
      rcases List.mem_cons.mp hd with rfl | hd
      · -- a begin marker is raw HTML, and no branch
        cases d with
        | branch kind inner =>
          rw [regionBegin?_branch] at hbegin
          cases hbegin
        | leaf kind =>
          rw [Node.Numbered]
          trivial
      · exact numbered_of_mem_outsideAmong h hd
end

/-- Among numbered siblings every region is closed, behind the body of a region and elsewhere. -/
theorem exists_isRegionEnd_of_mem_regionsAmong {project : ProjectId} {name : String}
    {behind : List Node} :
    ∀ {skipping : Option String} {cs : List Node}, SiblingsNumbered project skipping cs →
      (name, behind) ∈ regionsAmong skipping cs → ∃ e ∈ behind, isRegionEnd name e = true
  | _, [], _, hmem => by cases hmem
  | some passed, c :: cs, h, hmem => by
    rw [SiblingsNumbered] at h
    rw [regionsAmong] at hmem
    by_cases hend : isRegionEnd passed c = true
    · simp only [hend, if_true] at h hmem
      exact exists_isRegionEnd_of_mem_regionsAmong h.2 hmem
    · simp only [hend] at h hmem
      exact exists_isRegionEnd_of_mem_regionsAmong h hmem
  | none, c :: cs, h, hmem => by
    rw [SiblingsNumbered] at h
    rw [regionsAmong] at hmem
    cases hbegin : regionBegin? regionNames c with
    | none =>
      simp only [hbegin] at h hmem
      exact exists_isRegionEnd_of_mem_regionsAmong h.2 hmem
    | some passed =>
      simp only [hbegin] at h hmem
      rw [regionPassed_of_siblingsNumbered h] at hmem
      rcases List.mem_cons.mp hmem with heq | hmem
      · obtain ⟨rfl, rfl⟩ := Prod.mk.inj heq
        exact exists_isRegionEnd_of_siblingsNumbered h
      · exact exists_isRegionEnd_of_mem_regionsAmong h hmem

/-! ## 4. One node

What the text of one node says in terms of patterns. -/

section

variable {project : ProjectId} {text : List Char}

/-- The text of a numbered heading starts with neither an identifier nor a placeholder. -/
theorem starts_eq_false_of_headingNumbered (h : HeadingNumbered project text) :
    (Pattern.taskId (some project)).starts text = false ∧
      (Pattern.placeholder (some project)).starts text = false := by
  rw [starts_taskId, starts_placeholder]
  rcases h with hstarts | ⟨-, hid, hplaceholder⟩
  · cases hbox : box? text with
    | none =>
      have hspace : boxAndSpace? text = none := by rw [boxAndSpace?, hbox]
      rw [StartsWithBoxAndId, starts_boxAndTaskId_of_none hspace] at hstarts
      cases hstarts
    | some found =>
      rw [taskId?_eq_none_of_box? hbox, placeholder?_eq_none_of_box? hbox]
      exact ⟨rfl, rfl⟩
  · rw [hplaceholder]
    exact ⟨Bool.eq_false_iff.mpr hid, rfl⟩

theorem starts_boxAndTaskId_of_headingNumbered (h : HeadingNumbered project text)
    (hbox : Pattern.box.starts text = true) :
    (Pattern.boxAndTaskId (some project)).starts text = true := by
  rcases h with hstarts | ⟨hnone, -, -⟩
  · exact hstarts
  · rw [starts_box, hnone] at hbox
    cases hbox

end

/-- **A numbered tree is complete.** -/
theorem complete_of_numbered {project : ProjectId} {tree : Node} (h : tree.Numbered project) :
    tree.Complete project where
  heading_starts := by
    intro depth cs text hmem htext
    have hnode := numbered_of_mem_outside h hmem
    rw [Node.Numbered] at hnode
    exact starts_eq_false_of_headingNumbered (hnode.1 text htext)
  heading_box := by
    intro depth cs text hmem htext
    have hnode := numbered_of_mem_outside h hmem
    rw [Node.Numbered] at hnode
    exact starts_boxAndTaskId_of_headingNumbered (hnode.1 text htext)
  item_box := by
    intro box spread cs hmem
    have hnode := numbered_of_mem_outside h hmem
    rw [Node.Numbered, BranchNumbered] at hnode
    cases htext : leadingText? cs with
    | none =>
      rw [htext] at hnode
      cases hnode.1
    | some text =>
      rw [htext] at hnode
      exact ⟨text, rfl, (starts_taskId _).trans hnode.1⟩
  item_plain := by
    intro spread cs text hmem htext
    have hnode := numbered_of_mem_outside h hmem
    rw [Node.Numbered, BranchNumbered, htext] at hnode
    obtain ⟨⟨hid, hplaceholder⟩, -⟩ := hnode
    rw [starts_taskId, starts_placeholder, hplaceholder]
    exact ⟨Bool.eq_false_iff.mpr hid, rfl⟩
  region_closed := by
    intro kind cs name behind hmem hregion
    have hnode := numbered_of_mem_outside h hmem
    rw [Node.Numbered] at hnode
    exact exists_isRegionEnd_of_mem_regionsAmong hnode.2 hregion

/-- **Numbering makes trees complete.**  In what numbering makes of a tree, with whatever allocator
of the project, every heading and list item outside of region bodies has both a box and an
identifier or starts with neither, and every region is closed. -/
theorem complete_of_numberTree {project : ProjectId} {tree out : Node} {a b : Allocator}
    (hproject : a.project = project.toString) (h : numberTree .kept a tree = .ok (out, b)) :
    out.Complete project :=
  complete_of_numbered (numbered_of_rebuild (rebuild_of_numberTree h hproject) hproject).1

theorem complete_of_numberTree_unnumberedTree :
    "TODO" = ProjectId.default.toString ∧
      numberTree .kept (.startingAt "TODO" 6) unnumberedTree =
        .ok (renumberedTree, renumberingAllocator) ∧
      renumberedTree.Complete .default := by
  have hproject : "TODO" = ProjectId.default.toString := rfl
  exact ⟨hproject, numberTree_unnumberedTree,
    complete_of_numberTree hproject numberTree_unnumberedTree⟩

end TaskNotes
