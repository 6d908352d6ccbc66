/-
# Numbering, one node after the other

Headings and list items can carry a task.  The carriers of a tree are those outside of region
bodies, in document order (`Node.carriers`).

Numbering is a run over the carriers: it makes of each of them a carrier of the new tree, in the
same order, and the allocator that one of them leaves is the one that the next begins with
(`allNumberedAs_of_rebuild`).  `NumberedAs` is one step of this run: what is decided about a carrier
before its children, and how the children have been rebuilt.  So a fact about numbering is a fact
about one step, followed by an induction over the run.

The tree is rebuilt from the outside to the inside and its texts are changed from the inside to the
outside: the decision about a heading draws its number before its children are visited, and its
first text is replaced after.  The carriers come in document order, that is, in the order of the
decisions, so the numbers along the run are the numbers in the order in which they were drawn.
What happens to texts is no step of the run, since a text is no carrier (`finish_of_numberTask`).
-/
import TaskNotes.Proofs.NumberedTree

namespace TaskNotes

/-! ## 1. Carriers -/

mutual
/-- The headings and list items of a tree outside of region bodies, in document order. -/
def Node.carriers : Node → List Node
  | .leaf _ => []
  | .branch kind cs =>
    if kind.isCarrier then .branch kind cs :: carriersAmong none cs else carriersAmong none cs

/-- The carriers of siblings; `skipping` is the region whose body they begin with. -/
def carriersAmong (skipping : Option String) : List Node → List Node
  | [] => []
  | c :: cs =>
    match skipping with
    | some name => carriersAmong (if isRegionEnd name c then none else some name) cs
    | none =>
      match regionBegin? regionNames c with
      | none => c.carriers ++ carriersAmong none cs
      | some name => carriersAmong (regionPassed name cs) cs
end

section

variable {c : Node} {cs : List Node}

theorem carriersAmong_skip (name : String) (c : Node) (cs : List Node) :
    carriersAmong (some name) (c :: cs) =
      carriersAmong (if isRegionEnd name c then none else some name) cs := by
  rw [carriersAmong]

theorem carriersAmong_of_begin {name : String} (h : regionBegin? regionNames c = some name)
    (cs : List Node) :
    carriersAmong none (c :: cs) = carriersAmong (regionPassed name cs) cs := by
  rw [carriersAmong, h]

theorem carriersAmong_of_not_begin (h : regionBegin? regionNames c = none) (cs : List Node) :
    carriersAmong none (c :: cs) = c.carriers ++ carriersAmong none cs := by
  rw [carriersAmong, h]

@[simp] theorem carriersAmong_cons_text (value : String) (cs : List Node) :
    carriersAmong none (.text value :: cs) = carriersAmong none cs := by
  rw [carriersAmong_of_not_begin (regionBegin?_text _ _), Node.carriers, List.nil_append]

theorem carriersAmong_cons_paragraph (inner cs : List Node) :
    carriersAmong none (.paragraph inner :: cs) =
      carriersAmong none inner ++ carriersAmong none cs := by
  rw [carriersAmong_of_not_begin (regionBegin?_branch _ _ _), Node.carriers]
  rfl

theorem carriersAmong_cons_paragraph_congr {inner others : List Node}
    (h : carriersAmong none inner = carriersAmong none others) (cs : List Node) :
    carriersAmong none (.paragraph inner :: cs) = carriersAmong none (.paragraph others :: cs) := by
  rw [carriersAmong_cons_paragraph, carriersAmong_cons_paragraph, h]

end

/-! ## 2. What is decided about a branch -/

section

variable {project : ProjectId} {a b : Allocator} {kind after : Branch} {cs : List Node}
  {finish : List Node → List Node}

/-- What does not look at texts, on its own and in paragraphs, does not see what numbering does to
children. -/
theorem finish_of_numberTask {β : Type} {f : List Node → β}
    (h : (numberTask project kind cs).run a = .ok ((after, finish), b))
    (htext : ∀ value cs, f (.text value :: cs) = f cs)
    (hparagraph : ∀ {inner others : List Node}, f inner = f others →
      ∀ cs, f (.paragraph inner :: cs) = f (.paragraph others :: cs)) (out : List Node) :
    f (finish out) = f out := by
  have hfirst (value : List Char) (cs : List Node) : f (replaceFirstText value cs) = f cs := by
    unfold replaceFirstText
    split
    · rw [htext, htext]
    · rfl
  have hrule := taskRule project kind cs
  generalize numberTask project kind cs = x at h hrule
  cases hrule with
  | other _ =>
    cases numbering_pure_eq_ok_iff.mp h
    rfl
  | heading _ =>
    obtain ⟨_, -, h⟩ := numbering_bind_eq_ok_iff.mp h
    cases numbering_pure_eq_ok_iff.mp h
    exact hfirst _ out
  | headingWithoutText _ =>
    cases numbering_pure_eq_ok_iff.mp h
    rfl
  | item _ =>
    obtain ⟨⟨⟨_, value⟩, _⟩, -, h⟩ := numbering_bind_eq_ok_iff.mp h
    cases numbering_pure_eq_ok_iff.mp h
    unfold replaceLeadingText
    split
    · exact hparagraph (hfirst value _) _
    · exact hfirst value _
  | itemFilled _ =>
    obtain ⟨_, -, h⟩ := numbering_bind_eq_ok_iff.mp h
    cases numbering_pure_eq_ok_iff.mp h
    unfold insertLeadingText
    split
    · exact hparagraph (htext _ _) _
    · exact htext _ _
  | itemWithoutText _ =>
    cases numbering_pure_eq_ok_iff.mp h
    rfl

/-- A branch that can carry a task still can when it has been numbered, and no other branch begins
to. -/
theorem isCarrier_of_numberTask
    (h : (numberTask project kind cs).run a = .ok ((after, finish), b)) :
    after.isCarrier = kind.isCarrier := by
  rcases kind_of_numberTask h with ⟨rfl, -⟩ | ⟨_, _, _, rfl, rfl⟩
  · rfl
  · rfl

/-- A branch that can carry no task stays, and no number is drawn for it. -/
theorem numberTask_of_not_isCarrier (hkind : kind.isCarrier = false)
    (h : (numberTask project kind cs).run a = .ok ((after, finish), b)) :
    after = kind ∧ finish = id ∧ b = a := by
  have hrule := taskRule project kind cs
  generalize numberTask project kind cs = x at h hrule
  cases hrule with
  | other _ =>
    cases numbering_pure_eq_ok_iff.mp h
    exact ⟨rfl, rfl, rfl⟩
  | _ => cases hkind

end

/-! ## 3. The run over the carriers

The children of a step are kept in it, although the run goes through the carriers among them once
more.  A fact about what becomes of a carrier needs both: what has been decided about it, and that
the texts inside of it have been rebuilt. -/

/-- One step of numbering: of a carrier another is made, and its children have been rebuilt with the
allocator that the step leaves. -/
inductive NumberedAs (project : ProjectId) : Allocator → Node → Node → Allocator → Prop
  | intro {kind after : Branch} {cs rebuilt : List Node} {finish : List Node → List Node}
      {a b last : Allocator} (hkind : kind.isCarrier = true)
      (hvisit : (numberTask project kind cs).run a = .ok ((after, finish), b))
      (hchildren : (rebuildAll .kept (numberTask project) none cs).run b = .ok (rebuilt, last)) :
      NumberedAs project a (.branch kind cs) (.branch after (finish rebuilt)) b

/-- The run of numbering over carriers: each step begins with the allocator that the one before it
leaves. -/
inductive AllNumberedAs (project : ProjectId) :
    Allocator → List Node → List Node → Allocator → Prop
  | nil (a : Allocator) : AllNumberedAs project a [] [] a
  | cons {a between b : Allocator} {c out : Node} {cs outs : List Node}
      (hfirst : NumberedAs project a c out between)
      (hothers : AllNumberedAs project between cs outs b) :
      AllNumberedAs project a (c :: cs) (out :: outs) b

section

variable {project : ProjectId} {a between b : Allocator} {cs ds outs others : List Node}

theorem AllNumberedAs.append (h : AllNumberedAs project a cs outs between)
    (h' : AllNumberedAs project between ds others b) :
    AllNumberedAs project a (cs ++ ds) (outs ++ others) b := by
  induction h with
  | nil => exact h'
  | cons hfirst _ ih => exact .cons hfirst (ih h')

end

mutual
/-- **Numbering is a run over the carriers of a tree**, and ends at those of the new one. -/
theorem allNumberedAs_of_rebuild {project : ProjectId} {tree out : Node} {a b : Allocator}
    (h : (tree.rebuild .kept (numberTask project)).run a = .ok (out, b)) :
    AllNumberedAs project a tree.carriers out.carriers b := by
  match tree with
  | .leaf kind =>
    cases numbering_pure_eq_ok_iff.mp h
    exact .nil a
  | .branch kind cs =>
    obtain ⟨after, finish, between, hvisit, rebuilt, _, hrebuilt, h⟩ :=
      rebuild_branch_eq_ok_iff.mp h
    cases h
    have hchildren := allNumberedAs_of_rebuildAll hrebuilt
    have hfinish : carriersAmong none (finish rebuilt) = carriersAmong none rebuilt :=
      finish_of_numberTask hvisit carriersAmong_cons_text carriersAmong_cons_paragraph_congr rebuilt
    have hafter := isCarrier_of_numberTask hvisit
    rw [Node.carriers, Node.carriers, hafter, hfinish]
    cases hkind : kind.isCarrier with
    | true => exact .cons (.intro hkind hvisit hrebuilt) hchildren
    | false =>
      obtain ⟨-, -, rfl⟩ := numberTask_of_not_isCarrier hkind hvisit
      exact hchildren

/-- Numbering siblings is a run over their carriers, behind the body of a region and elsewhere. -/
theorem allNumberedAs_of_rebuildAll {project : ProjectId} {skipping : Option String}
    {cs outs : List Node} {a b : Allocator}
    (h : (rebuildAll .kept (numberTask project) skipping cs).run a = .ok (outs, b)) :
    AllNumberedAs project a (carriersAmong skipping cs) (carriersAmong none outs) b := by
  match cs, skipping with
  | [], _ =>
    cases numbering_pure_eq_ok_iff.mp h
    exact .nil a
  | c :: cs, some name =>
    rw [rebuildAll_skip] at h
    rw [carriersAmong_skip]
    exact allNumberedAs_of_rebuildAll h
  | c :: cs, none =>
    rcases rebuildAll_cons_eq_ok h with
      ⟨hbegin, first, between, others, hfirst, hothers, rfl⟩ | ⟨name, rest, hbegin, hrest, rfl⟩
    · rw [carriersAmong_of_not_begin hbegin,
        carriersAmong_of_not_begin (regionBegin?_of_rebuild hbegin hfirst)]
      exact (allNumberedAs_of_rebuild hfirst).append (allNumberedAs_of_rebuildAll hothers)
    · have hname : name ∈ regionNames := mem_of_regionBegin? hbegin
      rw [carriersAmong_of_begin hbegin, carriersAmong_of_begin hbegin, regionPassed_close hname,
        skip_close carriersAmong_skip hname rest _ fun _ => isRegionEnd_eq_false_of_mem_regionBody]
      exact allNumberedAs_of_rebuildAll hrest
end

end TaskNotes
