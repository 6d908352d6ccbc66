/-
# Which nodes are given a number

A carrier needs a number when it is a task, or asks to be one, and has no identifier yet
(`Node.needsNumber`); its leading identifier is the one that its text begins with, behind the box
and the one space in a heading (`Node.leadingId?`).

One step of numbering draws the next number and writes it as the leading identifier, if the carrier
needs one; otherwise it draws none and keeps the leading identifier (`NumberedAs.drawn_or_kept`).
So a run gives the numbers out in document order, without a gap (`AllNumberedAs.leadingId?_eq`).

Whether a carrier needs a number is said here without running anything, by patterns at the start of
its text, and the run is compared with it.  So what is asked of the numbering is a table with a
line for each kind of text: it starts with an identifier, with a placeholder, with a box and so on.
Where the program uses a different pattern for each of these questions, the first two sections show
that the answers fit together.

Rebuilding a tree also passes over the bodies of its regions.  They are left as they are
(`bodies_of_rebuild`), which is said in the same document order.
-/
import TaskNotes.Proofs.Carriers
import TaskNotes.Proofs.Identifier
import TaskNotes.Proofs.Corpus

namespace TaskNotes

/-! ## 1. Patterns at the start of a text -/

section

variable {project : ProjectId} {text inner rest : List Char} {state : BoxState}

theorem starts_box (text : List Char) : Pattern.box.starts text = (box? text).isSome := by
  rw [Pattern.starts, Pattern.match?, Option.isSome_map]

theorem starts_taskId (text : List Char) :
    (Pattern.taskId (some project)).starts text = (taskId? (some project) text).isSome := by
  rw [Pattern.starts, Pattern.match?, Option.isSome_map]

theorem starts_placeholder (text : List Char) :
    (Pattern.placeholder (some project)).starts text =
      (placeholder? (some project) text).isSome := by
  rw [Pattern.starts, Pattern.match?, Option.isSome_map]

theorem starts_boxAndPlaceholder (h : boxAndSpace? text = some (state, inner)) :
    (Pattern.boxAndPlaceholder (some project)).starts text =
      (placeholder? (some project) inner).isSome := by
  rw [Pattern.starts, Pattern.match?, h]
  exact Option.isSome_map

theorem starts_boxAndPlaceholder_of_none (h : boxAndSpace? text = none) :
    (Pattern.boxAndPlaceholder (some project)).starts text = false := by
  rw [Pattern.starts, Pattern.match?, h]
  rfl

/-- A text that starts with a box starts neither with an identifier nor with a placeholder. -/
theorem taskId?_eq_none_of_box? (h : box? text = some (state, rest)) :
    taskId? (some project) text = none := by
  rw [eq_marker_of_box? h]
  exact taskId?_eq_none (by decide) _

theorem placeholder?_eq_none_of_box? (h : box? text = some (state, rest)) :
    placeholder? (some project) text = none := by
  rw [eq_marker_of_box? h]
  exact placeholder?_eq_none (by decide) _

end

/-! ## 2. What needs a number -/

/-- Whether the text of a heading needs a number: it starts with a box, one space and a placeholder,
or with a placeholder, or with a box without one space and an identifier behind it. -/
def headingNeedsNumber (project : ProjectId) (text : List Char) : Bool :=
  (Pattern.boxAndPlaceholder (some project)).starts text ||
    (Pattern.placeholder (some project)).starts text ||
      (Pattern.box.starts text && !(Pattern.boxAndTaskId (some project)).starts text)

/-- Whether a list item needs a number, given its box and its leading text: with a box it does
unless the text starts with an identifier, and without one it does if the text starts with a
placeholder. -/
def itemNeedsNumber (project : ProjectId) : Option Bool → Option (List Char) → Bool
  | some _, some text => !(Pattern.taskId (some project)).starts text
  | some _, none => true
  | none, some text => (Pattern.placeholder (some project)).starts text
  | none, none => false

/-- Whether a node needs a number. -/
def Node.needsNumber (project : ProjectId) : Node → Bool
  | .heading _ cs => (firstText? cs).any fun text => headingNeedsNumber project text.toList
  | .listItem checked _ cs =>
    itemNeedsNumber project checked ((leadingText? cs).map String.toList)
  | _ => false

/-- The identifier at the start of the text of a heading, behind a box and one space if there is
one. -/
def headingId? (project : ProjectId) (text : List Char) : Option TaskId :=
  match boxAndSpace? text with
  | some (_, inner) => (taskId? (some project) inner).map (·.1)
  | none => (taskId? (some project) text).map (·.1)

/-- The identifier that a node begins with. -/
def Node.leadingId? (project : ProjectId) : Node → Option TaskId
  | .heading _ cs => (firstText? cs).bind fun text => headingId? project text.toList
  | .listItem _ _ cs =>
    (leadingText? cs).bind fun text => (taskId? (some project) text.toList).map (·.1)
  | _ => none

/-! ## 3. Texts

There is one lemma for every line of the table, for headings and for list items.  A heading has its
box in its text, a list item has it beside the text; so for a heading the box and the one space
behind it have to be read first, and a box without them is bare and in need of an identifier. -/

section

variable {project : ProjectId} {a b : Allocator} {text out : List Char}

theorem headingId?_marker (state : BoxState) (inner : List Char) :
    headingId? project (state.marker ++ ' ' :: inner) =
      (taskId? (some project) inner).map (·.1) := by
  rw [headingId?, boxAndSpace?_marker]

theorem headingId?_of_none (h : boxAndSpace? text = none) :
    headingId? project text = (taskId? (some project) text).map (·.1) := by
  rw [headingId?, h]

/-- An identifier that is handed out and put behind a box is the leading one. -/
theorem headingId?_of_nextId {state : BoxState} {rest : List Char}
    (h : (do let id ← nextId; pure (state.marker ++ ' ' :: id ++ rest) :
      Numbering (List Char)).run a = .ok (out, b))
    (hproject : a.project = project.toString)
    (hrest : ∀ c, rest.head? = some c → isDigit c = false) :
    b = a.next ∧ headingId? project out = some (project.idOf (a.last + 1)) := by
  obtain ⟨⟨id, _⟩, hid, h⟩ := numbering_bind_eq_ok_iff.mp h
  obtain ⟨rfl, rfl⟩ := Prod.mk.inj (numbering_pure_eq_ok_iff.mp h)
  refine ⟨(nextId_eq_ok hid).2, ?_⟩
  rw [List.append_assoc, List.cons_append, headingId?_marker, taskId?_of_nextId hid hproject hrest]
  rfl

/-- A number does not go on behind a space. -/
theorem isDigit_eq_false_of_space {rest : List Char} :
    ∀ c, (' ' :: rest).head? = some c → isDigit c = false := by
  intro c hc
  obtain rfl : ' ' = c := Option.some.inj hc
  decide

/-- A new number does not go on in what is left behind it. -/
theorem isDigit_eq_false_of_behindNewId {rest : List Char} :
    ∀ c, (behindNewId rest).head? = some c → isDigit c = false := by
  unfold behindNewId
  split
  · exact nofun
  · exact isDigit_eq_false_of_space

/-- With a box, the text of a heading needs a number unless an identifier follows. -/
theorem headingNeedsNumber_of_box? {state : BoxState} {rest : List Char}
    (hbox : box? text = some (state, rest)) :
    headingNeedsNumber project text = !(Pattern.boxAndTaskId (some project)).starts text := by
  rw [headingNeedsNumber, starts_box, hbox, starts_placeholder, placeholder?_eq_none_of_box? hbox]
  cases hspace : boxAndSpace? text with
  | none => simp [starts_boxAndPlaceholder_of_none hspace]
  | some found =>
    obtain ⟨_, inner⟩ := found
    rw [starts_boxAndPlaceholder hspace, starts_boxAndTaskId hspace]
    cases hid : taskId? (some project) inner with
    | none => simp
    | some found =>
      have hplaceholder : placeholder? (some project) inner = none :=
        placeholder?_eq_none_of_taskId? (by rw [hid, Option.isSome_some])
      simp [hplaceholder]

/-- Without a box, the text of a heading needs a number if it starts with a placeholder. -/
theorem headingNeedsNumber_of_box?_eq_none (hbox : box? text = none) :
    headingNeedsNumber project text = (placeholder? (some project) text).isSome := by
  have hspace : boxAndSpace? text = none := by rw [boxAndSpace?, hbox]
  rw [headingNeedsNumber, starts_boxAndPlaceholder_of_none hspace, starts_placeholder, starts_box,
    hbox]
  simp

/-- A text with a box and without an identifier behind it has no leading identifier. -/
theorem headingId?_eq_none_of_box? {state : BoxState} {rest : List Char}
    (hbox : box? text = some (state, rest))
    (hstarts : (Pattern.boxAndTaskId (some project)).starts text = false) :
    headingId? project text = none := by
  cases hspace : boxAndSpace? text with
  | none => rw [headingId?_of_none hspace, taskId?_eq_none_of_box? hbox, Option.map_none]
  | some found =>
    rw [starts_boxAndTaskId hspace, Option.isSome_eq_false_iff, Option.isNone_iff_eq_none]
      at hstarts
    rw [headingId?, hspace]
    simp only [hstarts, Option.map_none]

/-- With its box and identifier, the text of a heading needs no number. -/
theorem headingNeedsNumber_eq_false {state : BoxState} {inner : List Char}
    (hid : StartsWithId project inner) :
    headingNeedsNumber project (state.marker ++ ' ' :: inner) = false := by
  rw [StartsWithId] at hid
  rw [headingNeedsNumber_of_box? (box?_marker state _),
    starts_boxAndTaskId (boxAndSpace?_marker state inner), hid, Bool.not_true]

/-- Behind a box without an identifier a number is needed, and there is none yet. -/
theorem headingNeedsNumber_of_bare {state : BoxState} {rest : List Char}
    (hbare : ∀ inner, rest = ' ' :: inner → ¬ StartsWithId project inner) :
    headingNeedsNumber project (state.marker ++ rest) = true ∧
      headingId? project (state.marker ++ rest) = none := by
  have hbox := box?_marker state rest
  have hstarts : (Pattern.boxAndTaskId (some project)).starts (state.marker ++ rest) = false := by
    cases hspace : boxAndSpace? (state.marker ++ rest) with
    | none => exact starts_boxAndTaskId_of_none hspace
    | some found =>
      obtain ⟨_, hrest⟩ :=
        Prod.mk.inj (Option.some.inj (hbox.symm.trans (box?_of_boxAndSpace? hspace)))
      rw [starts_boxAndTaskId hspace]
      exact Bool.eq_false_iff.mpr (hbare _ hrest)
  refine ⟨?_, headingId?_eq_none_of_box? hbox hstarts⟩
  rw [headingNeedsNumber_of_box? hbox, hstarts, Bool.not_false]

/-- Behind a box and one space, what is no identifier leaves the box bare. -/
theorem headingNeedsNumber_of_not_startsWithId {state : BoxState} {inner : List Char}
    (hid : ¬ StartsWithId project inner) :
    headingNeedsNumber project (state.marker ++ ' ' :: inner) = true ∧
      headingId? project (state.marker ++ ' ' :: inner) = none := by
  refine headingNeedsNumber_of_bare fun behind hbehind => ?_
  rwa [← (List.cons.inj hbehind).2]

/-- **The text of a heading gets the next number iff it needs one**, and otherwise keeps its
identifier. -/
theorem headingId?_of_run (h : (numberHeadingText project text).run a = .ok (out, b))
    (hproject : a.project = project.toString) :
    (headingNeedsNumber project text = true ∧ b = a.next ∧ headingId? project text = none ∧
        headingId? project out = some (project.idOf (a.last + 1))) ∨
      (headingNeedsNumber project text = false ∧ b = a ∧
        headingId? project out = headingId? project text) := by
  have hrule := headingRule project text
  generalize numberHeadingText project text = x at h hrule
  cases hrule with
  | kept hid =>
    cases numbering_pure_eq_ok_iff.mp h
    exact .inr ⟨headingNeedsNumber_eq_false hid, rfl, rfl⟩
  | replacedBehindBox hid hasked =>
    obtain ⟨hneeds, hnone⟩ := headingNeedsNumber_of_not_startsWithId hid
    obtain ⟨rfl, hnew⟩ := headingId?_of_nextId h hproject (isDigit_eq_false_of_placeholder? hasked)
    exact .inl ⟨hneeds, rfl, hnone, hnew⟩
  | inserted hbare =>
    obtain ⟨hneeds, hnone⟩ := headingNeedsNumber_of_bare fun inner hinner => (hbare inner hinner).1
    obtain ⟨rfl, hnew⟩ := headingId?_of_nextId h hproject isDigit_eq_false_of_behindNewId
    exact .inl ⟨hneeds, rfl, hnone, hnew⟩
  | boxed hbox hid =>
    cases numbering_pure_eq_ok_iff.mp h
    refine .inr ⟨?_, rfl, ?_⟩
    · rw [headingNeedsNumber_of_box?_eq_none hbox, placeholder?_eq_none_of_taskId? hid,
        Option.isSome_none]
    · rw [newBox, headingId?_marker, headingId?_of_none (boxAndSpace?_eq_none_of_box? hbox)]
  | replaced hbox hid hasked =>
    obtain ⟨rfl, hnew⟩ := headingId?_of_nextId h hproject (isDigit_eq_false_of_placeholder? hasked)
    refine .inl ⟨?_, rfl, ?_, hnew⟩
    · rw [headingNeedsNumber_of_box?_eq_none hbox, hasked, Option.isSome_some]
    · rw [headingId?_of_none (boxAndSpace?_eq_none_of_box? hbox),
        Option.not_isSome_iff_eq_none.mp hid, Option.map_none]
  | other hbox hid hasked =>
    cases numbering_pure_eq_ok_iff.mp h
    refine .inr ⟨?_, rfl, rfl⟩
    rw [headingNeedsNumber_of_box?_eq_none hbox, hasked, Option.isSome_none]

/-- A list item that starts with an identifier needs no number. -/
theorem itemNeedsNumber_eq_false (hid : StartsWithId project text) (checked : Option Bool) :
    itemNeedsNumber project checked (some text) = false := by
  rw [StartsWithId] at hid
  cases checked with
  | some box => rw [itemNeedsNumber, starts_taskId, hid, Bool.not_true]
  | none =>
    rw [itemNeedsNumber, starts_placeholder, placeholder?_eq_none_of_taskId? hid,
      Option.isSome_none]

/-- A list item with a box needs a number unless it starts with an identifier. -/
theorem itemNeedsNumber_of_box (hid : ¬ StartsWithId project text) (box : Bool) :
    itemNeedsNumber project (some box) (some text) = true := by
  rw [itemNeedsNumber, starts_taskId, Bool.eq_false_iff.mpr hid, Bool.not_false]

/-- A list item that starts with a placeholder needs a number. -/
theorem itemNeedsNumber_of_placeholder? {asked rest : List Char}
    (hid : ¬ StartsWithId project text)
    (hasked : placeholder? (some project) text = some (asked, rest)) (checked : Option Bool) :
    itemNeedsNumber project checked (some text) = true := by
  cases checked with
  | some box => exact itemNeedsNumber_of_box hid box
  | none => rw [itemNeedsNumber, starts_placeholder, hasked, Option.isSome_some]

/-- **The text of a list item gets the next number iff it needs one**, and otherwise keeps its
identifier. -/
theorem itemId?_of_run {checked after : Option Bool}
    (h : (numberItemText project checked text).run a = .ok ((after, out), b))
    (hproject : a.project = project.toString) :
    (itemNeedsNumber project checked (some text) = true ∧ b = a.next ∧
        (taskId? (some project) text).map (·.1) = none ∧
        (taskId? (some project) out).map (·.1) = some (project.idOf (a.last + 1))) ∨
      (itemNeedsNumber project checked (some text) = false ∧ b = a ∧
        (taskId? (some project) out).map (·.1) = (taskId? (some project) text).map (·.1)) := by
  have hrule := itemRule project checked text
  generalize numberItemText project checked text = x at h hrule
  cases hrule with
  | boxed hid =>
    cases numbering_pure_eq_ok_iff.mp h
    exact .inr ⟨itemNeedsNumber_eq_false hid checked, rfl, rfl⟩
  | replaced hid hasked =>
    obtain ⟨⟨id, _⟩, hnext, h⟩ := numbering_bind_eq_ok_iff.mp h
    cases numbering_pure_eq_ok_iff.mp h
    refine .inl ⟨itemNeedsNumber_of_placeholder? hid hasked checked, (nextId_eq_ok hnext).2, ?_, ?_⟩
    · rw [Option.not_isSome_iff_eq_none.mp hid, Option.map_none]
    · rw [taskId?_of_nextId hnext hproject (isDigit_eq_false_of_placeholder? hasked)]
      rfl
  | inserted hid hasked =>
    obtain ⟨⟨id, _⟩, hnext, h⟩ := numbering_bind_eq_ok_iff.mp h
    cases numbering_pure_eq_ok_iff.mp h
    refine .inl ⟨itemNeedsNumber_of_box hid _, (nextId_eq_ok hnext).2, ?_, ?_⟩
    · rw [Option.not_isSome_iff_eq_none.mp hid, Option.map_none]
    · rw [taskId?_of_nextId hnext hproject isDigit_eq_false_of_space]
      rfl
  | other hid hasked =>
    cases numbering_pure_eq_ok_iff.mp h
    refine .inr ⟨?_, rfl, rfl⟩
    rw [itemNeedsNumber, starts_placeholder, hasked, Option.isSome_none]

end

/-! ## 4. One step -/

section

variable {project : ProjectId} {a b : Allocator} {c out : Node}

/-- **One step draws the next number for a carrier that needs one**, and writes it at the front; for
another carrier it draws none, and the leading identifier stays. -/
theorem NumberedAs.drawn_or_kept (h : NumberedAs project a c out b)
    (hproject : a.project = project.toString) :
    (c.needsNumber project = true ∧ b = a.next ∧ c.leadingId? project = none ∧
        out.leadingId? project = some (project.idOf (a.last + 1))) ∨
      (c.needsNumber project = false ∧ b = a ∧ out.leadingId? project = c.leadingId? project) := by
  obtain @⟨kind, after, cs, rebuilt, finish, _, _, last, hkind, hvisit, hchildren⟩ := h
  have hfirst := firstText?_of_rebuildAll hchildren
  have hleading := leadingText?_of_rebuildAll hchildren
  have hrule := taskRule project kind cs
  generalize numberTask project kind cs = x at hvisit hrule
  cases hrule with
  | other hother =>
    rw [hkind] at hother
    cases hother
  | heading htext =>
    obtain ⟨⟨value, _⟩, hvalue, hvisit⟩ := numbering_bind_eq_ok_iff.mp hvisit
    cases numbering_pure_eq_ok_iff.mp hvisit
    simp only [Node.needsNumber, Node.leadingId?, htext,
      firstText?_replaceFirstText (hfirst.trans htext), Option.any_some, Option.bind_some,
      String.toList_ofList]
    exact headingId?_of_run hvalue hproject
  | headingWithoutText htext =>
    cases numbering_pure_eq_ok_iff.mp hvisit
    refine .inr ⟨?_, rfl, ?_⟩
    · rw [Node.needsNumber, htext, Option.any_none]
    · rw [Node.leadingId?, Node.leadingId?, id, hfirst]
  | item htext =>
    obtain ⟨⟨⟨box, value⟩, _⟩, hvalue, hvisit⟩ := numbering_bind_eq_ok_iff.mp hvisit
    cases numbering_pure_eq_ok_iff.mp hvisit
    simp only [Node.needsNumber, Node.leadingId?, htext,
      leadingText?_replaceLeadingText (hleading.trans htext), Option.map_some, Option.bind_some,
      String.toList_ofList]
    exact itemId?_of_run hvalue hproject
  | itemFilled htext =>
    obtain ⟨⟨id, _⟩, hid, hvisit⟩ := numbering_bind_eq_ok_iff.mp hvisit
    cases numbering_pure_eq_ok_iff.mp hvisit
    refine .inl ⟨?_, (nextId_eq_ok hid).2, ?_, ?_⟩
    · rw [Node.needsNumber, htext]
      rfl
    · rw [Node.leadingId?, htext, Option.bind_none]
    · rw [Node.leadingId?, leadingText?_insertLeadingText, Option.bind_some,
        String.toList_ofList, taskId?_of_nextId hid hproject isDigit_eq_false_of_space]
      rfl
  | itemWithoutText htext =>
    cases numbering_pure_eq_ok_iff.mp hvisit
    refine .inr ⟨?_, rfl, ?_⟩
    · rw [Node.needsNumber, htext]
      rfl
    · rw [Node.leadingId?, Node.leadingId?, id, hleading]

theorem NumberedAs.project_eq (h : NumberedAs project a c out b)
    (hproject : a.project = project.toString) : b.project = project.toString := by
  rcases h.drawn_or_kept hproject with ⟨-, rfl, -⟩ | ⟨-, rfl, -⟩
  · exact hproject
  · exact hproject

end

/-! ## 5. The run

Along the run the last number grows by one at each carrier in need.  So the number of a carrier can
be told without the run: it is the number of carriers in need up to its place. -/

section

variable {project : ProjectId} {a b : Allocator} {cs outs : List Node}

theorem Allocator.last_next (a : Allocator) : a.next.last = a.last + 1 := rfl

/-- A run hands on an allocator of the project it began with. -/
theorem AllNumberedAs.project_eq (h : AllNumberedAs project a cs outs b)
    (hproject : a.project = project.toString) : b.project = project.toString := by
  induction h with
  | nil => exact hproject
  | cons hfirst _ ih => exact ih (hfirst.project_eq hproject)

/-- A run takes a step for each carrier, with an allocator of the project. -/
theorem AllNumberedAs.forall₂ (h : AllNumberedAs project a cs outs b)
    (hproject : a.project = project.toString) :
    List.Forall₂ (fun c out => ∃ a b, a.project = project.toString ∧ NumberedAs project a c out b)
      cs outs := by
  induction h with
  | nil => exact .nil
  | cons hfirst _ ih => exact .cons ⟨_, _, hproject, hfirst⟩ (ih (hfirst.project_eq hproject))

/-- A run draws as many numbers as there are carriers that need one. -/
theorem AllNumberedAs.last_eq (h : AllNumberedAs project a cs outs b)
    (hproject : a.project = project.toString) :
    b.last = a.last + cs.countP (Node.needsNumber project) := by
  induction h with
  | nil => rfl
  | cons hfirst _ ih =>
    rw [ih (hfirst.project_eq hproject), List.countP_cons]
    rcases hfirst.drawn_or_kept hproject with ⟨hneeds, rfl, -⟩ | ⟨hneeds, rfl, -⟩
    · rw [if_pos hneeds, Allocator.last_next]
      omega
    · rw [hneeds]
      rfl

/-- **A run gives the numbers out in document order.**  The carrier in a place that needs a number
gets the one that counts the carriers in need up to this place; any other keeps its leading
identifier. -/
theorem AllNumberedAs.leadingId?_eq (h : AllNumberedAs project a cs outs b)
    (hproject : a.project = project.toString) :
    ∀ {i : Nat} {c out : Node}, cs[i]? = some c → outs[i]? = some out →
      out.leadingId? project =
        if c.needsNumber project then
          some (project.idOf (a.last + (cs.take (i + 1)).countP (Node.needsNumber project)))
        else c.leadingId? project := by
  induction h with
  | nil =>
    intro i c out hc
    cases hc
  | @cons a between b c out cs outs hfirst hothers ih =>
    intro i d e hd he
    have hstep := hfirst.drawn_or_kept hproject
    cases i with
    | zero =>
      obtain rfl : c = d := Option.some.inj hd
      obtain rfl : out = e := Option.some.inj he
      rw [List.take_succ_cons, List.take_zero, List.countP_singleton]
      rcases hstep with ⟨hneeds, -, -, hid⟩ | ⟨hneeds, -, hid⟩
      · rw [if_pos hneeds, if_pos hneeds, hid]
      · rw [hneeds, hid]
        rfl
    | succ i =>
      rw [ih (hfirst.project_eq hproject) hd he, List.take_succ_cons (i := i + 1),
        List.countP_cons]
      rcases hstep with ⟨hneeds, rfl, -⟩ | ⟨hneeds, rfl, -⟩
      · rw [if_pos hneeds, Allocator.last_next, Nat.add_assoc, Nat.add_comm 1]
      · rw [hneeds]
        rfl

end

/-! ## 6. Bodies of regions

The bodies are listed by the same walk through siblings that lists carriers, only that it takes
what the other leaves out. -/

mutual
/-- The bodies of the regions of a tree, in document order. -/
def Node.bodies : Node → List (List Node)
  | .leaf _ => []
  | .branch _ cs => bodiesAmong none cs

/-- The bodies among siblings; `skipping` is the region whose body they begin with. -/
def bodiesAmong (skipping : Option String) : List Node → List (List Node)
  | [] => []
  | c :: cs =>
    match skipping with
    | some name => bodiesAmong (if isRegionEnd name c then none else some name) cs
    | none =>
      match regionBegin? regionNames c with
      | none => c.bodies ++ bodiesAmong none cs
      | some name => regionBody name cs :: bodiesAmong (regionPassed name cs) cs
end

section

variable {c : Node}

theorem bodiesAmong_skip (name : String) (c : Node) (cs : List Node) :
    bodiesAmong (some name) (c :: cs) =
      bodiesAmong (if isRegionEnd name c then none else some name) cs := by
  rw [bodiesAmong]

theorem bodiesAmong_of_begin {name : String} (h : regionBegin? regionNames c = some name)
    (cs : List Node) :
    bodiesAmong none (c :: cs) = regionBody name cs :: bodiesAmong (regionPassed name cs) cs := by
  rw [bodiesAmong, h]

theorem bodiesAmong_of_not_begin (h : regionBegin? regionNames c = none) (cs : List Node) :
    bodiesAmong none (c :: cs) = c.bodies ++ bodiesAmong none cs := by
  rw [bodiesAmong, h]

@[simp] theorem bodiesAmong_cons_text (value : String) (cs : List Node) :
    bodiesAmong none (.text value :: cs) = bodiesAmong none cs := by
  rw [bodiesAmong_of_not_begin (regionBegin?_text _ _), Node.bodies, List.nil_append]

theorem bodiesAmong_cons_paragraph (inner cs : List Node) :
    bodiesAmong none (.paragraph inner :: cs) = bodiesAmong none inner ++ bodiesAmong none cs := by
  rw [bodiesAmong_of_not_begin (regionBegin?_branch _ _ _), Node.bodies]

theorem bodiesAmong_cons_paragraph_congr {inner others : List Node}
    (h : bodiesAmong none inner = bodiesAmong none others) (cs : List Node) :
    bodiesAmong none (.paragraph inner :: cs) = bodiesAmong none (.paragraph others :: cs) := by
  rw [bodiesAmong_cons_paragraph, bodiesAmong_cons_paragraph, h]

end

mutual
/-- **Numbering leaves the bodies of regions as they are.** -/
theorem bodies_of_rebuild {project : ProjectId} {tree out : Node} {a b : Allocator}
    (h : (tree.rebuild .kept (numberTask project)).run a = .ok (out, b)) :
    out.bodies = tree.bodies := by
  match tree with
  | .leaf kind =>
    cases numbering_pure_eq_ok_iff.mp h
    rfl
  | .branch kind cs =>
    obtain ⟨after, finish, between, hvisit, rebuilt, _, hrebuilt, h⟩ :=
      rebuild_branch_eq_ok_iff.mp h
    cases h
    rw [Node.bodies, Node.bodies, ← bodiesAmong_of_rebuildAll hrebuilt]
    exact finish_of_numberTask hvisit bodiesAmong_cons_text bodiesAmong_cons_paragraph_congr rebuilt

/-- Numbering siblings leaves the bodies among them as they are. -/
theorem bodiesAmong_of_rebuildAll {project : ProjectId} {skipping : Option String}
    {cs outs : List Node} {a b : Allocator}
    (h : (rebuildAll .kept (numberTask project) skipping cs).run a = .ok (outs, b)) :
    bodiesAmong none outs = bodiesAmong skipping cs := by
  match cs, skipping with
  | [], _ =>
    cases numbering_pure_eq_ok_iff.mp h
    rfl
  | c :: cs, some name =>
    rw [rebuildAll_skip] at h
    rw [bodiesAmong_skip]
    exact bodiesAmong_of_rebuildAll h
  | c :: cs, none =>
    rcases rebuildAll_cons_eq_ok h with
      ⟨hbegin, first, between, others, hfirst, hothers, rfl⟩ | ⟨name, rest, hbegin, hrest, rfl⟩
    · rw [bodiesAmong_of_not_begin hbegin,
        bodiesAmong_of_not_begin (regionBegin?_of_rebuild hbegin hfirst),
        bodies_of_rebuild hfirst, bodiesAmong_of_rebuildAll hothers]
    · have hname : name ∈ regionNames := mem_of_regionBegin? hbegin
      have hbody : ∀ d ∈ regionBody name cs, isRegionEnd name d = false :=
        fun _ => isRegionEnd_eq_false_of_mem_regionBody
      rw [bodiesAmong_of_begin hbegin, bodiesAmong_of_begin hbegin, regionPassed_close hname,
        regionBody_close hname hbody, skip_close bodiesAmong_skip hname rest _ hbody,
        bodiesAmong_of_rebuildAll hrest]
end

/-! ## 7. Documents -/

theorem rebuild_of_numberTree {project : ProjectId} {tree out : Node} {a b : Allocator}
    (h : numberTree .kept a tree = .ok (out, b)) (hproject : a.project = project.toString) :
    (tree.rebuild .kept (numberTask project)).run a = .ok (out, b) := by
  obtain ⟨project', hcheck, h⟩ := bind_eq_ok_iff.mp h
  rw [hproject, checkProject_toString] at hcheck
  obtain rfl := Except.ok.inj hcheck
  exact ofNumeral_eq_ok_iff.mp h

/-- Numbering documents is one run over all their carriers. -/
theorem allNumberedAs_of_numberDocuments {project : ProjectId} :
    ∀ {sources : List (Path × Node)} {docs : List Document} {a b : Allocator},
      numberDocuments a sources = .ok (docs, b) → a.project = project.toString →
        AllNumberedAs project a ((sources.map Prod.snd).flatMap Node.carriers)
            ((docs.map Document.tree).flatMap Node.carriers) b ∧
          (docs.map Document.tree).flatMap Node.bodies =
            (sources.map Prod.snd).flatMap Node.bodies
  | [], docs, a, b, h, hproject => by
    cases h
    exact ⟨.nil a, rfl⟩
  | (path, tree) :: sources, docs, a, b, h, hproject => by
    obtain ⟨⟨out, between⟩, htree, h⟩ := bind_eq_ok_iff.mp h
    obtain ⟨⟨later, _⟩, hlater, h⟩ := bind_eq_ok_iff.mp h
    cases pure_eq_ok_iff.mp h
    have hrebuild := rebuild_of_numberTree htree hproject
    have hfirst := allNumberedAs_of_rebuild hrebuild
    obtain ⟨hothers, hbodies⟩ :=
      allNumberedAs_of_numberDocuments hlater (hfirst.project_eq hproject)
    refine ⟨hfirst.append hothers, ?_⟩
    rw [List.map_cons, List.flatMap_cons, List.map_cons, List.flatMap_cons, hbodies,
      bodies_of_rebuild hrebuild]

/-- **Numbers are given out in document order, without gaps.**  Documents are numbered with one
allocator, and their carriers correspond in order.  The carrier in need of a number that is the
`k`-th one gets the number `k` behind the last one of the allocator as its leading identifier; every
other carrier keeps its leading identifier, and the bodies of regions stay.  Afterwards the last
number has grown by the number of carriers in need. -/
theorem numberDocuments_counts {project : ProjectId} {sources : List (Path × Node)}
    {docs : List Document} {a b : Allocator} (hproject : a.project = project.toString)
    (h : numberDocuments a sources = .ok (docs, b)) :
    ((docs.map Document.tree).flatMap Node.carriers).length =
        ((sources.map Prod.snd).flatMap Node.carriers).length ∧
      (∀ (i : Nat) (c out : Node), ((sources.map Prod.snd).flatMap Node.carriers)[i]? = some c →
        ((docs.map Document.tree).flatMap Node.carriers)[i]? = some out →
        out.leadingId? project =
          if c.needsNumber project then
            some (project.idOf (a.last + (((sources.map Prod.snd).flatMap Node.carriers).take
              (i + 1)).countP (Node.needsNumber project)))
          else c.leadingId? project) ∧
      (docs.map Document.tree).flatMap Node.bodies =
        (sources.map Prod.snd).flatMap Node.bodies ∧
      b.last = a.last +
        ((sources.map Prod.snd).flatMap Node.carriers).countP (Node.needsNumber project) := by
  obtain ⟨hrun, hbodies⟩ := allNumberedAs_of_numberDocuments h hproject
  exact ⟨(hrun.forall₂ hproject).length_eq.symm, fun _ _ _ => hrun.leadingId?_eq hproject, hbodies,
    hrun.last_eq hproject⟩

/-- A heading with a number, a listed region, an item with a number and no box, and an item with a
box and no number. -/
def numberedInPart : Node :=
  .root [.heading Depth.two [.text "[ ] TODO-3 Kept"],
    .html "<!-- toc -->", .list false none false [.listItem (some true) false [.text "listed"]],
    .html "<!-- /toc -->",
    .list false none false
      [.listItem none false [.text "TODO-1 kept"], .listItem (some true) false [.text "late"]]]

/-- Two documents: four carriers are in need of a number, and the last of them comes last. -/
def twoDocuments : List (Path × Node) :=
  [(.ofString "/a.md", unnumberedTree), (.ofString "/b.md", numberedInPart)]

theorem exists_numberDocuments_twoDocuments :
    ∃ docs b, numberDocuments (.startingAt ProjectId.default.toString 3) twoDocuments =
      .ok (docs, b) := by
  have hok : (numberDocuments (.startingAt ProjectId.default.toString 3) twoDocuments).isOk =
      true := by
    decide +kernel
  cases h : numberDocuments (.startingAt ProjectId.default.toString 3) twoDocuments with
  | error e =>
    rw [h] at hok
    cases hok
  | ok r => exact ⟨r.1, r.2, rfl⟩

theorem numberDocuments_counts_of_twoDocuments :
    ∃ docs b, numberDocuments (.startingAt ProjectId.default.toString 3) twoDocuments =
        .ok (docs, b) ∧
      b.last = 7 ∧
      ∀ out, ((docs.map Document.tree).flatMap Node.carriers)[5]? = some out →
        out.leadingId? .default = some (ProjectId.default.idOf 7) := by
  obtain ⟨docs, b, h⟩ := exists_numberDocuments_twoDocuments
  obtain ⟨-, hids, -, hlast⟩ := numberDocuments_counts rfl h
  refine ⟨docs, b, h, ?_, fun out hout => ?_⟩
  · rw [hlast]
    decide +kernel
  · have hcarrier : ((twoDocuments.map Prod.snd).flatMap Node.carriers)[5]? =
        some (.listItem (some true) false [.text "late"]) := by
      decide +kernel
    rw [hids 5 _ out hcarrier hout, if_pos (by decide +kernel)]
    decide +kernel

end TaskNotes
