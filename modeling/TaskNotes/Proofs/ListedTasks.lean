/-
# Which listed tasks stay

Two readers look for the identifier of a task.  The list of tasks reads the whole text of a heading
or paragraph, behind a box and any blanks; numbering reads the leading text alone, behind a box and
exactly one space.  Where the second sees no identifier it writes a new one in front of the old one,
which then counts as part of the title (`taskOfText?_append_ne`).

So a listed task stays as it is exactly when its node needs no number
(`NumberedAs.task?_eq_some_iff`), as long as its text holds no other task.  If that is so for all
listed tasks, they are listed again in their order (`tasks_sublist_of_numberTreeAlone`).

The condition is the one that numbering itself asks (`Node.needsNumber`), and it is decided by the
leading text alone.  Where a task is listed and the node still needs a number, its identifier does
not stand one space behind the box of the heading, or it stands in a text that is not the first of
the node.

That the text holds no other task is asked because the two readers go about this differently: the
list of tasks takes the text of the node as it is, with what the tasks in it show, and numbering
changes those too.
-/
import TaskNotes.Proofs.Authored
import TaskNotes.Proofs.Blank
import TaskNotes.Proofs.DrawnNumbers

namespace TaskNotes

/-! ## 1. A new identifier in front of an old one

The first identifier of a text is its task.  So behind a new one the old one is part of the title,
and the task is another one, even if the numbers should be the same: its title is longer. -/

section

variable {project : ProjectId} {a b : Allocator} {state : BoxState} {kind : TaskKind}
  {text others : List Char} {r : TaskRecord}

theorem taskOfText?_eq_some_iff :
    taskOfText? project state kind text = some r ↔
      ∃ id rest, taskId? (some project) text = some (id, rest) ∧
        ⟨String.ofList id.toList, String.ofList (trimBlanks rest), state, kind⟩ = r := by
  rw [taskOfText?, Option.map_eq_some_iff, Prod.exists]

theorem exists_cons_of_taskOfText? (h : taskOfText? project state kind text = some r) :
    ∃ c rest, text = c :: rest ∧ c.isUpper = true := by
  obtain ⟨id, rest, hid, -⟩ := taskOfText?_eq_some_iff.mp h
  obtain ⟨-, -, rfl⟩ := taskId?_eq_some_iff.mp hid
  obtain ⟨c, letters, hletters, hupper⟩ := exists_cons_letters project
  rw [hletters]
  exact ⟨c, _, rfl, hupper⟩

/-- The text of a task begins with no blank. -/
theorem dropWhile_isBlank_of_taskOfText? (h : taskOfText? project state kind text = some r) :
    text.dropWhile isBlank = text := by
  obtain ⟨c, rest, rfl, hupper⟩ := exists_cons_of_taskOfText? h
  exact dropWhile_isBlank_of_isUpper hupper rest

/-- What is the text of a task behind blanks continues no number. -/
theorem isDigit_eq_false_of_taskOfText?
    (h : taskOfText? project state kind (text.dropWhile isBlank) = some r) :
    ∀ c, text.head? = some c → isDigit c = false := by
  intro c hc
  obtain ⟨rest, rfl⟩ := List.head?_eq_some_iff.mp hc
  cases hblank : isBlank c with
  | true => exact isDigit_eq_false_of_isBlank hblank
  | false =>
    rw [List.dropWhile_cons, hblank, if_neg Bool.false_ne_true] at h
    obtain ⟨d, _, hcons, hupper⟩ := exists_cons_of_taskOfText? h
    rw [(List.cons.inj hcons).1]
    exact isDigit_eq_false_of_isUpper hupper

/-- What begins the text of a task behind blanks is no placeholder. -/
theorem placeholder?_eq_none_of_taskOfText?
    (h : taskOfText? project state kind ((text ++ others).dropWhile isBlank) = some r) :
    placeholder? (some project) text = none := by
  refine Option.eq_none_iff_forall_ne_some.mpr fun ⟨found, after⟩ hsome => ?_
  have hdrop : (text ++ others).dropWhile isBlank = text ++ others := by
    obtain ⟨_, _, htext, -⟩ := placeholder?_eq_some hsome
    obtain ⟨c, letters, hletters, hupper⟩ := exists_cons_letters project
    rw [htext, hletters]
    exact dropWhile_isBlank_of_isUpper hupper _
  obtain ⟨id, rest, hid, -⟩ := taskOfText?_eq_some_iff.mp (hdrop ▸ h)
  have hstarts : (taskId? (some project) (text ++ others)).isSome = true := by
    rw [hid, Option.isSome_some]
  rw [placeholder?_eq_none_of_taskId?_append hstarts] at hsome
  cases hsome

theorem Allocator.ne_next (a : Allocator) : a ≠ a.next := by
  intro h
  have hlast := congrArg Allocator.last h
  rw [Allocator.last_next] at hlast
  omega

/-- **A new identifier makes another task.**  The old identifier is now part of the title. -/
theorem taskOfText?_append_ne {id : List Char}
    (h : taskOfText? project state kind (others.dropWhile isBlank) = some r)
    (hid : nextId.run a = .ok (id, b)) (hproject : a.project = project.toString) :
    taskOfText? project state kind (id ++ others) ≠ some r := by
  have hothers := isDigit_eq_false_of_taskOfText? h
  obtain ⟨old, rest, hold, rfl⟩ := taskOfText?_eq_some_iff.mp h
  obtain ⟨-, -, htext⟩ := taskId?_eq_some_iff.mp hold
  intro hnew
  rw [taskOfText?, taskId?_of_nextId hid hproject hothers, Option.map_some, Option.some.injEq,
    TaskRecord.mk.injEq] at hnew
  -- the title has grown by the old identifier, and its hyphen is no blank
  have hcount := congrArg (List.countP fun c => !isBlank c) (String.ofList_inj.mp hnew.2.1)
  rw [countP_trimBlanks, countP_trimBlanks, ← countP_dropWhile, htext, List.countP_append,
    List.countP_append, List.countP_cons_of_pos (by decide)] at hcount
  omega

theorem exists_cons_of_nextId {id : List Char} (hid : nextId.run a = .ok (id, b))
    (hproject : a.project = project.toString) : ∃ c rest, id = c :: rest ∧ c.isUpper = true := by
  obtain ⟨rfl, -⟩ := nextId_eq_ok hid
  obtain ⟨c, letters, hletters, hupper⟩ := exists_cons_letters project
  rw [hproject, ProjectId.toString, String.toList_ofList, hletters]
  exact ⟨c, _, rfl, hupper⟩

end

/-! ## 2. Texts of headings

In a heading the box is part of the text, so it is read from the text by both readers. -/

/-- The task of a heading that begins with a text, given the text that follows. -/
def headingTask? (project : ProjectId) (text others : List Char) : Option TaskRecord :=
  match box? text with
  | some (state, rest) => taskOfText? project state .heading ((rest ++ others).dropWhile isBlank)
  | none => none

section

variable {project : ProjectId} {a b : Allocator} {state : BoxState}
  {text rest out others : List Char} {r : TaskRecord}

/-- Where an identifier is put in, only blanks change. -/
theorem dropWhile_isBlank_behindNewId (rest others : List Char) :
    (behindNewId rest ++ others).dropWhile isBlank = (rest ++ others).dropWhile isBlank := by
  rw [behindNewId]
  cases rest with
  | nil => rfl
  | cons c rest =>
    rw [if_neg (by simp), List.cons_append, dropWhile_isBlank_cons_space,
      dropWhile_dropWhile_append fun _ => isBlank_of_isSpaceOrTab]

/-- The text of a heading with a box and no placeholder stays, or gets an identifier behind the
box. -/
theorem numberHeadingText_of_box (hbox : box? text = some (state, rest))
    (hplaceholder : ∀ inner, rest = ' ' :: inner → placeholder? (some project) inner = none)
    (h : (numberHeadingText project text).run a = .ok (out, b)) :
    (out = text ∧ b = a) ∨
      ∃ id, nextId.run a = .ok (id, b) ∧ out = state.marker ++ ' ' :: (id ++ behindNewId rest) := by
  have hrule := headingRule project text
  generalize numberHeadingText project text = x at h hrule
  cases hrule with
  | kept _ =>
    cases numbering_pure_eq_ok_iff.mp h
    exact .inl ⟨rfl, rfl⟩
  | replacedBehindBox _ hasked =>
    rw [box?_marker] at hbox
    obtain ⟨rfl, rfl⟩ := Prod.mk.inj (Option.some.inj hbox)
    rw [hplaceholder _ rfl] at hasked
    cases hasked
  | inserted _ =>
    rw [box?_marker] at hbox
    obtain ⟨rfl, rfl⟩ := Prod.mk.inj (Option.some.inj hbox)
    obtain ⟨⟨id, _⟩, hid, h⟩ := numbering_bind_eq_ok_iff.mp h
    cases numbering_pure_eq_ok_iff.mp h
    exact .inr ⟨id, hid, List.append_assoc _ _ _⟩
  | boxed hnone _ | replaced hnone _ _ | other hnone _ _ =>
    rw [hnone] at hbox
    cases hbox

theorem headingTask?_of_box (hbox : box? text = some (state, rest)) (others : List Char) :
    headingTask? project text others =
      taskOfText? project state .heading ((rest ++ others).dropWhile isBlank) := by
  rw [headingTask?, hbox]

theorem exists_box?_of_headingTask? (h : headingTask? project text others = some r) :
    ∃ state rest, box? text = some (state, rest) ∧
      taskOfText? project state .heading ((rest ++ others).dropWhile isBlank) = some r := by
  rw [headingTask?] at h
  split at h
  next state rest hbox => exact ⟨state, rest, hbox, h⟩
  next => cases h

theorem headingTask?_marker {c : Char} (hupper : c.isUpper = true) (state : BoxState)
    (text others : List Char) :
    headingTask? project (state.marker ++ ' ' :: (c :: text)) others =
      taskOfText? project state .heading (c :: text ++ others) := by
  rw [headingTask?_of_box (box?_marker state _), List.cons_append, dropWhile_isBlank_cons_space,
    List.cons_append, dropWhile_isBlank_of_isUpper hupper]

/-- **The task of a heading stays iff its text needs no number.** -/
theorem headingTask?_eq_some_iff (h : (numberHeadingText project text).run a = .ok (out, b))
    (hproject : a.project = project.toString)
    (htask : headingTask? project text others = some r) :
    headingTask? project out others = some r ↔ headingNeedsNumber project text = false := by
  obtain ⟨state, rest, hbox, hbehind⟩ := exists_box?_of_headingTask? htask
  have hplaceholder (inner : List Char) (hrest : rest = ' ' :: inner) :
      placeholder? (some project) inner = none := by
    rw [hrest, List.cons_append, dropWhile_isBlank_cons_space] at hbehind
    exact placeholder?_eq_none_of_taskOfText? hbehind
  have hneeds := headingId?_of_run h hproject
  rcases numberHeadingText_of_box hbox hplaceholder h with ⟨rfl, rfl⟩ | ⟨id, hid, rfl⟩
  · rcases hneeds with ⟨-, hnext, -⟩ | ⟨hneeds, -⟩
    · exact absurd hnext b.ne_next
    · rw [htask, hneeds]
      simp
  · rcases hneeds with ⟨hneeds, -⟩ | ⟨-, hkept, -⟩
    · rw [hneeds]
      refine iff_of_false ?_ Bool.noConfusion
      rw [← dropWhile_isBlank_behindNewId] at hbehind
      have hne := taskOfText?_append_ne hbehind hid hproject
      obtain ⟨c, text, rfl, hupper⟩ := exists_cons_of_nextId hid hproject
      rw [List.cons_append, headingTask?_marker hupper, ← List.cons_append, List.append_assoc]
      exact hne
    · exact absurd (hkept.symm.trans (nextId_eq_ok hid).2) a.ne_next

end

/-! ## 3. Texts of list items

In a list item the box has been split off, and both readers begin at the text. -/

section

variable {project : ProjectId} {a b : Allocator} {state : BoxState} {kind : TaskKind} {box : Bool}
  {after : Option Bool} {text out others : List Char} {r : TaskRecord}

/-- An identifier and a space in front make another task. -/
theorem taskOfText?_append_space_ne {id : List Char}
    (h : taskOfText? project state kind text = some r) (hid : nextId.run a = .ok (id, b))
    (hproject : a.project = project.toString) :
    taskOfText? project state kind (id ++ ' ' :: text) ≠ some r := by
  refine taskOfText?_append_ne ?_ hid hproject
  rwa [dropWhile_isBlank_cons_space, dropWhile_isBlank_of_taskOfText? h]

/-- The text of a list item with a box and no placeholder stays, or gets an identifier in front. -/
theorem numberItemText_of_box (hplaceholder : placeholder? (some project) text = none)
    (h : (numberItemText project (some box) text).run a = .ok ((after, out), b)) :
    after = some box ∧
      ((out = text ∧ b = a) ∨ ∃ id, nextId.run a = .ok (id, b) ∧ out = id ++ ' ' :: text) := by
  have hrule := itemRule project (some box) text
  generalize numberItemText project (some box) text = x at h hrule
  cases hrule with
  | boxed _ =>
    cases numbering_pure_eq_ok_iff.mp h
    exact ⟨rfl, .inl ⟨rfl, rfl⟩⟩
  | replaced _ hasked =>
    rw [hplaceholder] at hasked
    cases hasked
  | inserted _ _ =>
    obtain ⟨⟨id, _⟩, hid, h⟩ := numbering_bind_eq_ok_iff.mp h
    cases numbering_pure_eq_ok_iff.mp h
    exact ⟨rfl, .inr ⟨id, hid, rfl⟩⟩

/-- **The task of a list item stays iff its text needs no number**; its box stays. -/
theorem itemTask?_eq_some_iff
    (h : (numberItemText project (some box) text).run a = .ok ((after, out), b))
    (hproject : a.project = project.toString)
    (htask : taskOfText? project state kind (text ++ others) = some r) :
    after = some box ∧ (taskOfText? project state kind (out ++ others) = some r ↔
      itemNeedsNumber project (some box) (some text) = false) := by
  have hplaceholder : placeholder? (some project) text = none :=
    placeholder?_eq_none_of_taskOfText? ((dropWhile_isBlank_of_taskOfText? htask).symm ▸ htask)
  have hneeds := itemId?_of_run h hproject
  obtain ⟨rfl, hout⟩ := numberItemText_of_box hplaceholder h
  refine ⟨rfl, ?_⟩
  rcases hout with ⟨rfl, rfl⟩ | ⟨id, hid, rfl⟩
  · rcases hneeds with ⟨-, hnext, -⟩ | ⟨hneeds, -⟩
    · exact absurd hnext b.ne_next
    · rw [htask, hneeds]
      simp
  · rcases hneeds with ⟨hneeds, -⟩ | ⟨-, hkept, -⟩
    · rw [hneeds, List.append_assoc]
      exact iff_of_false (taskOfText?_append_space_ne htask hid hproject) Bool.noConfusion
    · exact absurd (hkept.symm.trans (nextId_eq_ok hid).2) a.ne_next

end

/-! ## 4. Nodes

The first text of a node stays its first text, with or without regions behind it. -/

/-- The nodes that hold the text of a task. -/
def Node.taskContent : Node → List Node
  | .heading _ cs => cs
  | .listItem _ _ (.paragraph inner :: _) => inner
  | _ => []

section

variable {project : ProjectId} {a b : Allocator} {cs outs : List Node} {value : String}
  {r : TaskRecord}

/-- A leaf stays, whether it begins a region or not. -/
theorem exists_cons_leaf_authoredAmong (kind : Leaf) (cs : List Node) :
    ∃ others, authoredAmong none (.leaf kind :: cs) = .leaf kind :: others := by
  cases hbegin : regionBegin? regionNames (.leaf kind) with
  | some name => exact ⟨_, authoredAmong_of_begin hbegin cs⟩
  | none => exact ⟨_, by rw [authoredAmong_of_not_begin hbegin, authored_leaf]⟩

theorem firstText?_authoredAmong (cs : List Node) :
    firstText? (authoredAmong none cs) = firstText? cs := by
  cases cs with
  | nil => rw [authoredAmong_nil]
  | cons c cs =>
    cases c with
    | leaf kind =>
      obtain ⟨others, hothers⟩ := exists_cons_leaf_authoredAmong kind cs
      rw [hothers]
      cases kind <;> rfl
    | branch kind inner =>
      rw [authoredAmong_cons_branch]
      rfl

theorem toList_plainTexts_cons_text (value : String) (cs : List Node) :
    (Node.plainTexts (.text value :: cs)).toList =
      value.toList ++ (Node.plainTexts cs).toList := by
  rw [Node.plainTexts, String.toList_append]
  rfl

theorem task?_heading_cons_text (depth : Depth) (value : String) (cs : List Node) :
    (Node.heading depth (.text value :: cs)).task? project =
      headingTask? project value.toList (Node.plainTexts cs).toList := by
  rw [Node.task?, Node.box?, headingTask?, Node.plainText, toList_plainTexts_cons_text]
  cases hbox : box? value.toList with
  | none => simp [Node.children, firstText?, hbox]
  | some found =>
    obtain ⟨state, rest⟩ := found
    have hdrop : dropBox (value.toList ++ (Node.plainTexts cs).toList) =
        rest ++ (Node.plainTexts cs).toList := by
      rw [eq_marker_of_box? hbox, List.append_assoc, dropBox, box?_marker]
    simp [Node.children, firstText?, hbox, hdrop]

theorem exists_cons_of_task?_heading {depth : Depth}
    (h : (Node.heading depth cs).authored.task? project = some r) :
    ∃ value others, cs = .text value :: others := by
  rw [authored_branch, Node.task?, Node.box?, Node.children, firstText?_authoredAmong] at h
  cases hfirst : firstText? cs with
  | none =>
    rw [hfirst] at h
    cases h
  | some value => exact ⟨value, exists_cons_of_firstText? hfirst⟩

theorem taskOfText?_nil (state : BoxState) (kind : TaskKind) :
    taskOfText? project state kind [] = none := by
  refine Option.eq_none_iff_forall_ne_some.mpr fun r h => ?_
  obtain ⟨_, _, hcons, -⟩ := exists_cons_of_taskOfText? h
  cases hcons

/-- The text of a list item is a text or stands in a paragraph. -/
theorem exists_cons_of_itemTask? {state : BoxState} {kind : TaskKind}
    (h : taskOfText? project state kind (itemText (authoredAmong none cs)).toList = some r) :
    (∃ value others, cs = .text value :: others) ∨
      ∃ inner others, cs = .paragraph inner :: others := by
  have hnone : taskOfText? project state kind "".toList = none := taskOfText?_nil state kind
  cases cs with
  | nil =>
    rw [authoredAmong_nil] at h
    exact absurd (hnone.symm.trans h) nofun
  | cons c cs =>
    cases c with
    | branch kind inner =>
      cases kind with
      | paragraph => exact .inr ⟨inner, cs, rfl⟩
      | _ =>
        rw [authoredAmong_cons_branch] at h
        exact absurd (hnone.symm.trans h) nofun
    | leaf kind =>
      cases kind with
      | text value => exact .inl ⟨value, cs, rfl⟩
      | _ =>
        obtain ⟨others, hothers⟩ := exists_cons_leaf_authoredAmong _ cs
        rw [hothers] at h
        exact absurd (hnone.symm.trans h) nofun

theorem exists_cons_text_of_rebuildAll
    (h : (rebuildAll .kept (numberTask project) none (.text value :: cs)).run a = .ok (outs, b)) :
    ∃ others, outs = .text value :: others ∧
      (rebuildAll .kept (numberTask project) none cs).run a = .ok (others, b) := by
  rcases rebuildAll_cons_eq_ok h with
    ⟨-, first, _, others, hfirst, hothers, rfl⟩ | ⟨name, _, hbegin, -⟩
  · cases numbering_pure_eq_ok_iff.mp hfirst
    exact ⟨others, rfl, hothers⟩
  · rw [regionBegin?_text] at hbegin
    cases hbegin

theorem exists_cons_paragraph_of_rebuildAll {inner : List Node}
    (h : (rebuildAll .kept (numberTask project) none (.paragraph inner :: cs)).run a =
      .ok (outs, b)) :
    ∃ rebuilt others between, outs = .paragraph rebuilt :: others ∧
      (rebuildAll .kept (numberTask project) none inner).run a = .ok (rebuilt, between) := by
  rcases rebuildAll_cons_eq_ok h with
    ⟨-, first, between, others, hfirst, -, rfl⟩ | ⟨name, _, hbegin, -⟩
  · obtain ⟨_, _, _, hvisit, rebuilt, _, hrebuilt, hout⟩ := rebuild_branch_eq_ok_iff.mp hfirst
    obtain ⟨rfl, rfl, rfl⟩ := numberTask_of_not_isCarrier rfl hvisit
    cases hout
    exact ⟨rebuilt, others, between, rfl, hrebuilt⟩
  · rw [regionBegin?_branch] at hbegin
    cases hbegin

end

/-! ## 5. One step

What numbering does to one carrier is known from `Proofs/NumberingRules`, and is compared here with
what is listed before and after it. -/

section

variable {project : ProjectId} {a b last : Allocator} {after : Branch} {cs rebuilt : List Node}
  {finish : List Node → List Node} {r : TaskRecord}

/-- The task of a heading stays iff it needs no number. -/
theorem heading_task?_eq_some_iff {depth : Depth}
    (hvisit : (numberTask project (.heading depth) cs).run a = .ok ((after, finish), b))
    (hchildren : (rebuildAll .kept (numberTask project) none cs).run b = .ok (rebuilt, last))
    (hproject : a.project = project.toString) (hcontent : carriersAmong none cs = [])
    (h : (Node.heading depth cs).authored.task? project = some r) :
    (Node.branch after (finish rebuilt)).authored.task? project = some r ↔
      (Node.heading depth cs).needsNumber project = false := by
  obtain ⟨value, others, rfl⟩ := exists_cons_of_task?_heading h
  obtain ⟨outs, rfl, hothers⟩ := exists_cons_text_of_rebuildAll hchildren
  rw [carriersAmong_cons_text] at hcontent
  have hsame := authoredAmong_of_rebuildAll hothers hcontent
  obtain ⟨⟨out, _⟩, hout, hvisit⟩ := numbering_bind_eq_ok_iff.mp hvisit
  cases numbering_pure_eq_ok_iff.mp hvisit
  rw [authored_branch, authoredAmong_cons_text, task?_heading_cons_text] at h
  rw [replaceFirstText, authored_branch, authoredAmong_cons_text, task?_heading_cons_text, hsame,
    String.toList_ofList, headingTask?_eq_some_iff hout hproject h]
  rfl

theorem replaceLeadingText_cons_text (value : List Char) (text : String) (cs : List Node) :
    replaceLeadingText value (.text text :: cs) = .text (String.ofList value) :: cs := rfl

theorem task?_listItem (box spread : Bool) (cs : List Node) :
    (Node.listItem (some box) spread cs).authored.task? project =
      taskOfText? project (.ofChecked box) .listItem (itemText (authoredAmong none cs)).toList := by
  rw [authored_branch, Node.task?]

/-- The task of a list item that begins with a text stays iff it needs no number. -/
theorem listItem_task?_of_text {box spread : Bool} {value : String} {others : List Node}
    (hvisit : (numberTask project (.listItem (some box) spread) (.text value :: others)).run a =
      .ok ((after, finish), b))
    (hchildren : (rebuildAll .kept (numberTask project) none (.text value :: others)).run b =
      .ok (rebuilt, last))
    (hproject : a.project = project.toString)
    (h : (Node.listItem (some box) spread (.text value :: others)).authored.task? project =
      some r) :
    (Node.branch after (finish rebuilt)).authored.task? project = some r ↔
      (Node.listItem (some box) spread (.text value :: others)).needsNumber project = false := by
  obtain ⟨outs, rfl, -⟩ := exists_cons_text_of_rebuildAll hchildren
  obtain ⟨⟨⟨after, out⟩, _⟩, hout, hvisit⟩ := numbering_bind_eq_ok_iff.mp hvisit
  cases numbering_pure_eq_ok_iff.mp hvisit
  rw [task?_listItem, authoredAmong_cons_text, itemText, ← List.append_nil value.toList] at h
  obtain ⟨rfl, hiff⟩ := itemTask?_eq_some_iff hout hproject h
  rw [replaceLeadingText_cons_text, task?_listItem, authoredAmong_cons_text, itemText,
    String.toList_ofList, ← List.append_nil out, hiff]
  rfl

/-- The task of a list item that begins with a paragraph stays iff it needs no number: the paragraph
begins with a text, or an identifier is put in front of it. -/
theorem listItem_task?_of_paragraph {box spread : Bool} {inner others : List Node}
    (hvisit : (numberTask project (.listItem (some box) spread) (.paragraph inner :: others)).run
      a = .ok ((after, finish), b))
    (hchildren : (rebuildAll .kept (numberTask project) none (.paragraph inner :: others)).run b =
      .ok (rebuilt, last))
    (hproject : a.project = project.toString) (hcontent : carriersAmong none inner = [])
    (h : (Node.listItem (some box) spread (.paragraph inner :: others)).authored.task? project =
      some r) :
    (Node.branch after (finish rebuilt)).authored.task? project = some r ↔
      (Node.listItem (some box) spread (.paragraph inner :: others)).needsNumber project =
        false := by
  obtain ⟨outs, _, _, rfl, hinner⟩ := exists_cons_paragraph_of_rebuildAll hchildren
  rw [task?_listItem, authoredAmong_cons_branch, itemText, Node.plainText] at h
  cases hfirst : firstText? inner with
  | some value =>
    obtain ⟨rest, rfl⟩ := exists_cons_of_firstText? hfirst
    obtain ⟨outs, rfl, hrest⟩ := exists_cons_text_of_rebuildAll hinner
    rw [carriersAmong_cons_text] at hcontent
    have hsame := authoredAmong_of_rebuildAll hrest hcontent
    obtain ⟨⟨⟨after, out⟩, _⟩, hout, hvisit⟩ := numbering_bind_eq_ok_iff.mp hvisit
    cases numbering_pure_eq_ok_iff.mp hvisit
    rw [authoredAmong_cons_text, toList_plainTexts_cons_text] at h
    obtain ⟨rfl, hiff⟩ := itemTask?_eq_some_iff hout hproject h
    rw [replaceLeadingText, replaceFirstText, task?_listItem, authoredAmong_cons_branch,
      authoredAmong_cons_text, itemText, Node.plainText, toList_plainTexts_cons_text,
      String.toList_ofList, hsame, hiff]
    rfl
  | none =>
    have hsame := authoredAmong_of_rebuildAll hinner hcontent
    have hleading : leadingText? (.paragraph inner :: others) = none := hfirst
    have hneeds : (Node.listItem (some box) spread (.paragraph inner :: others)).needsNumber
        project = true := by
      rw [Node.needsNumber, hleading]
      rfl
    rw [numberTask, hleading] at hvisit
    obtain ⟨⟨id, _⟩, hid, hvisit⟩ := numbering_bind_eq_ok_iff.mp hvisit
    cases numbering_pure_eq_ok_iff.mp hvisit
    rw [insertLeadingText, task?_listItem, authoredAmong_cons_branch, authoredAmong_cons_text,
      itemText, Node.plainText, toList_plainTexts_cons_text, String.toList_ofList, hsame,
      List.append_assoc, hneeds]
    exact iff_of_false (taskOfText?_append_space_ne h hid hproject) Bool.noConfusion

/-- **A listed task stays iff its node needs no number**, as long as its text holds no other
task. -/
theorem NumberedAs.task?_eq_some_iff {c out : Node} (hstep : NumberedAs project a c out b)
    (hproject : a.project = project.toString) (hcontent : carriersAmong none c.taskContent = [])
    (h : c.authored.task? project = some r) :
    out.authored.task? project = some r ↔ c.needsNumber project = false := by
  obtain @⟨kind, after, cs, rebuilt, finish, _, _, last, hkind, hvisit, hchildren⟩ := hstep
  cases kind with
  | heading depth => exact heading_task?_eq_some_iff hvisit hchildren hproject hcontent h
  | listItem checked spread =>
    cases checked with
    | none =>
      rw [authored_branch] at h
      cases h
    | some box =>
      rcases exists_cons_of_itemTask? (task?_listItem box spread cs ▸ h) with
        ⟨value, others, rfl⟩ | ⟨inner, others, rfl⟩
      · exact listItem_task?_of_text hvisit hchildren hproject h
      · exact listItem_task?_of_paragraph hvisit hchildren hproject hcontent h
  | _ => cases hkind

end

/-! ## 6. The run

Carriers correspond in order, each to what the step makes of it. -/

section

variable {project : ProjectId}

theorem rebuild_of_numberTreeAlone {tree out : Node}
    (h : numberTreeAlone project.toString .kept tree = .ok out) :
    ∃ a b, a.project = project.toString ∧
      (tree.rebuild .kept (numberTask project)).run a = .ok (out, b) := by
  obtain ⟨a, hseed, h⟩ := bind_eq_ok_iff.mp h
  obtain ⟨seed, -, rfl⟩ := map_eq_ok_iff.mp hseed
  obtain ⟨⟨_, b⟩, htree, h⟩ := bind_eq_ok_iff.mp h
  obtain rfl := pure_eq_ok_iff.mp h
  exact ⟨_, b, rfl, rebuild_of_numberTree htree rfl⟩

/-- **Which listed tasks are listed again.**  A tree is numbered, going on from the numbers in it,
and its carriers correspond in order to those of the new tree.  A task whose text holds no other is
listed again for the carrier that corresponds to its own exactly when this needs no number.  If that
is so for all listed tasks, all are listed again, in their order. -/
theorem tasks_sublist_of_numberTreeAlone {tree out : Node}
    (h : numberTreeAlone project.toString .kept tree = .ok out) :
    List.Forall₂ (fun c d => ∀ r, c.authored.task? project = some r →
        carriersAmong none c.taskContent = [] →
          (d.authored.task? project = some r ↔ c.needsNumber project = false))
      tree.carriers out.carriers ∧
    ((∀ c ∈ tree.carriers, ∀ r, c.authored.task? project = some r →
        carriersAmong none c.taskContent = [] ∧ c.needsNumber project = false) →
      (tree.tasks project).Sublist (out.tasks project)) := by
  obtain ⟨a, b, hproject, hrebuild⟩ := rebuild_of_numberTreeAlone h
  have hsteps := (allNumberedAs_of_rebuild hrebuild).forall₂ hproject
  constructor
  · refine hsteps.imp ?_
    rintro c d ⟨_, _, hproject, hstep⟩ r hr hcontent
    exact hstep.task?_eq_some_iff hproject hcontent hr
  · intro hkept
    rw [tasks_eq_filterMap_carriers, tasks_eq_filterMap_carriers]
    refine filterMap_sublist_of_forall₂ hsteps ?_
    rintro c hc d ⟨_, _, hproject, hstep⟩ r hr
    obtain ⟨hcontent, hneeds⟩ := hkept c hc r hr
    exact (hstep.task?_eq_some_iff hproject hcontent hr).mpr hneeds

end

/-- A listed heading, a list item that asks for a number, and a listed item with emphasis in its
text. -/
def listedTree : Node :=
  .root [.heading Depth.one [.text "[x] TODO-5 Plan"],
    .list false none false
      [.listItem none false [.text "TODO-? write"],
        .listItem (some false) false [.paragraph [.text "TODO-2 read ", .emphasis [.text "all"]]]]]

theorem tasks_sublist_of_listedTree :
    ∃ out, numberTreeAlone ProjectId.default.toString .kept listedTree = .ok out ∧
      [⟨"TODO-5", "Plan", .checked, .heading⟩,
        ⟨"TODO-2", "read all", .unchecked, .listItem⟩].Sublist (out.tasks .default) := by
  have h : numberTreeAlone ProjectId.default.toString .kept listedTree =
      .ok (.root [.heading Depth.one [.text "[x] TODO-5 Plan"],
        .list false none false
          [.listItem (some false) false [.text "TODO-6 write"],
            .listItem (some false) false
              [.paragraph [.text "TODO-2 read ", .emphasis [.text "all"]]]]]) := by
    decide +kernel
  have htasks : listedTree.tasks .default =
      [⟨"TODO-5", "Plan", .checked, .heading⟩, ⟨"TODO-2", "read all", .unchecked, .listItem⟩] := by
    decide +kernel
  have hkept : ∀ c ∈ listedTree.carriers, (c.authored.task? .default).isSome = true →
      carriersAmong none c.taskContent = [] ∧ c.needsNumber .default = false := by
    decide +kernel
  refine ⟨_, h, ?_⟩
  rw [← htasks]
  exact (tasks_sublist_of_numberTreeAlone h).2 fun c hc r hr =>
    hkept c hc (by rw [hr, Option.isSome_some])

/-- A listed heading with two spaces behind its box. -/
def spacedTask : Node := .root [.heading Depth.one [.text "[ ]  TODO-5 foo"]]

/-- It gets a second identifier, and its task is not listed again: the first identifier is now part
of the title. -/
theorem tasks_not_sublist_of_spacedTask :
    ∃ out, numberTreeAlone ProjectId.default.toString .kept spacedTask = .ok out ∧
      spacedTask.tasks .default = [⟨"TODO-5", "foo", .unchecked, .heading⟩] ∧
      out.tasks .default = [⟨"TODO-6", "TODO-5 foo", .unchecked, .heading⟩] ∧
      ⟨"TODO-5", "foo", .unchecked, .heading⟩ ∉ out.tasks .default := by
  have hout : (Node.root [.heading Depth.one [.text "[ ] TODO-6 TODO-5 foo"]]).tasks .default =
      [⟨"TODO-6", "TODO-5 foo", .unchecked, .heading⟩] := by
    decide +kernel
  refine ⟨.root [.heading Depth.one [.text "[ ] TODO-6 TODO-5 foo"]], ?_, ?_, hout, ?_⟩
  · decide +kernel
  · decide +kernel
  · rw [hout]
    decide +kernel

end TaskNotes
