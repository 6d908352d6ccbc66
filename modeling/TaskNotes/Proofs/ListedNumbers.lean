/-
# How often a number is listed

Numbering writes an identifier into one text, and looks at nothing but that text to see where the
number ends.  The list of tasks reads the text of the whole heading or paragraph, in which what
follows the text comes right behind it.  So a number that ends its text is read on into the digits
of what follows (`TaskId.readOn`).

* The identifiers that are listed for a numbered tree are its leading identifiers, read on
  (`map_id_tasks_of_numbered`).
* A number that is handed out leads one node.  It is listed once if no leading identifier is read
  on; otherwise once less if it is itself read on, and once more for every other identifier that is
  read on to it (`count_tasks_of_numberTree`).

An identifier that is read on is another identifier, with more digits, and it may be one that
another node has.  So reading on does not only take a task off the list but can also list a number
twice; the number of times is a count over the carriers of the new tree, and it is exact.

What follows an identifier is a matter of the text of the whole node (`Node.lead?`): the rest of
its first text, and the texts of the nodes behind that.  If no leading identifier is followed by a
digit, then nothing is read on, and each number that was handed out is listed once.
-/
import TaskNotes.Proofs.DistinctNumbers
import TaskNotes.Proofs.ListedTasks
import Mathlib.Data.List.Nodup

namespace TaskNotes

/-! ## 1. Reading on -/

/-- An identifier with the digits that follow it. -/
def TaskId.readOn (id : TaskId) (behind : List Char) : TaskId :=
  { id with digits := id.digits ++ behind.takeWhile isDigit }

/-- Whether a text goes on with the number before it. -/
def continuesNumber (behind : List Char) : Bool := behind.head?.any isDigit

section

variable {project : ProjectId} {text rest : List Char} {id : TaskId}

theorem readOn_of_not_continuesNumber {behind : List Char} (h : continuesNumber behind = false)
    (id : TaskId) : id.readOn behind = id := by
  have hnone : behind.takeWhile isDigit = [] := by
    cases behind with
    | nil => rfl
    | cons c behind =>
      have hc : isDigit c = false := h
      rw [List.takeWhile_cons, hc]
      rfl
  rw [TaskId.readOn, hnone, List.append_nil]

/-- A run of digits goes on into what follows. -/
theorem DigitRun.append {digits : List Char} (h : DigitRun digits rest) (others : List Char) :
    DigitRun (digits ++ (rest ++ others).takeWhile isDigit)
      ((rest ++ others).dropWhile isDigit) where
  ne_nil := List.append_ne_nil_of_left_ne_nil h.ne_nil _
  isDigit_of_mem := by
    intro c hc
    rcases List.mem_append.mp hc with hc | hc
    · exact h.isDigit_of_mem c hc
    · exact List.mem_takeWhile_imp hc
  not_continued := fun _ => eq_false_of_head?_dropWhile

/-- **An identifier is read on** into what is put behind its text. -/
theorem taskId?_append (h : taskId? (some project) text = some (id, rest)) (others : List Char) :
    taskId? (some project) (text ++ others) =
      some (id.readOn (rest ++ others), (rest ++ others).dropWhile isDigit) := by
  obtain ⟨hproject, hdigits, rfl⟩ := taskId?_eq_some_iff.mp h
  refine taskId?_eq_some_iff.mpr ⟨hproject, hdigits.append others, ?_⟩
  simp only [TaskId.readOn, List.append_assoc, List.cons_append,
    List.takeWhile_append_dropWhile]

theorem map_id_taskOfText?_append (h : taskId? (some project) text = some (id, rest))
    (state : BoxState) (kind : TaskKind) (others : List Char) :
    (taskOfText? project state kind (text ++ others)).map TaskRecord.id =
      some (String.ofList (id.readOn (rest ++ others)).toList) := by
  rw [taskOfText?, taskId?_append h]
  rfl

end

/-! ## 2. What follows a leading identifier

The text of a node is put together from the texts of authored content only, so what a region holds
is not what follows an identifier. -/

/-- The identifier that the text of a heading begins with, behind a box and one space if there is
one, and what follows it. -/
def headingLead? (project : ProjectId) (text : List Char) : Option (TaskId × List Char) :=
  match boxAndSpace? text with
  | some (_, inner) => taskId? (some project) inner
  | none => taskId? (some project) text

/-- The identifier that a node begins with, and the text of the node that follows it. -/
def Node.lead? (project : ProjectId) : Node → Option (TaskId × List Char)
  | .heading _ (.text value :: cs) =>
    (headingLead? project value.toList).map fun (id, rest) =>
      (id, rest ++ (Node.plainTexts (authoredAmong none cs)).toList)
  | .listItem _ _ (.paragraph (.text value :: cs) :: _) =>
    (taskId? (some project) value.toList).map fun (id, rest) =>
      (id, rest ++ (Node.plainTexts (authoredAmong none cs)).toList)
  | .listItem _ _ (.text value :: _) => taskId? (some project) value.toList
  | _ => none

/-- Whether the leading identifier of a node is read on into what follows it. -/
def Node.runsOn (project : ProjectId) (node : Node) : Bool :=
  (node.lead? project).any fun (_, behind) => continuesNumber behind

/-- The identifier under which a node is listed. -/
def Node.listedId? (project : ProjectId) (node : Node) : Option TaskId :=
  (node.lead? project).map fun (id, behind) => id.readOn behind

section

variable {project : ProjectId} {node : Node} {id : TaskId} {behind : List Char}

theorem map_fst_headingLead? (text : List Char) :
    (headingLead? project text).map Prod.fst = headingId? project text := by
  rw [headingLead?, headingId?]
  cases boxAndSpace? text with
  | none => rfl
  | some found => rfl

/-- What leads a node is its leading identifier. -/
theorem map_fst_lead? (node : Node) :
    (node.lead? project).map Prod.fst = node.leadingId? project := by
  unfold Node.lead?
  split
  next depth value cs =>
    rw [Option.map_map, Node.leadingId?, firstText?, Option.bind_some, ← map_fst_headingLead?]
    rfl
  next checked spread value cs others =>
    rw [Option.map_map, Node.leadingId?, leadingText?, firstText?, Option.bind_some]
    rfl
  next checked spread value others => rfl
  next hheading hparagraph htext =>
    unfold Node.leadingId?
    split
    next depth cs =>
      cases hfirst : firstText? cs with
      | none => rfl
      | some value =>
        obtain ⟨others, rfl⟩ := exists_cons_of_firstText? hfirst
        exact absurd rfl (hheading depth value others)
    next checked spread cs =>
      cases hleading : leadingText? cs with
      | none => rfl
      | some value =>
        rcases exists_cons_of_leadingText? hleading with ⟨others, rfl⟩ | ⟨inner, others, rfl⟩
        · exact absurd rfl (htext checked spread value others)
        · exact absurd rfl (hparagraph checked spread value inner others)
    next => rfl

theorem listedId?_of_not_runsOn (h : node.runsOn project = false) :
    node.listedId? project = node.leadingId? project := by
  rw [← map_fst_lead?, Node.listedId?]
  rw [Node.runsOn] at h
  cases hlead : node.lead? project with
  | none => rfl
  | some found =>
    obtain ⟨id, behind⟩ := found
    rw [hlead] at h
    exact congrArg some (readOn_of_not_continuesNumber h id)

theorem project_of_lead? (h : node.lead? project = some (id, behind)) :
    id.project = project.letters := by
  have hread {text rest : List Char} (h : taskId? (some project) text = some (id, rest)) :
      id.project = project.letters := (taskId?_eq_some_iff.mp h).1
  unfold Node.lead? at h
  split at h
  next =>
    obtain ⟨⟨_, rest⟩, hlead, h⟩ := Option.map_eq_some_iff.mp h
    obtain ⟨rfl, -⟩ := Prod.mk.inj h
    rw [headingLead?] at hlead
    split at hlead
    next => exact hread hlead
    next => exact hread hlead
  next =>
    obtain ⟨⟨_, rest⟩, hlead, h⟩ := Option.map_eq_some_iff.mp h
    obtain ⟨rfl, -⟩ := Prod.mk.inj h
    exact hread hlead
  next => exact hread h
  next => cases h

/-- Only identifiers of the project are listed. -/
theorem project_of_listedId? (h : node.listedId? project = some id) :
    id.project = project.letters := by
  obtain ⟨⟨lead, behind⟩, hlead, rfl⟩ := Option.map_eq_some_iff.mp h
  have hproject : lead.project = project.letters := project_of_lead? hlead
  exact hproject

/-- What is led by nothing is not listed. -/
theorem listedId?_eq_none (h : node.leadingId? project = none) :
    node.listedId? project = none := by
  rw [← map_fst_lead?, Option.map_eq_none_iff] at h
  rw [Node.listedId?, h, Option.map_none]

end

/-! ## 3. What is listed for a numbered node

A node that needs no number begins with an identifier or is no task.  In either case the list of
tasks and numbering look at the same place. -/

section

variable {project : ProjectId} {text others : List Char} {cs : List Node}

/-- No blank is dropped in front of an identifier. -/
theorem dropWhile_isBlank_of_taskId? (h : StartsWithId project text) (others : List Char) :
    (text ++ others).dropWhile isBlank = text ++ others := by
  obtain ⟨⟨id, rest⟩, hread⟩ := Option.isSome_iff_exists.mp h
  obtain ⟨-, -, rfl⟩ := taskId?_eq_some_iff.mp hread
  obtain ⟨c, letters, hletters, hupper⟩ := exists_cons_letters project
  rw [hletters]
  exact dropWhile_isBlank_of_isUpper hupper _

/-- A heading that needs no number has the task of its leading identifier, read on. -/
theorem map_id_headingTask? (h : HeadingNumbered project text) (others : List Char) :
    (headingTask? project text others).map TaskRecord.id =
      (headingLead? project text).map fun (id, rest) =>
        String.ofList (id.readOn (rest ++ others)).toList := by
  rcases h with hstarts | ⟨hbox, hid, -⟩
  · cases hspace : boxAndSpace? text with
    | none =>
      rw [StartsWithBoxAndId, starts_boxAndTaskId_of_none hspace] at hstarts
      cases hstarts
    | some found =>
      obtain ⟨state, inner⟩ := found
      have hinner : StartsWithId project inner := (starts_boxAndTaskId hspace).symm.trans hstarts
      obtain ⟨⟨id, rest⟩, hread⟩ := Option.isSome_iff_exists.mp hinner
      rw [headingTask?_of_box (box?_of_boxAndSpace? hspace), List.cons_append,
        dropWhile_isBlank_cons_space, dropWhile_isBlank_of_taskId? hinner,
        map_id_taskOfText?_append hread, headingLead?, hspace]
      simp only [hread, Option.map_some]
  · have hspace : boxAndSpace? text = none := by rw [boxAndSpace?, hbox]
    rw [headingTask?, hbox, headingLead?, hspace]
    simp only [Option.not_isSome_iff_eq_none.mp hid, Option.map_none]

theorem map_id_task?_heading {depth : Depth} (h : BranchNumbered project (.heading depth) cs) :
    ((Node.heading depth cs).authored.task? project).map TaskRecord.id =
      ((Node.heading depth cs).listedId? project).map fun id => String.ofList id.toList := by
  cases hfirst : firstText? cs with
  | none =>
    have htask : (Node.heading depth cs).authored.task? project = none := by
      refine Option.eq_none_iff_forall_ne_some.mpr fun r hr => ?_
      obtain ⟨value, others, rfl⟩ := exists_cons_of_task?_heading hr
      cases hfirst
    rw [htask, listedId?_eq_none]
    · rfl
    · rw [Node.leadingId?, hfirst, Option.bind_none]
  | some value =>
    obtain ⟨others, rfl⟩ := exists_cons_of_firstText? hfirst
    rw [authored_branch, authoredAmong_cons_text, task?_heading_cons_text,
      map_id_headingTask? (h value rfl), Node.listedId?, Node.lead?, Option.map_map, Option.map_map]
    rfl

theorem map_id_task?_listItem {checked : Option Bool} {spread : Bool}
    (h : BranchNumbered project (.listItem checked spread) cs) :
    ((Node.listItem checked spread cs).authored.task? project).map TaskRecord.id =
      ((Node.listItem checked spread cs).listedId? project).map fun id =>
        String.ofList id.toList := by
  rw [BranchNumbered] at h
  cases checked with
  | none =>
    rw [authored_branch, listedId?_eq_none]
    · rfl
    · cases hleading : leadingText? cs with
      | none => rw [Node.leadingId?, hleading, Option.bind_none]
      | some value =>
        rw [hleading] at h
        rw [Node.leadingId?, hleading, Option.bind_some,
          Option.not_isSome_iff_eq_none.mp h.1, Option.map_none]
  | some box =>
    cases hleading : leadingText? cs with
    | none =>
      rw [hleading] at h
      cases h
    | some value =>
      rw [hleading] at h
      obtain ⟨⟨id, rest⟩, hread⟩ := Option.isSome_iff_exists.mp h
      rcases exists_cons_of_leadingText? hleading with ⟨others, rfl⟩ | ⟨inner, others, rfl⟩
      · rw [task?_listItem, authoredAmong_cons_text, itemText, ← List.append_nil value.toList,
          map_id_taskOfText?_append hread, Node.listedId?, Node.lead?, hread, List.append_nil]
        rfl
      · rw [task?_listItem, authoredAmong_cons_branch, authoredAmong_cons_text, itemText,
          Node.plainText, toList_plainTexts_cons_text, map_id_taskOfText?_append hread,
          Node.listedId?, Node.lead?, hread]
        rfl

/-- **A numbered node is listed under its leading identifier, read on.** -/
theorem map_id_task?_of_numbered {node : Node} (h : node.Numbered project) :
    (node.authored.task? project).map TaskRecord.id =
      (node.listedId? project).map fun id => String.ofList id.toList := by
  cases node with
  | leaf kind =>
    rw [authored_leaf]
    rfl
  | branch kind cs =>
    rw [Node.Numbered] at h
    cases kind with
    | heading depth => exact map_id_task?_heading h.1
    | listItem checked spread => exact map_id_task?_listItem h.1
    | _ =>
      rw [authored_branch]
      rfl

end

/-! ## 4. What is listed after a run -/

section

variable {project : ProjectId} {a b : Allocator} {cs outs : List Node}

/-- What one step makes of a carrier is numbered. -/
theorem NumberedAs.numbered {c out : Node} (h : NumberedAs project a c out b)
    (hproject : a.project = project.toString) : out.Numbered project := by
  obtain ⟨-, hvisit, hchildren⟩ := h
  obtain ⟨hkept, hbranch⟩ := branchNumbered_of_numberTask hvisit hproject
  rw [Node.Numbered]
  exact hbranch _ (firstText?_of_rebuildAll hchildren) (leadingText?_of_rebuildAll hchildren)
    (siblingsNumbered_of_rebuildAll hchildren (hkept.trans hproject)).1

/-- So is what a run makes of carriers. -/
theorem AllNumberedAs.forall_numbered (h : AllNumberedAs project a cs outs b)
    (hproject : a.project = project.toString) : ∀ out ∈ outs, out.Numbered project := by
  induction h with
  | nil => exact List.forall_mem_nil _
  | cons hfirst _ ih =>
    exact List.forall_mem_cons.mpr ⟨hfirst.numbered hproject, ih (hfirst.project_eq hproject)⟩

/-- **A numbered tree is listed under its leading identifiers, read on.** -/
theorem map_id_tasks_of_numberTree {tree out : Node} (hproject : a.project = project.toString)
    (h : numberTree .kept a tree = .ok (out, b)) :
    (out.tasks project).map TaskRecord.id =
      (out.carriers.filterMap (Node.listedId? project)).map fun id => String.ofList id.toList := by
  have hrun := allNumberedAs_of_rebuild (rebuild_of_numberTree h hproject)
  rw [tasks_eq_filterMap_carriers, List.map_filterMap, List.map_filterMap]
  refine List.filterMap_congr fun c hc => ?_
  exact map_id_task?_of_numbered (hrun.forall_numbered hproject c hc)

theorem idOf_injective (project : ProjectId) : Function.Injective project.idOf := by
  have hinverse : Function.LeftInverse TaskId.value project.idOf :=
    congrFun (value_comp_idOf project)
  exact hinverse.injective

/-- Identifiers of a project are told apart by their texts. -/
theorem toList_eq_toList_idOf_iff {id : TaskId} (h : id.project = project.letters) (n : Nat) :
    id.toList = (project.idOf n).toList ↔ id = project.idOf n := by
  obtain ⟨letters, digits⟩ := id
  obtain rfl : letters = project.letters := h
  simp [TaskId.toList, ProjectId.idOf]

/-- How often a number is listed. -/
theorem count_map_id_tasks_of_numberTree {tree out : Node} (hproject : a.project = project.toString)
    (h : numberTree .kept a tree = .ok (out, b)) (n : Nat) :
    ((out.tasks project).map TaskRecord.id).count (String.ofList (project.idOf n).toList) =
      (out.carriers.filterMap (Node.listedId? project)).count (project.idOf n) := by
  rw [map_id_tasks_of_numberTree hproject h, List.count_eq_countP, List.countP_map,
    List.count_eq_countP]
  refine List.countP_congr fun id hid => ?_
  obtain ⟨e, -, hlisted⟩ := List.mem_filterMap.mp hid
  rw [Function.comp_apply, beq_iff_eq, beq_iff_eq, String.ofList_inj]
  exact toList_eq_toList_idOf_iff (project_of_listedId? hlisted) n

end

/-! ## 5. Numbers that are handed out

A number above the seed is in no text of the old tree, so in the new one it leads the node for
which it was drawn and no other. -/

section

variable {project : ProjectId} {tree out : Node} {a b : Allocator} {n : Nat}

theorem project_of_ofTrees {trees : List Node}
    (h : Allocator.ofTrees project.toString trees = .ok a) : a.project = project.toString := by
  obtain ⟨seed, -, rfl⟩ := map_eq_ok_iff.mp h
  rfl

/-- No leading identifier is numbered above the seed. -/
theorem value_le_last_of_mem_leadingIds
    (hseed : Allocator.ofTrees project.toString [tree] = .ok a) {id : TaskId}
    (hid : id ∈ tree.leadingIds project) : id.value ≤ a.last := by
  obtain ⟨seed, hhighest, rfl⟩ := map_eq_ok_iff.mp hseed
  refine (isGreatest_of_highestNumber hhighest).2 (.inr ?_)
  refine mem_firstNumbers_of_mem_leadingNumbers ?_
  rw [List.flatMap_singleton]
  exact List.mem_map_of_mem hid

/-- A number that is handed out leads one node. -/
theorem count_leadingIds_of_numberTree
    (hseed : Allocator.ofTrees project.toString [tree] = .ok a)
    (h : numberTree .kept a tree = .ok (out, b)) (hlow : a.last < n) (hhigh : n ≤ b.last) :
    (out.leadingIds project).count (project.idOf n) = 1 := by
  have hproject := project_of_ofTrees hseed
  have hvalue : (project.idOf n).value = n := congrFun (value_comp_idOf project) n
  have hrun := allNumberedAs_of_rebuild (rebuild_of_numberTree h hproject)
  have hperm : (out.leadingIds project).Perm (tree.leadingIds project ++ _) :=
    hrun.leadingIds_perm hproject
  have hold : project.idOf n ∉ tree.leadingIds project := by
    intro hmem
    have hle := value_le_last_of_mem_leadingIds hseed hmem
    omega
  rw [hperm.count_eq, List.count_append, List.count_eq_zero_of_not_mem hold, Nat.zero_add]
  refine List.count_eq_one_of_mem ?_ (List.mem_map_of_mem ?_)
  · exact List.Nodup.map (idOf_injective project) List.nodup_range'
  · have hlast := hrun.last_eq hproject
    rw [List.mem_range'_1]
    omega

/-- An identifier that leads one node is listed for it unless it is read on there, and wherever
another one is read on to it. -/
theorem count_listedIds {cs : List Node} {id : TaskId} {d : Node}
    (h : cs.filter (fun e => e.leadingId? project == some id) = [d]) :
    (cs.filterMap (Node.listedId? project)).count id =
      (if d.runsOn project then 0 else 1) +
        cs.countP fun e => e.runsOn project && e.listedId? project == some id := by
  have hstay : cs.countP (fun e => e.listedId? project == some id && !e.runsOn project) =
      if d.runsOn project then 0 else 1 := by
    calc cs.countP (fun e => e.listedId? project == some id && !e.runsOn project)
        = cs.countP (fun e => !e.runsOn project && e.leadingId? project == some id) := by
          refine List.countP_congr fun e _ => ?_
          cases hruns : e.runsOn project with
          | true => simp
          | false => rw [listedId?_of_not_runsOn hruns, Bool.and_comm]
      _ = [d].countP (fun e => !e.runsOn project) := by rw [← List.countP_filter, h]
      _ = if d.runsOn project then 0 else 1 := by
          rw [List.countP_singleton]
          cases d.runsOn project <;> rfl
  rw [List.count_filterMap, List.countP_eq_countP_filter_add _ _ (Node.runsOn project),
    List.countP_filter, List.countP_filter, hstay, Nat.add_comm]
  simp only [Bool.and_comm]

end

/-- **How often a number that is handed out is listed.**  A tree is numbered, going on from the
numbers in it.  A number that is handed out leads one node of the new tree.  It is listed once for
this node, unless it is read on into what follows it there, and once for every other identifier that
is read on to it; so it is listed once if none is read on. -/
theorem count_tasks_of_numberTree {project : ProjectId} {tree out : Node} {a b : Allocator}
    {n : Nat} (hseed : Allocator.ofTrees project.toString [tree] = .ok a)
    (h : numberTree .kept a tree = .ok (out, b)) (hlow : a.last < n) (hhigh : n ≤ b.last) :
    ∃ d, out.carriers.filter (fun e => e.leadingId? project == some (project.idOf n)) = [d] ∧
      ((out.tasks project).map TaskRecord.id).count (String.ofList (project.idOf n).toList) =
        (if d.runsOn project then 0 else 1) + out.carriers.countP (fun e =>
          e.runsOn project && e.listedId? project == some (project.idOf n)) ∧
      ((∀ e ∈ out.carriers, e.runsOn project = false) →
        ((out.tasks project).map TaskRecord.id).count
          (String.ofList (project.idOf n).toList) = 1) := by
  have hproject := project_of_ofTrees hseed
  have hone := count_leadingIds_of_numberTree hseed h hlow hhigh
  rw [Node.leadingIds, List.count_filterMap, List.countP_eq_length_filter,
    List.length_eq_one_iff] at hone
  obtain ⟨d, hd⟩ := hone
  have hcount := (count_map_id_tasks_of_numberTree hproject h n).trans (count_listedIds hd)
  refine ⟨d, hd, hcount, fun hnone => ?_⟩
  have hmem : d ∈ out.carriers := by
    have hfilter := List.mem_singleton_self d
    rw [← hd] at hfilter
    exact (List.mem_filter.mp hfilter).1
  have hborrowed : out.carriers.countP (fun e =>
      e.runsOn project && e.listedId? project == some (project.idOf n)) = 0 := by
    refine List.countP_eq_zero.mpr fun e he => ?_
    rw [hnone e he]
    exact Bool.false_ne_true
  rw [hcount, hnone d hmem, hborrowed]
  rfl

/-- The number that is handed out for the tree with listed tasks is listed once. -/
theorem count_tasks_of_listedTree :
    ∃ a out b, Allocator.ofTrees ProjectId.default.toString [listedTree] = .ok a ∧
      numberTree .kept a listedTree = .ok (out, b) ∧ a.last < 6 ∧ 6 ≤ b.last ∧
      ((out.tasks .default).map TaskRecord.id).count "TODO-6" = 1 := by
  have hseed : Allocator.ofTrees ProjectId.default.toString [listedTree] =
      .ok (.startingAt ProjectId.default.toString 5) := by
    decide +kernel
  have h : numberTree .kept (.startingAt ProjectId.default.toString 5) listedTree =
      .ok (.root [.heading Depth.one [.text "[x] TODO-5 Plan"],
        .list false none false
          [.listItem (some false) false [.text "TODO-6 write"],
            .listItem (some false) false
              [.paragraph [.text "TODO-2 read ", .emphasis [.text "all"]]]]],
        { project := ProjectId.default.toString, seed := 5, last := 6 }) := by
    decide +kernel
  have hlow : (Allocator.startingAt ProjectId.default.toString 5).last < 6 := by decide
  obtain ⟨_, -, -, hone⟩ := count_tasks_of_numberTree hseed h hlow (Nat.le_refl 6)
  exact ⟨_, _, _, hseed, h, hlow, Nat.le_refl 6, hone (by decide +kernel)⟩

/-- A heading that asks for a number, in which code with a digit follows. -/
def codeHeading : Node :=
  .root [.heading Depth.one [.text "TODO-?", .inlineCode "5"]]

/-- The number is read on into the code, and is not listed. -/
theorem tasks_of_codeHeading :
    ∃ a out b, Allocator.ofTrees ProjectId.default.toString [codeHeading] = .ok a ∧
      numberTree .kept a codeHeading = .ok (out, b) ∧ a.last < 1 ∧ 1 ≤ b.last ∧
      out.tasks .default = [⟨"TODO-15", "", .unchecked, .heading⟩] ∧
      ((out.tasks .default).map TaskRecord.id).count "TODO-1" = 0 := by
  refine ⟨.startingAt ProjectId.default.toString 0,
    .root [.heading Depth.one [.text "[ ] TODO-1", .inlineCode "5"]],
    { project := ProjectId.default.toString, seed := 0, last := 1 }, ?_, ?_, by decide,
    by decide, ?_, ?_⟩
  · decide +kernel
  · decide +kernel
  · decide +kernel
  · decide +kernel

/-- An identifier that was there before is read on to the next number, which is listed twice. -/
example : ((Node.root [.heading Depth.one [.text "[ ] TODO-1", .inlineCode "0"],
    .heading Depth.two [.text "[ ] TODO-10"]]).tasks .default).map TaskRecord.id =
      ["TODO-10", "TODO-10"] := by
  decide +kernel

end TaskNotes
