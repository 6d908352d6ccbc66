/-
# What is left of the commands about a path

`mergeCommands` leaves one command for each path.  It is read here path by path:

* the paths of the result are those of the commands, each once (`map_path_mergeCommands`);
* a delete is left exactly where nothing is written (`delete_mem_mergeCommands_iff`);
* where something is written there is one write, and its content is made of the contents of all
  writes of the path, sorted, each once, line after line (`exists_write_mem_mergeCommands`).

The last form covers the write that is kept as it is: a single content is joined to itself.

Commands are put in groups by path, and the groups stand in the order in which the paths come
first.  A group leaves exactly one command about its own path (`exists_mergeGroup_eq_singleton`),
so what is left can be read off group by group.

Where several documents want to go to one path, none of their contents is lost, and which documents
they come from plays no part: contents that are the same are written once, and their order is that
of the texts.  A write that is alone keeps its tree and its content as they are.
-/
import TaskNotes.Plan.Merge
import TaskNotes.Proofs.Lists

namespace TaskNotes

/-! ## 1. Sorted texts

Sorting takes away what is there twice. -/

/-- Texts in order are the texts they were made of. -/
theorem mem_sortUnique {text : List Char} {texts : List (List Char)} :
    text ∈ sortUnique texts ↔ text ∈ texts := by
  rw [sortUnique, List.mem_eraseDups, (List.mergeSort_perm texts _).mem_iff]

theorem sortUnique_singleton (text : List Char) : sortUnique [text] = [text] := by
  rw [sortUnique, List.mergeSort_singleton, List.eraseDups_cons]
  rfl

/-! ## 2. The writes of a path

Taking the writes of commands and taking the commands of a path can be done in either order. -/

theorem mem_writesOf {w : Write} {commands : List Command} :
    w ∈ writesOf commands ↔ .write w ∈ commands := by
  rw [writesOf, List.mem_filterMap]
  constructor
  · rintro ⟨c, hc, h⟩
    cases c with
    | write v => cases h; exact hc
    | delete p => cases h
  · intro h
    exact ⟨_, h, rfl⟩

theorem writesOf_append (commands others : List Command) :
    writesOf (commands ++ others) = writesOf commands ++ writesOf others :=
  List.filterMap_append

theorem writesOf_map_write {α : Type} (f : α → Write) (as : List α) :
    writesOf (as.map fun a => .write (f a)) = as.map f := by
  rw [writesOf, List.filterMap_map, ← List.filterMap_eq_map]
  rfl

theorem map_path_writesOf_sublist (commands : List Command) :
    ((writesOf commands).map Write.path).Sublist (commands.map Command.path) := by
  induction commands with
  | nil => exact .slnil
  | cons c commands ih =>
    cases c with
    | write w => exact ih.cons_cons _
    | delete p => exact ih.cons _

/-- The commands about a path. -/
def commandsAt (path : Path) (commands : List Command) : List Command :=
  commands.filter (fun c => c.path == path)

theorem mem_commandsAt {c : Command} {path : Path} {commands : List Command} :
    c ∈ commandsAt path commands ↔ c ∈ commands ∧ c.path = path := by
  simp [commandsAt]

theorem writesOf_commandsAt (path : Path) (commands : List Command) :
    writesOf (commandsAt path commands) = (writesOf commands).filter (fun w => w.path == path) := by
  rw [writesOf, writesOf, commandsAt, List.filterMap_filter, List.filter_filterMap]
  congr 1
  funext c
  cases c with
  | write w => rfl
  | delete p => simp [Command.write?]

theorem writesOf_commandsAt_eq_nil_iff {path : Path} {commands : List Command} :
    writesOf (commandsAt path commands) = [] ↔ ∀ w ∈ writesOf commands, w.path ≠ path := by
  simp [writesOf_commandsAt, List.filter_eq_nil_iff]

/-- The contents that are written at a path. -/
def contentsAt (path : Path) (commands : List Command) : List (List Char) :=
  ((writesOf commands).filter (fun w => w.path == path)).map (·.content.toList)

/-! ## 3. One group

A group is what `commandsAt` gives for one of the paths, and it is never empty.  Where something is
written it leaves one write, and otherwise its first command, which is a delete. -/

/-- Where nothing is written, the first delete is left. -/
theorem mergeGroup_of_writesOf_eq_nil {path : Path} {first : Command} {others : List Command}
    (h : writesOf (first :: others) = []) : mergeGroup path (first :: others) = [first] := by
  cases others with
  | nil => rfl
  | cons next others => simp only [mergeGroup, h]

/-- Where something is written, one write is left, with all contents. -/
theorem mergeGroup_of_mem_writesOf {path : Path} {group : List Command} {w : Write}
    (hpath : ∀ c ∈ group, c.path = path) (hw : w ∈ writesOf group) :
    ∃ v, mergeGroup path group = [.write v] ∧ v.path = path ∧
      v.content.toList = joinLines (sortUnique ((writesOf group).map (·.content.toList))) := by
  match group with
  | [] => cases hw
  | [.delete p] => cases hw
  | [.write v] =>
    refine ⟨v, rfl, hpath _ List.mem_cons_self, ?_⟩
    exact (congrArg joinLines (sortUnique_singleton _)).symm
  | c :: next :: others =>
    cases hwrites : writesOf (c :: next :: others) with
    | nil => rw [hwrites] at hw; cases hw
    | cons v writes =>
      have hv : v ∈ writesOf (c :: next :: others) := by rw [hwrites]; exact List.mem_cons_self
      have hvpath : v.path = path := hpath _ (mem_writesOf.mp hv)
      simp only [mergeGroup, hwrites]
      split
      · next text hone =>
        refine ⟨v, rfl, hvpath, ?_⟩
        have htext : v.content.toList ∈ sortUnique ((v :: writes).map (·.content.toList)) :=
          mem_sortUnique.mpr (List.mem_map_of_mem List.mem_cons_self)
        rw [hone] at htext ⊢
        exact List.mem_singleton.mp htext
      · exact ⟨_, rfl, rfl, String.toList_ofList⟩

/-- A group that is not empty leaves exactly one command, about its own path. -/
theorem exists_mergeGroup_eq_singleton {path : Path} {group : List Command}
    (hne : group ≠ []) (hpath : ∀ c ∈ group, c.path = path) :
    ∃ c, mergeGroup path group = [c] ∧ c.path = path := by
  cases hwrites : writesOf group with
  | nil =>
    cases group with
    | nil => exact absurd rfl hne
    | cons first others =>
      exact ⟨first, mergeGroup_of_writesOf_eq_nil hwrites, hpath _ List.mem_cons_self⟩
  | cons w writes =>
    have hw : w ∈ writesOf group := by rw [hwrites]; exact List.mem_cons_self
    obtain ⟨v, hv, hvpath, -⟩ := mergeGroup_of_mem_writesOf hpath hw
    exact ⟨_, hv, hvpath⟩

/-! ## 4. All groups -/

theorem commandsAt_ne_nil {path : Path} {commands : List Command}
    (h : path ∈ commands.map Command.path) : commandsAt path commands ≠ [] := by
  obtain ⟨c, hc, hpath⟩ := List.mem_map.mp h
  exact List.ne_nil_of_mem (mem_commandsAt.mpr ⟨hc, hpath⟩)

theorem path_of_mem_commandsAt {path : Path} {commands : List Command} :
    ∀ c ∈ commandsAt path commands, c.path = path :=
  fun _ hc => (mem_commandsAt.mp hc).2

/-- **One command for each path**, in the order in which the paths come first. -/
theorem map_path_mergeCommands (commands : List Command) :
    (mergeCommands commands).map Command.path = (commands.map Command.path).eraseDups := by
  have hgroup : ∀ path ∈ (commands.map Command.path).eraseDups,
      (mergeGroup path (commandsAt path commands)).map Command.path = [path] := by
    intro path hpath
    obtain ⟨c, hc, hcpath⟩ := exists_mergeGroup_eq_singleton
      (commandsAt_ne_nil (List.mem_eraseDups.mp hpath)) path_of_mem_commandsAt
    rw [hc, List.map_singleton, hcpath]
  rw [mergeCommands, List.map_flatMap]
  calc
    _ = (commands.map Command.path).eraseDups.flatMap (fun path => [path]) :=
      List.flatMap_congr hgroup
    _ = (commands.map Command.path).eraseDups := List.flatMap_singleton' _

theorem nodup_map_path_mergeCommands (commands : List Command) :
    ((mergeCommands commands).map Command.path).Nodup := by
  rw [map_path_mergeCommands]
  exact nodup_eraseDups _

theorem mem_mergeCommands_iff {c : Command} {commands : List Command} :
    c ∈ mergeCommands commands ↔
      ∃ path ∈ commands.map Command.path, c ∈ mergeGroup path (commandsAt path commands) := by
  simp only [mergeCommands, List.mem_flatMap, List.mem_eraseDups, commandsAt]

/-- **A delete is left exactly where nothing is written.** -/
theorem delete_mem_mergeCommands_iff {path : Path} {commands : List Command} :
    .delete path ∈ mergeCommands commands ↔
      .delete path ∈ commands ∧ ∀ w ∈ writesOf commands, w.path ≠ path := by
  constructor
  · intro h
    obtain ⟨p, hp, h⟩ := mem_mergeCommands_iff.mp h
    cases hwrites : writesOf (commandsAt p commands) with
    | cons w writes =>
      have hw : w ∈ writesOf (commandsAt p commands) := by rw [hwrites]; exact List.mem_cons_self
      obtain ⟨v, hv, -, -⟩ := mergeGroup_of_mem_writesOf path_of_mem_commandsAt hw
      rw [hv] at h
      cases List.mem_singleton.mp h
    | nil =>
      cases hgroup : commandsAt p commands with
      | nil => exact absurd hgroup (commandsAt_ne_nil hp)
      | cons first others =>
        rw [hgroup] at h hwrites
        rw [mergeGroup_of_writesOf_eq_nil hwrites] at h
        obtain rfl := List.mem_singleton.mp h
        have hfirst : .delete path ∈ commandsAt p commands := by
          rw [hgroup]
          exact List.mem_cons_self
        obtain ⟨hmem, rfl⟩ := mem_commandsAt.mp hfirst
        rw [← hgroup] at hwrites
        exact ⟨hmem, writesOf_commandsAt_eq_nil_iff.mp hwrites⟩
  · rintro ⟨hmem, hwrites⟩
    have hat : .delete path ∈ commandsAt path commands := mem_commandsAt.mpr ⟨hmem, rfl⟩
    have hnone := writesOf_commandsAt_eq_nil_iff.mpr hwrites
    refine mem_mergeCommands_iff.mpr ⟨path, List.mem_map_of_mem hmem, ?_⟩
    cases hgroup : commandsAt path commands with
    | nil => rw [hgroup] at hat; cases hat
    | cons first others =>
      rw [hgroup] at hnone
      rw [mergeGroup_of_writesOf_eq_nil hnone]
      have hfirst : first ∈ commandsAt path commands := by rw [hgroup]; exact List.mem_cons_self
      obtain ⟨hc, hpath⟩ := mem_commandsAt.mp hfirst
      cases first with
      | write w => exact absurd hpath (hwrites w (mem_writesOf.mpr hc))
      | delete p =>
        rw [show p = path from hpath]
        exact List.mem_cons_self

/-- **Nothing that is written is lost**: the write that is left for its path has all contents of
the path, sorted, each once, line after line. -/
theorem exists_write_mem_mergeCommands {w : Write} {commands : List Command}
    (hw : w ∈ writesOf commands) :
    ∃ v, .write v ∈ mergeCommands commands ∧ v.path = w.path ∧
      v.content.toList = joinLines (sortUnique (contentsAt w.path commands)) := by
  have hat : w ∈ writesOf (commandsAt w.path commands) := by
    rw [writesOf_commandsAt]
    exact List.mem_filter.mpr ⟨hw, beq_self_eq_true _⟩
  obtain ⟨v, hv, hpath, hcontent⟩ := mergeGroup_of_mem_writesOf path_of_mem_commandsAt hat
  refine ⟨v, mem_mergeCommands_iff.mpr ⟨w.path, ?_, ?_⟩, hpath, ?_⟩
  · exact List.mem_map_of_mem (mem_writesOf.mp hw)
  · rw [hv]
    exact List.mem_cons_self
  · rw [hcontent, writesOf_commandsAt, contentsAt]

/-- What is left of the writes is about the paths they were about. -/
theorem exists_path_eq_of_write_mem_mergeCommands {v : Write} {commands : List Command}
    (hv : .write v ∈ mergeCommands commands) : ∃ w ∈ writesOf commands, w.path = v.path := by
  by_contra hnone
  have hnot : ∀ w ∈ writesOf commands, w.path ≠ v.path := fun w hw h => hnone ⟨w, hw, h⟩
  have hmem : v.path ∈ (mergeCommands commands).map Command.path := List.mem_map_of_mem hv
  rw [map_path_mergeCommands, List.mem_eraseDups] at hmem
  obtain ⟨c, hc, hpath⟩ := List.mem_map.mp hmem
  cases c with
  | write w => exact hnot w (mem_writesOf.mpr hc) hpath
  | delete p =>
    obtain rfl : p = v.path := hpath
    have hdelete := delete_mem_mergeCommands_iff.mpr ⟨hc, hnot⟩
    have := List.inj_on_of_nodup_map (nodup_map_path_mergeCommands commands) hv hdelete rfl
    cases this

/-! ## 5. Nothing to merge -/

/-- Of commands about different paths, each is alone at its path. -/
theorem commandsAt_of_nodup :
    ∀ {commands : List Command}, (commands.map Command.path).Nodup → ∀ c ∈ commands,
      commandsAt c.path commands = [c]
  | d :: commands, h, c, hc => by
    obtain ⟨hmem, hnodup⟩ := List.nodup_cons.mp h
    rw [commandsAt, List.filter_cons]
    rcases List.mem_cons.mp hc with rfl | hc
    · have hnone : commandsAt c.path commands = [] := by
        refine List.filter_eq_nil_iff.mpr fun e he heq => hmem ?_
        rw [← beq_iff_eq.mp heq]
        exact List.mem_map_of_mem he
      rw [beq_self_eq_true, if_pos rfl]
      exact congrArg _ hnone
    · have hne : (d.path == c.path) = false := by
        rw [beq_eq_false_iff_ne]
        intro heq
        rw [heq] at hmem
        exact hmem (List.mem_map_of_mem hc)
      rw [hne, if_neg Bool.false_ne_true]
      exact commandsAt_of_nodup hnodup c hc

/-- **Commands about different paths stay as they are.** -/
theorem mergeCommands_of_nodup {commands : List Command}
    (h : (commands.map Command.path).Nodup) : mergeCommands commands = commands := by
  have hgroup : ∀ c ∈ commands, mergeGroup c.path (commandsAt c.path commands) = [c] := by
    intro c hc
    rw [commandsAt_of_nodup h c hc]
    rfl
  rw [mergeCommands, eraseDups_of_nodup h, List.flatMap_map]
  calc
    commands.flatMap (fun c => mergeGroup c.path (commandsAt c.path commands))
        = commands.flatMap fun c => [c] := List.flatMap_congr hgroup
    _ = commands := List.flatMap_singleton' commands

end TaskNotes
