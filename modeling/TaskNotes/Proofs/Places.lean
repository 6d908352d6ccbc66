/-
# Where a plan writes and deletes

After one command is left for each path, a plan adds the indexes that are missing and fills
regions.  Filling a region changes what is written and never where (`SamePlaces`).  Adding
indexes appends writes at paths where nothing is written yet (`IndexesAdded`).

So the paths of a plan are those of the merged commands and the added indexes
(`indexesAdded_of_settleSteps`), and for the documents of a run these are known:

* something is written at a path iff a document goes there or an index is added there;
* a path is deleted iff a document leaves it and none goes there
  (`delete_mem_merged_iff`).

So where a plan writes is a matter of the documents alone, and what it writes is left to other
modules.  The two are kept apart because the passes that change texts are many and those that
choose paths are few: renaming, merging and adding indexes.
-/
import TaskNotes.Proofs.Corpus
import TaskNotes.Proofs.Merge

namespace TaskNotes

/-! ## 1. Directories

The children of a directory and the directories above a path, as lists of names. -/

namespace Path

@[simp] theorem name_child (p : Path) (n : Name) : (p.child n).name = n := by
  simp [name, child]

@[simp] theorem parent_child (p : Path) (n : Name) : (p.child n).parent = p := by
  simp [parent, child]

theorem child_injective (n : Name) : Function.Injective (fun p : Path => p.child n) := by
  intro p q h
  have := congrArg parent h
  simpa using this

/-- A path is the child of its directory. -/
theorem parent_child_name {p : Path} (h : p.name ≠ []) : p.parent.child p.name = p := by
  have hne : p.names ≠ [] := by
    intro hnil
    exact h (by simp [name, hnil])
  have hname : p.name = p.names.getLast hne := by simp [name, List.getLast?_eq_some_getLast hne]
  rw [child, parent, hname]
  simp only [List.dropLast_append_getLast hne]

theorem mem_parents_iff {p q : Path} :
    q ∈ p.parents ↔ ∃ n < p.names.length, { p with names := p.names.take n } = q := by
  simp [parents]

/-- What lies strictly below a root has its directory at the root or below it. -/
theorem parent_isWithin {p root : Path} (h : root ∈ p.parents) : p.parent.isWithin root = true := by
  obtain ⟨n, hn, rfl⟩ := mem_parents_iff.mp h
  rw [isWithin, Bool.or_eq_true, beq_iff_eq, List.contains_iff_mem]
  by_cases hlast : n = p.names.length - 1
  · left
    rw [parent, List.dropLast_eq_take, hlast]
  · right
    refine mem_parents_iff.mpr ⟨n, ?_, ?_⟩
    · rw [parent, List.length_dropLast]
      omega
    · rw [parent, List.dropLast_eq_take, List.take_take, Nat.min_eq_left (by omega)]

end Path

/-! ## 2. Passes that keep every command where it is

Commands side by side, at the same path and of the same kind.  This goes through any number of such
passes. -/

/-- The same commands at the same paths; what is written may differ. -/
def SamePlaces (commands out : List Command) : Prop :=
  List.Forall₂ (fun c d => d.isDelete = c.isDelete ∧ d.path = c.path) commands out

namespace SamePlaces

variable {commands out : List Command}

theorem map_path (h : SamePlaces commands out) :
    out.map Command.path = commands.map Command.path :=
  map_eq_map_of_forall₂ (fun _ _ hcd => hcd.2) h

theorem map_path_writesOf (h : SamePlaces commands out) :
    (writesOf out).map Write.path = (writesOf commands).map Write.path := by
  induction h with
  | nil => rfl
  | @cons c d _ _ hcd _ ih =>
    obtain ⟨hdelete, hpath⟩ := hcd
    cases c with
    | write w =>
      cases d with
      | write v =>
        simp only [writesOf, Command.path, Command.write?, List.filterMap_cons,
          List.map_cons] at hpath ih ⊢
        rw [hpath, ih]
      | delete q => cases hdelete
    | delete p =>
      cases d with
      | write v => cases hdelete
      | delete q => exact ih

theorem filter_isDelete (h : SamePlaces commands out) :
    out.filter Command.isDelete = commands.filter Command.isDelete := by
  induction h with
  | nil => rfl
  | @cons c d _ _ hcd _ ih =>
    obtain ⟨hdelete, hpath⟩ := hcd
    cases c with
    | write w =>
      cases d with
      | write v => exact ih
      | delete q => cases hdelete
    | delete p =>
      cases d with
      | write v => cases hdelete
      | delete q =>
        obtain rfl : q = p := hpath
        exact congrArg (.delete q :: ·) ih

end SamePlaces

/-- **Filling a region keeps every command where it is.** -/
theorem samePlaces_of_refillRegion {formatted : Bool} {name : String}
    {body : Path → Except NumeralError (List Node)} {commands out : List Command}
    (h : refillRegion formatted name body commands = .ok out) : SamePlaces commands out := by
  refine (mapM_eq_ok_iff.mp h).imp ?_
  intro c d hcd
  cases c with
  | delete p =>
    obtain rfl := pure_eq_ok_iff.mp hcd
    exact ⟨rfl, rfl⟩
  | write w =>
    simp only at hcd
    split at hcd
    · obtain ⟨nodes, -, hcd⟩ := bind_eq_ok_iff.mp hcd
      obtain rfl := pure_eq_ok_iff.mp hcd
      exact ⟨rfl, rfl⟩
    · obtain rfl := pure_eq_ok_iff.mp hcd
      exact ⟨rfl, rfl⟩

/-! ## 3. Added indexes

The directories are looked for in the writes before anything is added.  An added index needs none
itself, for it stands in the directory that it was added for, and the directories above that are
above the write that asked for it. -/

/-- Whether a directory is given an index: something is written in it, it is the root or below it,
and nothing is written as its index. -/
def LacksIndex (root : Path) (commands : List Command) (directory : Path) : Prop :=
  (∃ w ∈ writesOf commands, directory ∈ w.path.parents) ∧ directory.isWithin root = true ∧
    ∀ w ∈ writesOf commands, w.path ≠ directory.child indexName

theorem delete_mem_filter_isDelete_iff {path : Path} {commands : List Command} :
    .delete path ∈ commands.filter Command.isDelete ↔ .delete path ∈ commands := by
  rw [List.mem_filter]
  exact and_iff_left rfl

/-- The commands of a plan are some commands and, after them, a write of the index of each of the
directories in `added`. -/
structure IndexesAdded (commands out : List Command) (added : List Path) : Prop where
  map_path : out.map Command.path =
    commands.map Command.path ++ added.map (fun directory => directory.child indexName)
  map_path_writesOf : (writesOf out).map Write.path =
    (writesOf commands).map Write.path ++ added.map (fun directory => directory.child indexName)
  filter_isDelete : out.filter Command.isDelete = commands.filter Command.isDelete

theorem IndexesAdded.delete_mem_iff {commands out : List Command} {added : List Path}
    (h : IndexesAdded commands out added) {path : Path} :
    .delete path ∈ out ↔ .delete path ∈ commands := by
  rw [← delete_mem_filter_isDelete_iff, h.filter_isDelete, delete_mem_filter_isDelete_iff]

theorem IndexesAdded.refl (commands : List Command) : IndexesAdded commands commands [] where
  map_path := by simp
  map_path_writesOf := by simp
  filter_isDelete := rfl

theorem IndexesAdded.trans_samePlaces {commands between out : List Command} {added : List Path}
    (h : IndexesAdded commands between added) (hsame : SamePlaces between out) :
    IndexesAdded commands out added where
  map_path := hsame.map_path.trans h.map_path
  map_path_writesOf := hsame.map_path_writesOf.trans h.map_path_writesOf
  filter_isDelete := hsame.filter_isDelete.trans h.filter_isDelete

/-- The directories that are given an index, in the order in which they come first. -/
def missingIndexes (root : Path) (commands : List Command) : List Path :=
  (writtenDirectories root (writesOf commands)).filter fun d =>
    !(writesOf commands).any (fun w => w.path == d.child indexName)

theorem mem_missingIndexes_iff {root directory : Path} {commands : List Command} :
    directory ∈ missingIndexes root commands ↔ LacksIndex root commands directory := by
  simp only [missingIndexes, writtenDirectories, LacksIndex, List.mem_filter, List.mem_eraseDups,
    List.mem_flatMap, Bool.not_eq_true', List.any_eq_false, beq_iff_eq, ne_eq]
  constructor
  · rintro ⟨⟨w, hw, hparents, hwithin⟩, hnone⟩
    exact ⟨⟨w, hw, hparents⟩, hwithin, hnone⟩
  · rintro ⟨⟨w, hw, hparents⟩, hwithin, hnone⟩
    exact ⟨⟨w, hw, hparents, hwithin⟩, hnone⟩

theorem indexesAdded_of_addMissingIndexes {root : Path} {commands out : List Command}
    (h : addMissingIndexes root commands = .ok out) :
    ∃ added, IndexesAdded commands out added ∧ added.Nodup ∧
      ∀ directory, directory ∈ added ↔ LacksIndex root commands directory := by
  obtain ⟨added, hsort, h⟩ := bind_eq_ok_iff.mp h
  obtain rfl := pure_eq_ok_iff.mp h
  have hperm := naturalSort_perm hsort
  refine ⟨added, ⟨?_, ?_, ?_⟩, ?_, ?_⟩
  · rw [List.map_append, List.map_map]
    rfl
  · rw [writesOf_append, writesOf_map_write, List.map_append, List.map_map]
    rfl
  · simp [Command.isDelete]
  · exact hperm.nodup_iff.mpr ((nodup_eraseDups _).filter _)
  · intro directory
    rw [hperm.mem_iff]
    exact mem_missingIndexes_iff

/-- **The paths of a plan**: those of the merged commands, and those of the added indexes, which
are added if the options say so. -/
theorem indexesAdded_of_settleSteps {options : PlanOptions} {root : Path} {steps : List Step}
    {commands : List Command} (h : settleSteps options root steps = .ok commands) :
    ∃ added, IndexesAdded (mergeCommands (relinkCommands options.formatted steps)) commands added ∧
      added.Nodup ∧ ∀ directory, directory ∈ added ↔ options.addsIndexes = true ∧
        LacksIndex root (mergeCommands (relinkCommands options.formatted steps)) directory := by
  cases hadds : options.addsIndexes with
  | true =>
    simp only [settleSteps, hadds, if_true, bind_eq_ok_iff] at h
    obtain ⟨between, hadd, indexed, hindex, hcontents⟩ := h
    obtain ⟨added, hadded, hnodup, hmem⟩ := indexesAdded_of_addMissingIndexes hadd
    refine ⟨added, (hadded.trans_samePlaces (samePlaces_of_refillRegion hindex)).trans_samePlaces
      (samePlaces_of_refillRegion hcontents), hnodup, ?_⟩
    intro directory
    rw [hmem, eq_self_iff_true, true_and]
  | false =>
    simp only [settleSteps, hadds] at h
    obtain ⟨_, hsame, h⟩ := bind_eq_ok_iff.mp h
    obtain rfl := pure_eq_ok_iff.mp hsame
    obtain ⟨indexed, hindex, hcontents⟩ := bind_eq_ok_iff.mp h
    refine ⟨[], ((IndexesAdded.refl _).trans_samePlaces
      (samePlaces_of_refillRegion hindex)).trans_samePlaces
      (samePlaces_of_refillRegion hcontents), List.nodup_nil, ?_⟩
    intro directory
    simp

/-! ## 4. Where documents go

Merging keeps the paths, each once, and a delete only where nothing is written.  So the paths of
the merged commands are told by where documents were and where they go. -/

section

variable {formatted : Bool} {root : Path} {docs : List Document}

/-- The commands about the documents of a run, one for each path. -/
def mergedCommands (formatted : Bool) (root : Path) (docs : List Document) : List Command :=
  mergeCommands (relinkCommands formatted (stepsOf formatted root docs))

theorem writesOf_relinkCommands_stepsOf (formatted : Bool) (root : Path) (docs : List Document) :
    writesOf (relinkCommands formatted (stepsOf formatted root docs)) =
      docs.map (Document.relinked formatted root docs) := by
  have hdeletes : writesOf (docs.filterMap (Document.delete? root)) = [] := by
    rw [writesOf, List.filterMap_eq_nil_iff]
    intro c hc
    obtain ⟨d, -, hd⟩ := List.mem_filterMap.mp hc
    obtain ⟨-, rfl⟩ := Document.delete?_eq_some_iff.mp hd
    rfl
  rw [relinkCommands_stepsOf, writesOf_append, hdeletes, List.append_nil, writesOf_map_write]

theorem delete_mem_relinkCommands_stepsOf_iff {path : Path} :
    .delete path ∈ relinkCommands formatted (stepsOf formatted root docs) ↔
      ∃ d ∈ docs, d.path = path ∧ d.output root ≠ path := by
  rw [relinkCommands_stepsOf, List.mem_append, List.mem_map, List.mem_filterMap]
  constructor
  · rintro (⟨d, -, hd⟩ | ⟨d, hd, hdelete⟩)
    · cases hd
    · obtain ⟨hmoved, heq⟩ := Document.delete?_eq_some_iff.mp hdelete
      obtain rfl := Command.delete.inj heq
      exact ⟨d, hd, rfl, hmoved⟩
  · rintro ⟨d, hd, rfl, hmoved⟩
    exact .inr ⟨d, hd, Document.delete?_eq_some_iff.mpr ⟨hmoved, rfl⟩⟩

/-- Something is written where a document goes, and nowhere else. -/
theorem mem_map_path_writesOf_merged_iff {path : Path} :
    path ∈ (writesOf (mergedCommands formatted root docs)).map Write.path ↔
      ∃ d ∈ docs, d.output root = path := by
  rw [List.mem_map]
  constructor
  · rintro ⟨v, hv, rfl⟩
    obtain ⟨w, hw, hpath⟩ := exists_path_eq_of_write_mem_mergeCommands (mem_writesOf.mp hv)
    rw [writesOf_relinkCommands_stepsOf] at hw
    obtain ⟨d, hd, rfl⟩ := List.mem_map.mp hw
    exact ⟨d, hd, (Document.relinked_path ..).symm.trans hpath⟩
  · rintro ⟨d, hd, rfl⟩
    have hw : d.relinked formatted root docs ∈
        writesOf (relinkCommands formatted (stepsOf formatted root docs)) := by
      rw [writesOf_relinkCommands_stepsOf]
      exact List.mem_map_of_mem hd
    obtain ⟨v, hv, hpath, -⟩ := exists_write_mem_mergeCommands hw
    exact ⟨v, mem_writesOf.mpr hv, hpath.trans (Document.relinked_path ..)⟩

/-- **A path is deleted iff a document leaves it and none goes there.** -/
theorem delete_mem_merged_iff {path : Path} :
    .delete path ∈ mergedCommands formatted root docs ↔
      (∃ d ∈ docs, d.path = path ∧ d.output root ≠ path) ∧ ∀ e ∈ docs, e.output root ≠ path := by
  rw [mergedCommands, delete_mem_mergeCommands_iff, delete_mem_relinkCommands_stepsOf_iff,
    writesOf_relinkCommands_stepsOf, List.forall_mem_map]
  simp only [Document.relinked_path]

/-- Some write is at a path of a kind iff some document goes to one. -/
theorem exists_writesOf_merged_iff (property : Path → Prop) :
    (∃ w ∈ writesOf (mergedCommands formatted root docs), property w.path) ↔
      ∃ d ∈ docs, property (d.output root) := by
  constructor
  · rintro ⟨w, hw, h⟩
    obtain ⟨d, hd, hpath⟩ := mem_map_path_writesOf_merged_iff.mp (List.mem_map_of_mem hw)
    exact ⟨d, hd, by rwa [hpath]⟩
  · rintro ⟨d, hd, h⟩
    obtain ⟨w, hw, hpath⟩ := List.mem_map.mp (mem_map_path_writesOf_merged_iff.mpr ⟨d, hd, rfl⟩)
    exact ⟨w, hw, by rwa [hpath]⟩

/-- An index is added to a directory at the root or below it that a document goes below, unless
a document goes to its index. -/
theorem lacksIndex_merged_iff {directory : Path} :
    LacksIndex root (mergedCommands formatted root docs) directory ↔
      (∃ d ∈ docs, directory ∈ (d.output root).parents) ∧ directory.isWithin root = true ∧
        ∀ d ∈ docs, d.output root ≠ directory.child indexName := by
  have hindex : (¬∃ w ∈ writesOf (mergedCommands formatted root docs),
      w.path = directory.child indexName) ↔
        ¬∃ d ∈ docs, d.output root = directory.child indexName :=
    not_congr (exists_writesOf_merged_iff fun p => p = directory.child indexName)
  push Not at hindex
  exact and_congr (exists_writesOf_merged_iff fun p => directory ∈ p.parents)
    (and_congr_right fun _ => hindex)

/-- **The paths of a plan for documents.** -/
theorem indexesAdded_of_settleSteps_stepsOf {options : PlanOptions} {commands : List Command}
    (h : settleSteps options root (stepsOf options.formatted root docs) = .ok commands) :
    ∃ added, IndexesAdded (mergedCommands options.formatted root docs) commands added ∧
      added.Nodup ∧ ∀ directory, directory ∈ added ↔ options.addsIndexes = true ∧
        (∃ d ∈ docs, directory ∈ (d.output root).parents) ∧ directory.isWithin root = true ∧
          ∀ d ∈ docs, d.output root ≠ directory.child indexName := by
  obtain ⟨added, hadded, hnodup, hmem⟩ := indexesAdded_of_settleSteps h
  refine ⟨added, hadded, hnodup, fun directory => ?_⟩
  rw [hmem, ← lacksIndex_merged_iff]
  rfl

end

end TaskNotes
