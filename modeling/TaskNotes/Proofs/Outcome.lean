/-
# What a plan does to each path

The documents of a run go where their titles send them, in chains, in swaps and several to one
path.  Whatever the shape, a plan keeps every document: it is written once where it goes
(`count_output_eq_one`), its text is part of what is written there (`mem_textsAt`), and the only
paths deleted are those that a document has left and that no document has taken
(`delete_mem_settled_iff`).

A plan holds one command for each path, with one exception (`nodup_map_path_iff`).  Added indexes
are placed where nothing is written, and a deleted path is such a place: when the index of a
directory moves away while something is still written below the directory, the plan both deletes
the index and writes a new one.

A document goes where its title sends it, and links follow it there.  All this is decided before
any command is made, so a plan can be read document by document: what is merged at a path is the
texts of all documents that go there.

The condition of the exception looks at the documents only (`VacatesIndex`): an index moves away,
none takes its place, and something goes below its directory.  Without added indexes there is no
exception.
-/
import TaskNotes.Proofs.Sortable

namespace TaskNotes

/-! ## 1. Where a plan both writes and deletes

Merging leaves one command for each path, and indexes are added after that. -/

/-- A document is the index of a directory and leaves, no document takes its path, and something
is written below the directory. -/
def VacatesIndex (root : Path) (docs : List Document) (d : Document) : Prop :=
  d.path.name = indexName ∧ (∀ e ∈ docs, e.output root ≠ d.path) ∧
    ∃ e ∈ docs, d.path.parent ∈ (e.output root).parents

section

variable {options : PlanOptions} {root : Path} {docs : List Document} {commands : List Command}

/-- Nothing is written twice, with or without added indexes. -/
theorem nodup_map_path_writesOf
    (h : settleSteps options root (stepsOf options.formatted root docs) = .ok commands) :
    ((writesOf commands).map Write.path).Nodup := by
  obtain ⟨added, hadded, hnodup, hmem⟩ := indexesAdded_of_settleSteps h
  rw [hadded.map_path_writesOf, List.nodup_append]
  refine ⟨?_, hnodup.map (Path.child_injective indexName), ?_⟩
  · exact (nodup_map_path_mergeCommands _).sublist (map_path_writesOf_sublist _)
  · rintro _ hwritten _ hindex rfl
    obtain ⟨w, hw, hpath⟩ := List.mem_map.mp hwritten
    obtain ⟨directory, hdirectory, rfl⟩ := List.mem_map.mp hindex
    exact ((hmem directory).mp hdirectory).2.2.2 w hw hpath

/-- Nothing is deleted twice. -/
theorem nodup_map_path_deletes
    (h : settleSteps options root (stepsOf options.formatted root docs) = .ok commands) :
    ((commands.filter Command.isDelete).map Command.path).Nodup := by
  obtain ⟨added, hadded, -, -⟩ := indexesAdded_of_settleSteps h
  rw [hadded.filter_isDelete]
  exact (nodup_map_path_mergeCommands _).sublist (List.filter_sublist.map _)

/-- A path is written and deleted iff an index is added where a document has vacated one. -/
theorem nodup_map_path_iff
    (h : settleSteps options root (stepsOf options.formatted root docs) = .ok commands)
    (hbelow : ∀ d ∈ docs, root ∈ d.path.parents) :
    (commands.map Command.path).Nodup ↔
      (options.addsIndexes = true → ∀ d ∈ docs, ¬ VacatesIndex root docs d) := by
  obtain ⟨added, hadded, hnodup, hmem⟩ := indexesAdded_of_settleSteps_stepsOf h
  rw [hadded.map_path, List.nodup_append]
  -- neither the merged commands nor the added indexes repeat a path: what is left to look at is
  -- a path of both kinds, and nothing is written there before the indexes are added
  constructor
  · rintro ⟨-, -, hdisjoint⟩ hadds d hd ⟨hname, hfree, hbelowIt⟩
    have hchild : d.path.parent.child indexName = d.path := by
      rw [← hname]
      refine Path.parent_child_name ?_
      rw [hname]
      decide
    have hdelete : .delete d.path ∈ mergedCommands options.formatted root docs :=
      delete_mem_merged_iff.mpr ⟨⟨d, hd, rfl, hfree d hd⟩, hfree⟩
    have hlacks : d.path.parent ∈ added := by
      refine (hmem _).mpr ⟨hadds, hbelowIt, Path.parent_isWithin (hbelow d hd), ?_⟩
      rw [hchild]
      exact hfree
    refine hdisjoint d.path (List.mem_map_of_mem hdelete) _ (List.mem_map_of_mem hlacks) ?_
    exact hchild.symm
  · intro hkept
    refine ⟨nodup_map_path_mergeCommands _, hnodup.map (Path.child_injective indexName), ?_⟩
    rintro _ hmerged _ hindex rfl
    obtain ⟨directory, hdirectory, hpath⟩ := List.mem_map.mp hindex
    obtain ⟨hadds, hbelowIt, -, hfree⟩ := (hmem directory).mp hdirectory
    obtain ⟨c, hc, rfl⟩ := List.mem_map.mp hmerged
    cases c with
    | write w =>
      obtain ⟨d, hd, hd'⟩ := mem_map_path_writesOf_merged_iff.mp
        (List.mem_map_of_mem (mem_writesOf.mpr hc))
      exact hfree d hd (hd'.trans hpath.symm)
    | delete p =>
      obtain rfl : directory.child indexName = p := hpath
      obtain ⟨⟨d, hd, hd', -⟩, -⟩ := delete_mem_merged_iff.mp hc
      refine hkept hadds d hd ⟨?_, ?_, ?_⟩
      · rw [hd', Path.name_child]
      · rw [hd']
        exact hfree
      · rw [hd', Path.parent_child]
        exact hbelowIt

end

/-- **One command for each path, up to vacated indexes.**  A plan writes no path twice and deletes
none twice; and below its root, it both writes and deletes a path exactly when it adds indexes and
some document vacates an index. -/
theorem planCommands_nodup_map_path_iff {options : PlanOptions} {name : String} {root : Path}
    {sources : List Source} {commands : List Command} {allocator : Allocator}
    (h : planCommands options name root sources = .ok (commands, allocator))
    (hbelow : ∀ s ∈ sources, root ∈ s.path.parents) :
    ∃ docs, numberSources name sources = .ok (docs, allocator) ∧
      ((writesOf commands).map Write.path).Nodup ∧
      ((commands.filter Command.isDelete).map Command.path).Nodup ∧
      ((commands.map Command.path).Nodup ↔
        (options.addsIndexes = true → ∀ d ∈ docs, ¬ VacatesIndex root docs d)) := by
  obtain ⟨docs, hdocs, hsettle⟩ := planCommands_eq_ok_iff.mp h
  have hbelow : ∀ d ∈ docs, root ∈ d.path.parents :=
    forall_path_of_map_path_eq (map_path_of_numberSources hdocs) (fun p => root ∈ p.parents) hbelow
  exact ⟨docs, hdocs, nodup_map_path_writesOf hsettle, nodup_map_path_deletes hsettle,
    nodup_map_path_iff hsettle hbelow⟩

/-- A directory whose index is named after its title and moves, while another document stays. -/
def vacatingSources : List Source :=
  [⟨.ofString "/n/index.md", "x"⟩, ⟨.ofString "/n/o/index.md", "# N"⟩,
    ⟨.ofString "/n/o/c.md", "c"⟩]

/-- Its documents, in which there is nothing to number. -/
def vacatingDocuments : List Document :=
  [⟨.ofString "/n/index.md", .root [.paragraph [.text "x"]]⟩,
    ⟨.ofString "/n/o/index.md", .root [.heading Depth.one [.text "N"]]⟩,
    ⟨.ofString "/n/o/c.md", .root [.paragraph [.text "c"]]⟩]

/-- A run that adds indexes. -/
def vacatingOptions : PlanOptions := ⟨false, true⟩

theorem numberSources_vacatingSources :
    numberSources "TODO" vacatingSources =
      .ok (vacatingDocuments, { project := "TODO", seed := 0, last := 0 }) := by
  decide +kernel

theorem exists_settleSteps_vacatingDocuments :
    ∃ commands, settleSteps vacatingOptions (.ofString "/n")
      (stepsOf false (.ofString "/n") vacatingDocuments) = .ok commands :=
  exists_settleSteps_eq_ok (by decide +kernel) (by decide +kernel)

theorem exists_planCommands_vacatingSources :
    ∃ commands allocator, planCommands vacatingOptions "TODO" (.ofString "/n") vacatingSources =
      .ok (commands, allocator) := by
  obtain ⟨commands, hsettle⟩ := exists_settleSteps_vacatingDocuments
  exact ⟨commands, _, planCommands_eq_ok_iff.mpr ⟨_, numberSources_vacatingSources, hsettle⟩⟩

/-- The condition at the documents of a directory whose index moves. -/
theorem planCommands_nodup_map_path_iff_vacatingSources :
    (∀ s ∈ vacatingSources, Path.ofString "/n" ∈ s.path.parents) ∧
      ∃ commands allocator,
        planCommands vacatingOptions "TODO" (.ofString "/n") vacatingSources =
          .ok (commands, allocator) ∧
        ∃ docs, numberSources "TODO" vacatingSources = .ok (docs, allocator) ∧
          ((writesOf commands).map Write.path).Nodup ∧
          ((commands.filter Command.isDelete).map Command.path).Nodup ∧
          ((commands.map Command.path).Nodup ↔
            (vacatingOptions.addsIndexes = true →
              ∀ d ∈ docs, ¬ VacatesIndex (.ofString "/n") docs d)) := by
  have hbelow : ∀ s ∈ vacatingSources, Path.ofString "/n" ∈ s.path.parents := by decide +kernel
  obtain ⟨commands, allocator, h⟩ := exists_planCommands_vacatingSources
  exact ⟨hbelow, commands, allocator, h, planCommands_nodup_map_path_iff h hbelow⟩

/-- The index that moves is deleted and written, although the documents have distinct paths below
the root. -/
theorem planCommands_deletes_and_writes :
    (vacatingSources.map Source.path).Nodup ∧
      (∀ s ∈ vacatingSources, Path.ofString "/n" ∈ s.path.parents) ∧
      ∃ commands allocator,
        planCommands vacatingOptions "TODO" (.ofString "/n") vacatingSources =
          .ok (commands, allocator) ∧
        ¬ (commands.map Command.path).Nodup := by
  obtain ⟨commands, hsettle⟩ := exists_settleSteps_vacatingDocuments
  refine ⟨by decide +kernel, by decide +kernel, commands, _,
    planCommands_eq_ok_iff.mpr ⟨_, numberSources_vacatingSources, hsettle⟩, ?_⟩
  have hbelow : ∀ d ∈ vacatingDocuments, Path.ofString "/n" ∈ d.path.parents := by decide +kernel
  have hvacates : ∃ d ∈ vacatingDocuments,
      VacatesIndex (.ofString "/n") vacatingDocuments d := by
    unfold VacatesIndex
    decide +kernel
  obtain ⟨d, hd, hvacates⟩ := hvacates
  rw [nodup_map_path_iff hsettle hbelow]
  exact fun hkept => hkept rfl d hd hvacates

/-! ## 2. What becomes of documents

Indexes are added at paths that no document goes to, so what is said about documents is not changed
by them. -/

section

variable {options : PlanOptions} {root : Path} {docs : List Document} {commands : List Command}

/-- The texts that the documents that go to a path have once links have followed renames. -/
def textsAt (formatted : Bool) (root : Path) (docs : List Document) (path : Path) :
    List (List Char) :=
  (docs.filter fun e => e.output root == path).map fun e =>
    (writeDocument formatted (e.relinkedTree root docs)).toList

theorem contentsAt_relinkCommands_stepsOf (formatted : Bool) (root : Path) (docs : List Document)
    (path : Path) :
    contentsAt path (relinkCommands formatted (stepsOf formatted root docs)) =
      textsAt formatted root docs path := by
  rw [contentsAt, writesOf_relinkCommands_stepsOf, List.filter_map, List.map_map, textsAt]
  congr 1
  · funext e
    rw [Function.comp_apply, Document.relinked_content]
  · congr 1
    funext e
    rw [Function.comp_apply, Document.relinked_path]

theorem mem_textsAt {formatted : Bool} {d : Document} (hd : d ∈ docs) :
    (writeDocument formatted (d.relinkedTree root docs)).toList ∈
      textsAt formatted root docs (d.output root) := by
  refine List.mem_map.mpr ⟨d, ?_, rfl⟩
  exact List.mem_filter.mpr ⟨hd, beq_self_eq_true _⟩

/-- What is written where a document goes: the texts of all documents that go there. -/
theorem exists_write_mem_mergedCommands {formatted : Bool} {d : Document} (hd : d ∈ docs) :
    ∃ w, .write w ∈ mergedCommands formatted root docs ∧ w.path = d.output root ∧
      w.content.toList = joinLines (sortUnique (textsAt formatted root docs (d.output root))) := by
  have hw : d.relinked formatted root docs ∈
      writesOf (relinkCommands formatted (stepsOf formatted root docs)) := by
    rw [writesOf_relinkCommands_stepsOf]
    exact List.mem_map_of_mem hd
  obtain ⟨w, hw, hpath, hcontent⟩ := exists_write_mem_mergeCommands hw
  rw [Document.relinked_path] at hpath hcontent
  rw [contentsAt_relinkCommands_stepsOf] at hcontent
  exact ⟨w, hw, hpath, hcontent⟩

/-- Where a document goes, exactly one write is left in the end, and no delete. -/
theorem count_output_eq_one
    (h : settleSteps options root (stepsOf options.formatted root docs) = .ok commands)
    {d : Document} (hd : d ∈ docs) :
    ((writesOf commands).map Write.path).count (d.output root) = 1 ∧
      .delete (d.output root) ∉ commands := by
  obtain ⟨added, hadded, -, -⟩ := indexesAdded_of_settleSteps_stepsOf h
  constructor
  · refine List.count_eq_one_of_mem (nodup_map_path_writesOf h) ?_
    rw [hadded.map_path_writesOf]
    exact List.mem_append_left _ (mem_map_path_writesOf_merged_iff.mpr ⟨d, hd, rfl⟩)
  · rw [hadded.delete_mem_iff, delete_mem_merged_iff]
    rintro ⟨-, hfree⟩
    exact hfree d hd rfl

/-- A plan deletes what documents have left and none has taken. -/
theorem delete_mem_settled_iff
    (h : settleSteps options root (stepsOf options.formatted root docs) = .ok commands)
    {path : Path} :
    .delete path ∈ commands ↔
      ∃ d ∈ docs, d.path = path ∧ d.output root ≠ path ∧ ∀ e ∈ docs, e.output root ≠ path := by
  obtain ⟨added, hadded, -, -⟩ := indexesAdded_of_settleSteps_stepsOf h
  rw [hadded.delete_mem_iff, delete_mem_merged_iff]
  constructor
  · rintro ⟨⟨d, hd, hpath, hmoved⟩, hfree⟩
    exact ⟨d, hd, hpath, hmoved, hfree⟩
  · rintro ⟨d, hd, hpath, hmoved, hfree⟩
    exact ⟨⟨d, hd, hpath, hmoved⟩, hfree⟩

end

/-- **No document is lost.**  The documents of a plan are its sources, numbered.  Each is written
once where it goes, and not deleted there; what is deleted is what documents have left and none
has taken; and once there is one command for each path, the text of each document is one of the
texts that are written, line after line, where it goes. -/
theorem planCommands_keeps_documents {options : PlanOptions} {name : String} {root : Path}
    {sources : List Source} {commands : List Command} {allocator : Allocator}
    (h : planCommands options name root sources = .ok (commands, allocator)) :
    ∃ docs, numberSources name sources = .ok (docs, allocator) ∧
      docs.map Document.path = sources.map Source.path ∧
      settleSteps options root (stepsOf options.formatted root docs) = .ok commands ∧
      (∀ d ∈ docs, ((writesOf commands).map Write.path).count (d.output root) = 1 ∧
        .delete (d.output root) ∉ commands) ∧
      (∀ path, .delete path ∈ commands ↔
        ∃ d ∈ docs, d.path = path ∧ d.output root ≠ path ∧ ∀ e ∈ docs, e.output root ≠ path) ∧
      ∀ d ∈ docs,
        (writeDocument options.formatted (d.relinkedTree root docs)).toList ∈
          sortUnique (textsAt options.formatted root docs (d.output root)) ∧
        ∃ w, .write w ∈ mergeCommands (relinkCommands options.formatted
            (stepsOf options.formatted root docs)) ∧
          w.path = d.output root ∧
          w.content.toList =
            joinLines (sortUnique (textsAt options.formatted root docs (d.output root))) := by
  obtain ⟨docs, hdocs, hsettle⟩ := planCommands_eq_ok_iff.mp h
  refine ⟨docs, hdocs, map_path_of_numberSources hdocs, hsettle, ?_, ?_, ?_⟩
  · exact fun d hd => count_output_eq_one hsettle hd
  · exact fun path => delete_mem_settled_iff hsettle
  · intro d hd
    exact ⟨mem_sortUnique.mpr (mem_textsAt hd), exists_write_mem_mergedCommands hd⟩

/-- The documents of a directory whose index moves are kept. -/
theorem planCommands_keeps_vacatingSources :
    ∃ commands allocator docs,
      planCommands vacatingOptions "TODO" (.ofString "/n") vacatingSources =
        .ok (commands, allocator) ∧
      numberSources "TODO" vacatingSources = .ok (docs, allocator) ∧
      ∀ d ∈ docs, ((writesOf commands).map Write.path).count (d.output (.ofString "/n")) = 1 ∧
        .delete (d.output (.ofString "/n")) ∉ commands := by
  obtain ⟨commands, allocator, h⟩ := exists_planCommands_vacatingSources
  obtain ⟨docs, hdocs, -, -, hwritten, -, -⟩ := planCommands_keeps_documents h
  exact ⟨commands, allocator, docs, h, hdocs, hwritten⟩

end TaskNotes
