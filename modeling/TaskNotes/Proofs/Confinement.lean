/-
# How far a plan reaches

The titles of documents are text that anyone may have written, and they become names of files and
directories.  This module says where such names can lead.

* A document keeps its place (`KeepsPlace`): it goes as deep below the root as it was, into the
  directory it was in.  An index goes, with its directory, into the directory above.
* A plan stays below the root and touches documents only (`planCommands_confined`): what it
  deletes are sources, and what it writes are documents and indexes of directories.

A name that is made of a title never stands for more than itself.  It holds no slash and is
neither empty nor `.` nor `..` (`IsProper`), so that these facts about names of paths are facts
about places in a file system.
-/
import TaskNotes.Proofs.Outcome
import TaskNotes.Proofs.Resolve

namespace TaskNotes

/-! ## 1. Below a root -/

namespace Path

variable {p directory root : Path} {m n : Name}

theorem length_child (p : Path) (n : Name) : (p.child n).names.length = p.names.length + 1 := by
  simp [child]

theorem length_parent (p : Path) : p.parent.names.length = p.names.length - 1 :=
  List.length_dropLast

theorem mem_names_child : n ∈ (p.child m).names ↔ n ∈ p.names ∨ n = m := by
  simp [child]

theorem mem_names_of_mem_parent (h : n ∈ p.parent.names) : n ∈ p.names :=
  (List.dropLast_sublist _).mem h

/-- What a directory at a root or below it holds lies below the root. -/
theorem mem_parents_child (h : directory.isWithin root = true) (n : Name) :
    root ∈ (directory.child n).parents := by
  rw [isWithin, Bool.or_eq_true, beq_iff_eq, List.contains_iff_mem] at h
  rcases h with rfl | h
  · refine mem_parents_iff.mpr ⟨directory.names.length, ?_, ?_⟩
    · rw [length_child]
      exact Nat.lt_succ_self _
    · simp [child]
  · obtain ⟨k, hk, rfl⟩ := mem_parents_iff.mp h
    refine mem_parents_iff.mpr ⟨k, ?_, ?_⟩
    · rw [length_child]
      exact Nat.lt_succ_of_lt hk
    · rw [child, List.take_append_of_le_length (Nat.le_of_lt hk)]

/-- A directory strictly below a root lies in a directory at the root or below it. -/
theorem mem_parents_parent (h : root ∈ p.parents) (hne : p.parent ≠ root) :
    root ∈ p.parent.parents := by
  have hwithin := parent_isWithin h
  rw [isWithin, Bool.or_eq_true, beq_iff_eq, List.contains_iff_mem] at hwithin
  exact hwithin.resolve_left hne

theorem length_pos_of_mem_parents (h : root ∈ p.parents) : 0 < p.names.length := by
  obtain ⟨k, hk, -⟩ := mem_parents_iff.mp h
  exact Nat.zero_lt_of_lt hk

end Path

/-! ## 2. One document

The name that a title gives is one name, so the path goes up as often as it goes down: a document
is put back into its own directory, and an index into a directory of that name, next to the one it
was in.  This is why depth is kept, and depth together with the root is more than lying below the
root. -/

/-- What a title can do to the path of a document below a root, and no more. -/
structure KeepsPlace (root input output : Path) : Prop where
  /-- The document stays below the root. -/
  below : root ∈ output.parents
  /-- It is as deep below the root as it was. -/
  length_eq : output.names.length = input.names.length
  /-- It stays in its directory. -/
  parent_eq : input.name ≠ indexName ∨ input.parent = root → output.parent = input.parent
  /-- An index stays the index of a directory next to the one it was in. -/
  index : input.name = indexName → input.parent ≠ root →
    output.parent.parent = input.parent.parent ∧ output.name = indexName
  /-- The index of the root stays. -/
  index_root : input.name = indexName → input.parent = root → output = input
  /-- It is a document. -/
  extension : documentExtension <:+ output.name
  /-- Whatever the title is, the names that come from it go down one directory each. -/
  proper : ∀ n ∈ output.names, n ∈ input.names ∨ IsProper n

/-- An index is a document. -/
theorem suffix_indexName : documentExtension <:+ indexName := ⟨"index".toList, rfl⟩

section

variable {root input : Path}

theorem keepsPlace_refl (hbelow : root ∈ input.parents)
    (hextension : documentExtension <:+ input.name) : KeepsPlace root input input where
  below := hbelow
  length_eq := rfl
  parent_eq _ := rfl
  index hname _ := ⟨rfl, hname⟩
  index_root _ _ := rfl
  extension := hextension
  proper _ hn := .inl hn

/-- A document gets another name in its directory. -/
theorem keepsPlace_child (hbelow : root ∈ input.parents) (hname : input.name ≠ indexName)
    {name : Name} (hproper : IsProper name) :
    KeepsPlace root input (input.parent.child (name ++ documentExtension)) where
  below := Path.mem_parents_child (Path.parent_isWithin hbelow) _
  length_eq := by
    have := Path.length_pos_of_mem_parents hbelow
    rw [Path.length_child, Path.length_parent]
    omega
  parent_eq _ := Path.parent_child _ _
  index h := absurd h hname
  index_root h := absurd h hname
  extension := by
    rw [Path.name_child]
    exact List.suffix_append _ _
  proper := by
    intro n hn
    rcases Path.mem_names_child.mp hn with hn | rfl
    · exact .inl (Path.mem_names_of_mem_parent hn)
    · exact .inr (isProper_append_documentExtension hproper)

/-- The directory of an index gets another name. -/
theorem keepsPlace_child_indexName (hbelow : root ∈ input.parents) (hroot : input.parent ≠ root)
    (hname : input.name = indexName) {name : Name} (hproper : IsProper name) :
    KeepsPlace root input ((input.parent.parent.child name).child indexName) where
  below := by
    have habove := Path.parent_isWithin (Path.mem_parents_parent hbelow hroot)
    refine Path.mem_parents_child ?_ _
    rw [Path.isWithin, List.contains_iff_mem.mpr (Path.mem_parents_child habove _), Bool.or_true]
  length_eq := by
    have := Path.length_pos_of_mem_parents (Path.mem_parents_parent hbelow hroot)
    rw [Path.length_parent] at this
    rw [Path.length_child, Path.length_child, Path.length_parent, Path.length_parent]
    omega
  parent_eq h := by
    rcases h with h | h
    · exact absurd hname h
    · exact absurd h hroot
  index _ _ := by simp
  index_root _ h := absurd h hroot
  extension := by
    rw [Path.name_child]
    exact suffix_indexName
  proper := by
    intro n hn
    rcases Path.mem_names_child.mp hn with hn | rfl
    · rcases Path.mem_names_child.mp hn with hn | rfl
      · exact .inl (Path.mem_names_of_mem_parent (Path.mem_names_of_mem_parent hn))
      · exact .inr hproper
    · exact .inr isProper_indexName

/-- **A document keeps its place**, whatever its title. -/
theorem keepsPlace_outputPath (hbelow : root ∈ input.parents)
    (hextension : documentExtension <:+ input.name) (title : Option String) :
    KeepsPlace root input (outputPath root input title) := by
  rw [outputPath]
  cases hname : title.bind fun title => fileName? title.toList with
  | none => exact keepsPlace_refl hbelow hextension
  | some name =>
    obtain ⟨text, -, hname⟩ := Option.bind_eq_some_iff.mp hname
    have hproper : IsProper name := isProper_of_fileName? hname
    simp only
    split
    next hindex =>
      split
      next => exact keepsPlace_refl hbelow hextension
      next hroot => exact keepsPlace_child_indexName hbelow hroot hindex hproper
    next hindex => exact keepsPlace_child hbelow hindex hproper

end

/-! ## 3. A run

Besides documents a plan writes indexes that were missing.  They are made for the directories above
an output, so they lie no deeper than documents do and never above the root. -/

section

variable {options : PlanOptions} {root : Path} {docs : List Document} {commands : List Command}
  {path : Path}

/-- What a plan writes are its documents, where they go, and indexes of directories above them. -/
theorem exists_of_write_mem_settled
    (h : settleSteps options root (stepsOf options.formatted root docs) = .ok commands) {w : Write}
    (hw : .write w ∈ commands) :
    (∃ d ∈ docs, d.output root = w.path) ∨
      ∃ directory, directory.isWithin root = true ∧
        (∃ d ∈ docs, directory ∈ (d.output root).parents) ∧ directory.child indexName = w.path := by
  obtain ⟨added, hadded, -, hmem⟩ := indexesAdded_of_settleSteps_stepsOf h
  have hpath : w.path ∈ (writesOf commands).map Write.path :=
    List.mem_map_of_mem (mem_writesOf.mpr hw)
  rw [hadded.map_path_writesOf, List.mem_append] at hpath
  rcases hpath with hdocument | hindex
  · exact .inl (mem_map_path_writesOf_merged_iff.mp hdocument)
  · obtain ⟨directory, hdirectory, hpath⟩ := List.mem_map.mp hindex
    obtain ⟨-, habove, hwithin, -⟩ := (hmem directory).mp hdirectory
    exact .inr ⟨directory, hwithin, habove, hpath⟩

end

/-- **A plan reaches no further than its documents.**  For documents below a root, every path that
is written or deleted lies below the root and is that of a document; what is deleted are sources;
and wherever a document goes, it keeps its place. -/
theorem planCommands_confined {options : PlanOptions} {name : String} {root : Path}
    {sources : List Source} {commands : List Command} {allocator : Allocator}
    (h : planCommands options name root sources = .ok (commands, allocator))
    (hbelow : ∀ s ∈ sources, root ∈ s.path.parents)
    (hextension : ∀ s ∈ sources, documentExtension <:+ s.path.name) :
    (∀ c ∈ commands, root ∈ c.path.parents ∧ documentExtension <:+ c.path.name) ∧
      (∀ path, .delete path ∈ commands → path ∈ sources.map Source.path) ∧
      ∃ docs, numberSources name sources = .ok (docs, allocator) ∧
        docs.map Document.path = sources.map Source.path ∧
        ∀ d ∈ docs, KeepsPlace root d.path (d.output root) := by
  obtain ⟨docs, hdocs, hsettle⟩ := planCommands_eq_ok_iff.mp h
  have hpaths := map_path_of_numberSources hdocs
  have hplace : ∀ d ∈ docs, KeepsPlace root d.path (d.output root) := by
    have hbelow := forall_path_of_map_path_eq hpaths (fun p => root ∈ p.parents) hbelow
    have hextension :=
      forall_path_of_map_path_eq hpaths (fun p => documentExtension <:+ p.name) hextension
    exact fun d hd => keepsPlace_outputPath (hbelow d hd) (hextension d hd) _
  have hdeleted : ∀ path, .delete path ∈ commands → path ∈ sources.map Source.path := by
    intro path hdelete
    obtain ⟨d, hd, rfl, -, -⟩ := (delete_mem_settled_iff hsettle).mp hdelete
    rw [← hpaths]
    exact List.mem_map_of_mem hd
  refine ⟨fun c hc => ?_, hdeleted, docs, hdocs, hpaths, hplace⟩
  cases c with
  | delete path =>
    obtain ⟨s, hs, rfl⟩ := List.mem_map.mp (hdeleted path hc)
    exact ⟨hbelow s hs, hextension s hs⟩
  | write w =>
    rcases exists_of_write_mem_settled hsettle hc with
      ⟨d, hd, hpath⟩ | ⟨directory, hwithin, -, hpath⟩
    · rw [Command.path, ← hpath]
      exact ⟨(hplace d hd).below, (hplace d hd).extension⟩
    · rw [Command.path, ← hpath, Path.name_child]
      exact ⟨Path.mem_parents_child hwithin _, suffix_indexName⟩

/-- Titles with slashes and dots, one of them with nothing else. -/
def escapingSources : List Source :=
  [⟨.ofString "/n/a.md", "# ../../b"⟩, ⟨.ofString "/n/o/index.md", "# .."⟩,
    ⟨.ofString "/n/p/index.md", "# /../c"⟩]

/-- Their documents, in which there is nothing to number. -/
def escapingDocuments : List Document :=
  [⟨.ofString "/n/a.md", .root [.heading Depth.one [.text "../../b"]]⟩,
    ⟨.ofString "/n/o/index.md", .root [.heading Depth.one [.text ".."]]⟩,
    ⟨.ofString "/n/p/index.md", .root [.heading Depth.one [.text "/../c"]]⟩]

theorem numberSources_escapingSources :
    numberSources "TODO" escapingSources =
      .ok (escapingDocuments, .startingAt "TODO" 0) := by
  decide +kernel

theorem exists_planCommands_escapingSources :
    ∃ commands allocator, planCommands ⟨false, true⟩ "TODO" (.ofString "/n") escapingSources =
      .ok (commands, allocator) := by
  have hsettle : ∃ commands, settleSteps ⟨false, true⟩ (.ofString "/n")
      (stepsOf false (.ofString "/n") escapingDocuments) = .ok commands :=
    exists_settleSteps_eq_ok (by decide +kernel) (by decide +kernel)
  obtain ⟨commands, hsettle⟩ := hsettle
  exact ⟨commands, _, planCommands_eq_ok_iff.mpr ⟨_, numberSources_escapingSources, hsettle⟩⟩

/-- No title leads out of the directory. -/
theorem planCommands_confined_escapingSources :
    (∀ s ∈ escapingSources, Path.ofString "/n" ∈ s.path.parents) ∧
      (∀ s ∈ escapingSources, documentExtension <:+ s.path.name) ∧
      ∃ commands allocator,
        planCommands ⟨false, true⟩ "TODO" (.ofString "/n") escapingSources =
          .ok (commands, allocator) ∧
        (∀ c ∈ commands, Path.ofString "/n" ∈ c.path.parents ∧
          documentExtension <:+ c.path.name) ∧
        (∀ path, .delete path ∈ commands → path ∈ escapingSources.map Source.path) ∧
        ∀ d ∈ escapingDocuments,
          KeepsPlace (.ofString "/n") d.path (d.output (.ofString "/n")) := by
  have hbelow : ∀ s ∈ escapingSources, Path.ofString "/n" ∈ s.path.parents := by decide +kernel
  have hextension : ∀ s ∈ escapingSources, documentExtension <:+ s.path.name := by
    decide +kernel
  obtain ⟨commands, allocator, h⟩ := exists_planCommands_escapingSources
  obtain ⟨hcommands, hdeleted, docs, hdocs, -, hplace⟩ :=
    planCommands_confined h hbelow hextension
  rw [numberSources_escapingSources] at hdocs
  cases hdocs
  exact ⟨hbelow, hextension, commands, _, h, hcommands, hdeleted, hplace⟩

/-- Where they go. -/
example : escapingDocuments.map (fun d => (d.output (.ofString "/n")).toString) =
    ["/n/..-..-b.md", "/n/o/index.md", "/n/-..-c/index.md"] := by
  decide +kernel

end TaskNotes
