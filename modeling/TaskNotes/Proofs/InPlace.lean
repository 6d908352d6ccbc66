/-
# Documents in their places

A document is in its place when its title sends it nowhere else.  Documents in their places keep
their links, and are written as they are (`mergedCommands_of_inPlace`); numbered documents are not
numbered again (`numberSources_of_numbered`); and what a plan writes lacks no index
(`not_lacksIndex_of_settleSteps`).

These are the passes of a plan, looked at where they have nothing to do.  Each is shown to leave
things as they are under the weakest condition that concerns it alone, so that `Proofs/FixedPoint`
can put them together.

* Relinking has nothing to do where nothing has been renamed and the document stays in its
  directory.
* Merging has nothing to do where the paths are distinct.
* Numbering has nothing to do where no carrier needs a number, and then no number is drawn either;
  but the seed still has to be found, and for that the numbers in the texts have to be read.
* Adding indexes has nothing to do where every directory above a write has one; adding them once is
  enough, since the directories above a new index are among those above the write it was added for.
-/
import TaskNotes.Proofs.Confinement
import TaskNotes.Proofs.ListedNumbers
import TaskNotes.Proofs.UpdatedLinks

namespace TaskNotes

/-! ## 1. Links -/

/-- Without renames, no URL changes in a document that stays where it is. -/
theorem relinkUrl_self (directory : Path) (url : List Char) :
    (relinkUrl directory directory [] url).url = url := by
  rw [relinkUrl]
  cases fileReference? url with
  | none => rfl
  | some found => simp [Renames.target?]

/-- So the document is left alone. -/
theorem relink?_self (directory : Path) (tree : Node) :
    tree.relink? (relinkUrl directory directory []) = none :=
  (relink?_eq_none_iff tree).mpr fun url _ =>
    relinkedUrl_eq_self_iff.mpr (relinkUrl_self directory url.toList)

/-! ## 2. Commands -/

section

variable {formatted : Bool} {root : Path} {docs : List Document}

/-- The write of a document that stays at its path. -/
def Document.inPlace (formatted : Bool) (d : Document) : Write :=
  ⟨d.path, writeDocument formatted d.tree, d.tree, none⟩

/-- The commands that write documents where they are. -/
def inPlaceCommands (formatted : Bool) (docs : List Document) : List Command :=
  docs.map fun d => .write (d.inPlace formatted)

theorem writesOf_inPlaceCommands (formatted : Bool) (docs : List Document) :
    writesOf (inPlaceCommands formatted docs) = docs.map (Document.inPlace formatted) :=
  writesOf_map_write _ _

/-- **Documents that are where their titles send them are written as they are**, and nothing is
deleted. -/
theorem mergedCommands_of_inPlace (hdistinct : (docs.map Document.path).Nodup)
    (hplace : ∀ d ∈ docs, d.output root = d.path) :
    mergedCommands formatted root docs = inPlaceCommands formatted docs := by
  have hrenames : renamesOf root docs = [] := by
    rw [renamesOf, List.filterMap_eq_nil_iff]
    intro d hd
    rw [Document.rename?, if_pos (hplace d hd)]
  have hdeletes : docs.filterMap (Document.delete? root) = [] := by
    rw [List.filterMap_eq_nil_iff]
    intro d hd
    rw [Document.delete?, if_pos (hplace d hd)]
  have hrelinked : ∀ d ∈ docs, d.relinked formatted root docs = d.inPlace formatted := by
    intro d hd
    have htree : d.relinkedTree root docs = d.tree := by
      rw [Document.relinkedTree, hplace d hd, hrenames, relink?_self]
      rfl
    rw [Document.relinked_eq, htree, Document.write, hplace d hd, if_pos rfl]
    rfl
  have hcommands : relinkCommands formatted (stepsOf formatted root docs) =
      inPlaceCommands formatted docs := by
    rw [relinkCommands_stepsOf, hdeletes, List.append_nil]
    exact List.map_congr_left fun d hd => by rw [hrelinked d hd]
  rw [mergedCommands, hcommands, mergeCommands_of_nodup]
  rw [inPlaceCommands, List.map_map]
  exact hdistinct

end

/-! ## 3. Numbers

The highest number is found by going through all texts, and every first number in them has to be
one that can be read.  Both are the same for any order of the documents. -/

section

variable {project : ProjectId} {a seed : Allocator}

/-- **Numbered documents are not numbered again.** -/
theorem numberDocuments_of_numbered (hproject : a.project = project.toString) :
    ∀ {trees : List (Path × Node)}, (∀ t ∈ trees, t.2.Numbered project) →
      numberDocuments a trees = .ok (trees.map fun t => ⟨t.1, t.2⟩, a)
  | [], _ => rfl
  | (path, tree) :: trees, h => by
    have htree : numberTree .kept a tree = .ok (tree, a) := by
      rw [numberTree, hproject, checkProject_toString]
      exact ofNumeral_eq_ok_iff.mpr (rebuild_of_numbered (h (path, tree) List.mem_cons_self) a)
    have hothers := numberDocuments_of_numbered hproject fun t ht => h t (List.mem_cons_of_mem _ ht)
    refine bind_eq_ok_iff.mpr ⟨_, htree, bind_eq_ok_iff.mpr ⟨_, hothers, rfl⟩⟩

/-- Whether the number of the first identifier of a text can be read. -/
def IsReadable (project : ProjectId) (text : String) : Prop :=
  ∃ number, firstTaskNumber (some project) text.toList = .ok number

/-- Numbers are collected from texts exactly when each of them can be read. -/
theorem exists_foldlM_raiseTo_iff :
    ∀ {texts : List String} {k : Nat}, (∃ n, texts.foldlM (raiseTo project) k = .ok n) ↔
      ∀ text ∈ texts, IsReadable project text
  | [], k => by
    simp only [List.foldlM_nil, List.not_mem_nil, false_imp_iff, implies_true, iff_true]
    exact ⟨k, rfl⟩
  | text :: texts, k => by
    simp only [List.foldlM_cons, bind_eq_ok_iff, List.forall_mem_cons]
    constructor
    · rintro ⟨n, m, hm, hn⟩
      obtain ⟨number, hnumber, -⟩ := map_eq_ok_iff.mp hm
      exact ⟨⟨number, hnumber⟩, exists_foldlM_raiseTo_iff.mp ⟨n, hn⟩⟩
    · rintro ⟨⟨number, hnumber⟩, hothers⟩
      obtain ⟨n, hn⟩ := exists_foldlM_raiseTo_iff.mpr hothers
      exact ⟨n, _, map_eq_ok_iff.mpr ⟨number, hnumber, rfl⟩, hn⟩

theorem highestNumber_eq_foldlM (trees : List Node) :
    highestNumber project.toString trees =
      ofNumeral ((trees.flatMap Node.texts).foldlM (raiseTo project) 0) := by
  rw [highestNumber]
  split
  next htexts =>
    rw [htexts]
    rfl
  next =>
    rw [checkProject_toString]
    rfl

/-- **The seed does not depend on the order of the trees.** -/
theorem ofTrees_of_perm {trees others : List Node} (hperm : others.Perm trees)
    (h : Allocator.ofTrees project.toString trees = .ok seed) :
    Allocator.ofTrees project.toString others = .ok seed := by
  obtain ⟨n, hn, rfl⟩ := map_eq_ok_iff.mp h
  have htexts : (others.flatMap Node.texts).Perm (trees.flatMap Node.texts) :=
    hperm.flatMap_right _
  have hreadable : ∀ text ∈ others.flatMap Node.texts, IsReadable project text := by
    intro text htext
    rw [highestNumber_eq_foldlM, ofNumeral_eq_ok_iff] at hn
    exact exists_foldlM_raiseTo_iff.mp ⟨n, hn⟩ text (htexts.mem_iff.mp htext)
  obtain ⟨m, hm⟩ := exists_foldlM_raiseTo_iff.mpr hreadable
  have hm : highestNumber project.toString others = .ok m := by
    rw [highestNumber_eq_foldlM, hm]
    rfl
  have hfirst : firstNumbers project (others.flatMap Node.texts) =
      firstNumbers project (trees.flatMap Node.texts) := by
    simp only [firstNumbers, htexts.mem_iff]
  have hgreatest := isGreatest_of_highestNumber hm
  rw [hfirst] at hgreatest
  rw [hgreatest.unique (isGreatest_of_highestNumber hn)] at hm
  exact map_eq_ok_iff.mpr ⟨n, hm, rfl⟩

/-- A document of a run as it is read. -/
def Source.document (s : Source) : Document := ⟨s.path, .read s.text⟩

/-- **Numbered texts keep their trees**, and no number is handed out. -/
theorem numberSources_of_numbered {sources : List Source}
    (hseed : Allocator.ofTrees project.toString (sources.map fun s => Node.read s.text) = .ok seed)
    (hnumbered : ∀ s ∈ sources, (Node.read s.text).Numbered project) :
    numberSources project.toString sources =
      .ok (sources.map Source.document, seed) := by
  have htrees : ∀ t ∈ sources.map fun s => (s.path, Node.read s.text), t.2.Numbered project :=
    List.forall_mem_map.mpr hnumbered
  have hdocs := numberDocuments_of_numbered (project_of_ofTrees hseed) htrees
  rw [List.map_map] at hdocs
  refine bind_eq_ok_iff.mpr ⟨seed, ?_, hdocs⟩
  rw [List.map_map]
  exact hseed

end

/-! ## 4. Missing indexes -/

/-- What lies above a directory lies above what is in it. -/
theorem Path.mem_parents_trans {p directory above : Path} (h : directory ∈ p.parents)
    (habove : above ∈ directory.parents) : above ∈ p.parents := by
  obtain ⟨n, hn, rfl⟩ := mem_parents_iff.mp h
  obtain ⟨k, hk, rfl⟩ := mem_parents_iff.mp habove
  rw [List.length_take] at hk
  refine mem_parents_iff.mpr ⟨k, by omega, ?_⟩
  rw [List.take_take, Nat.min_eq_left (by omega)]

theorem Path.eq_or_mem_parents_of_child {directory above : Path} {name : Name}
    (h : above ∈ (directory.child name).parents) :
    above = directory ∨ above ∈ directory.parents := by
  obtain ⟨k, hk, rfl⟩ := mem_parents_iff.mp h
  rw [length_child] at hk
  rcases Nat.lt_or_ge k directory.names.length with hlt | hge
  · refine .inr (mem_parents_iff.mpr ⟨k, hlt, ?_⟩)
    rw [child, List.take_append_of_le_length hlt.le]
  · obtain rfl : k = directory.names.length := by omega
    exact .inl (by simp [child])

/-- **What is written lacks no index**, once every directory that lacked one is given one. -/
theorem IndexesAdded.not_lacksIndex {root directory : Path} {commands out : List Command}
    {added : List Path} (hadded : IndexesAdded commands out added)
    (hmem : ∀ directory, LacksIndex root commands directory → directory ∈ added)
    (hlacked : ∀ directory ∈ added, LacksIndex root commands directory) :
    ¬ LacksIndex root out directory := by
  have hpaths := hadded.map_path_writesOf
  rintro ⟨⟨w, hw, hparents⟩, hwithin, hnone⟩
  have hnone : directory.child indexName ∉ (writesOf out).map Write.path := by
    intro hindex
    obtain ⟨v, hv, hpath⟩ := List.mem_map.mp hindex
    exact hnone v hv hpath
  rw [hpaths, List.mem_append, not_or] at hnone
  -- what lies above an added index lies above the write for which it was added
  have habove : ∃ v ∈ writesOf commands, directory ∈ v.path.parents := by
    have hpath : w.path ∈ (writesOf out).map Write.path := List.mem_map_of_mem hw
    rw [hpaths, List.mem_append] at hpath
    rcases hpath with hmerged | hindex
    · obtain ⟨v, hv, hpath⟩ := List.mem_map.mp hmerged
      exact ⟨v, hv, hpath ▸ hparents⟩
    · obtain ⟨below, hbelow, hpath⟩ := List.mem_map.mp hindex
      obtain ⟨⟨v, hv, hparents'⟩, -⟩ := hlacked below hbelow
      rw [← hpath] at hparents
      refine ⟨v, hv, ?_⟩
      rcases Path.eq_or_mem_parents_of_child hparents with rfl | hparents
      · exact hparents'
      · exact Path.mem_parents_trans hparents' hparents
  have hlacks : LacksIndex root commands directory :=
    ⟨habove, hwithin, fun v hv hpath => hnone.1 (List.mem_map.mpr ⟨v, hv, hpath⟩)⟩
  exact hnone.2 (List.mem_map_of_mem (hmem directory hlacks))

/-- **What a plan writes lacks no index**, if indexes are added. -/
theorem not_lacksIndex_of_settleSteps {options : PlanOptions} {root directory : Path}
    {steps : List Step} {commands : List Command}
    (h : settleSteps options root steps = .ok commands) (hadds : options.addsIndexes = true) :
    ¬ LacksIndex root commands directory := by
  obtain ⟨added, hadded, -, hmem⟩ := indexesAdded_of_settleSteps h
  exact hadded.not_lacksIndex (fun d hlacks => (hmem d).mpr ⟨hadds, hlacks⟩)
    fun d hd => ((hmem d).mp hd).2

end TaskNotes
