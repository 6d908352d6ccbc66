/-
# Plans for what a plan has written

The regions that a plan has filled are up to date: filling them with the same bodies leaves them as
they are (`isUpToDate_of_refilled`).  So planning again for what a plan has written gives the same
writes and nothing else, if what is written is settled (`planCommands_again`).

What has to be settled is what a plan does not settle by itself.  A title can change when links
follow renames, and then a document moves again (`planCommands_again_linkTitleSources`); contents
that are joined are written as they are joined and not as they are rendered; and a box in a title
can be another one after an index has been filled.  Where none of this happens the second plan is
the first one, and each condition of the theorem is about one of these.

The second plan reads the documents in the order of their names and not in the order in which they
were written.  So everything that the passes make of the documents is shown not to depend on the
order, and regions are compared with what is filled in from a permuted list.
-/
import TaskNotes.Proofs.FilledRegions
import TaskNotes.Proofs.InPlace
import TaskNotes.Proofs.Listings
import TaskNotes.Proofs.Refilled
import TaskNotes.Proofs.Relink

namespace TaskNotes

/-! ## 1. Bodies without regions

Indexes and tables of contents consist of links, lists and headings that the program has made.  No
marker is among them, so filling the regions of one name brings no region of the other. -/

section

variable {name other : String} {cs : List Node}

theorem containsRegionAll_eq_false_iff :
    containsRegionAll name cs = false ↔ ∀ c ∈ cs, c.containsRegion name = false := by
  induction cs with
  | nil => simp [containsRegionAll]
  | cons c cs ih => rw [containsRegionAll, Bool.or_eq_false_iff, ih, List.forall_mem_cons]

theorem containsRegionAll_append (cs ds : List Node) :
    containsRegionAll name (cs ++ ds) =
      (containsRegionAll name cs || containsRegionAll name ds) := by
  induction cs with
  | nil => rfl
  | cons c cs ih => rw [List.cons_append, containsRegionAll, containsRegionAll, ih, Bool.or_assoc]

/-- Lines hold no region if none of them does. -/
theorem containsRegionAll_lines : ∀ {lines : List (List Node)},
    (∀ line ∈ lines, containsRegionAll name line = false) →
      containsRegionAll name (lines.intersperse [.hardBreak]).flatten = false
  | [], _ => rfl
  | [line], h => by
    rw [List.intersperse_singleton, List.flatten_singleton]
    exact h line List.mem_cons_self
  | line :: next :: lines, h => by
    rw [List.forall_mem_cons] at h
    rw [List.intersperse_cons_cons, List.flatten_cons, List.flatten_cons,
      containsRegionAll_append, containsRegionAll_append, h.1, containsRegionAll_lines h.2]
    rfl

theorem containsRegionAll_linesIfAny {lines : List (List Node)}
    (h : ∀ line ∈ lines, containsRegionAll name line = false) :
    containsRegionAll name (linesIfAny lines) = false := by
  rw [linesIfAny]
  split
  · rfl
  · rw [containsRegionAll, lineParagraph, Node.containsRegion, containsRegionAll_lines h]
    rfl

/-- The body of an index holds no region. -/
theorem containsRegionAll_indexBody (entries : List IndexEntry) :
    containsRegionAll name (indexBody entries) = false := by
  have htasks : containsRegionAll name (entries.filterMap IndexEntry.taskItem?) = false := by
    refine containsRegionAll_eq_false_iff.mpr fun c hc => ?_
    obtain ⟨entry, -, hc⟩ := List.mem_filterMap.mp hc
    rw [IndexEntry.taskItem?] at hc
    split at hc
    next state _ =>
      rw [← Option.some.inj hc]
      cases state with
      | unchecked => rfl
      | inProgress => rfl
      | checked => rfl
    next => cases hc
  have hdirectories :
      containsRegionAll name (linesIfAny (entries.filterMap IndexEntry.directoryLine?)) =
        false := by
    refine containsRegionAll_linesIfAny fun line hline => ?_
    obtain ⟨entry, -, hline⟩ := List.mem_filterMap.mp hline
    rw [IndexEntry.directoryLine?] at hline
    split at hline
    · rw [← Option.some.inj hline]
      rfl
    · cases hline
  have hfiles :
      containsRegionAll name (linesIfAny (entries.filterMap IndexEntry.fileLine?)) = false := by
    refine containsRegionAll_linesIfAny fun line hline => ?_
    obtain ⟨entry, -, hline⟩ := List.mem_filterMap.mp hline
    rw [IndexEntry.fileLine?] at hline
    split at hline
    · rw [← Option.some.inj hline]
      rfl
    · cases hline
  rw [indexBody]
  simp only [containsRegionAll_append, hdirectories, hfiles, Bool.or_false, Bool.or_eq_false_iff]
  constructor
  · split
    · rfl
    · simp [containsRegionAll, Node.containsRegion, htasks, isMarker]
  · split
    · rfl
    · rfl

theorem containsRegionAll_createIndex {index : Path} {writes : List Write} {body : List Node}
    (h : createIndex index writes = .ok body) : containsRegionAll name body = false := by
  obtain ⟨entries, -, rfl⟩ := map_eq_ok_iff.mp h
  exact containsRegionAll_indexBody entries

/-- A table of contents holds no region. -/
theorem containsRegionAll_createContents {root toc : Path} {writes : List Write} {body : List Node}
    (h : (createContents root toc writes).map ([·]) = .ok body) :
    containsRegionAll name body = false := by
  obtain ⟨contents, hcontents, rfl⟩ := map_eq_ok_iff.mp h
  obtain ⟨paths, -, hlist⟩ := bind_eq_ok_iff.mp hcontents
  obtain rfl := pure_eq_ok_iff.mp hlist
  have hitems : containsRegionAll name (paths.map (contentsItem root toc)) = false := by
    refine containsRegionAll_eq_false_iff.mpr (List.forall_mem_map.mpr fun path _ => ?_)
    rw [contentsItem]
    split
    · rfl
    · rfl
  rw [containsRegionAll, Node.containsRegion, hitems]
  rfl

variable {body : List Node}

mutual
/-- Filling the regions of a name with a body that holds none of the other makes none of the
other. -/
theorem containsRegion_filled (hname : name ∈ regionNames) (hother : other ∈ regionNames)
    (hbody : containsRegionAll other body = false) {tree : Node}
    (h : tree.containsRegion other = false) :
    (tree.replaceRegions (.filled name body)).containsRegion other = false := by
  match tree with
  | .leaf kind =>
    rw [replaceRegions_leaf]
    exact h
  | .branch kind cs =>
    rw [replaceRegions_branch]
    exact containsRegionAll_filled hname hother hbody h none

theorem containsRegionAll_filled (hname : name ∈ regionNames) (hother : other ∈ regionNames)
    (hbody : containsRegionAll other body = false) {cs : List Node}
    (h : containsRegionAll other cs = false) (skipping : Option String) :
    containsRegionAll other (replaceAmong (.filled name body) skipping cs) = false := by
  match cs, skipping with
  | [], _ =>
    rw [replaceAmong_nil]
    rfl
  | c :: cs, some passed =>
    rw [containsRegionAll, Bool.or_eq_false_iff] at h
    rw [replaceAmong_skip]
    exact containsRegionAll_filled hname hother hbody h.2 _
  | c :: cs, none =>
    rw [containsRegionAll, Bool.or_eq_false_iff] at h
    cases hbegin : isMarker (beginMarker name) c with
    | true =>
      have hend : (Node.html (endMarker name)).containsRegion other = false :=
        begin_of_isRegionEnd hname hother (isRegionEnd_endMarker hname)
      rw [replaceAmong_filled_of_begin hbegin, containsRegionAll, containsRegionAll_append,
        containsRegionAll, h.1, hbody, hend, containsRegionAll_filled hname hother hbody h.2 _]
      rfl
    | false =>
      rw [replaceAmong_filled_of_not_begin hbegin, containsRegionAll,
        containsRegion_filled hname hother hbody h.1,
        containsRegionAll_filled hname hother hbody h.2 none]
      rfl
end

end

/-! ## 2. Regions that are up to date

A region is up to date if filling it changes nothing.  Indexes are filled first and then tables of
contents, so an index has to stay up to date through the second filling, which changes other parts
of the same tree. -/

section

variable {formatted : Bool} {name other : String} {v w between : Write}
  {body inside : Path → Except NumeralError (List Node)}

/-- Whether the regions of a name in a write, if there are any, are as filling them leaves them. -/
def IsUpToDate (name : String) (body : Path → Except NumeralError (List Node)) (w : Write) : Prop :=
  w.tree.containsRegion name = true →
    ∃ nodes, body w.path = .ok nodes ∧ w.tree.replaceRegions (.filled name nodes) = w.tree

/-- It depends on the path and the tree of a write, and on what is filled in at the path. -/
theorem IsUpToDate.congr {u : Write} (h : IsUpToDate name body w) (hpath : u.path = w.path)
    (htree : u.tree = w.tree)
    (hbody : ∀ nodes, body w.path = .ok nodes → inside w.path = .ok nodes) :
    IsUpToDate name inside u := by
  intro hcontains
  rw [htree] at hcontains
  obtain ⟨nodes, hnodes, hfilled⟩ := h hcontains
  exact ⟨nodes, by rw [hpath, hbody nodes hnodes], by rw [htree, hfilled]⟩

/-- **Regions that have been filled are up to date.** -/
theorem RefilledFrom.isUpToDate (hname : name ∈ regionNames)
    (hbody : ∀ path nodes, body path = .ok nodes → AllBranches nodes)
    (h : RefilledFrom formatted name body v w) : IsUpToDate name body w := by
  intro hcontains
  rcases h with ⟨hnone, rfl⟩ | ⟨nodes, hnodes, rfl⟩
  · rw [hnone] at hcontains
    cases hcontains
  · exact ⟨nodes, hnodes,
      (isFilled_replaceRegions v.tree).replaceRegions_eq hname (hbody _ _ hnodes)⟩

/-- **They stay up to date** when the regions of another name are filled. -/
theorem isUpToDate_of_refilled_other (hname : name ∈ regionNames) (hother : other ∈ regionNames)
    (hne : name ≠ other) (hbody : ∀ path nodes, body path = .ok nodes → AllBranches nodes)
    (hnone : ∀ path nodes, body path = .ok nodes → containsRegionAll other nodes = false)
    (hinside : ∀ path nodes, inside path = .ok nodes → AllBranches nodes)
    (hnone' : ∀ path nodes, inside path = .ok nodes → containsRegionAll name nodes = false)
    (h : RefilledFrom formatted name body v between)
    (h' : RefilledFrom formatted other inside between w) : IsUpToDate name body w := by
  rcases h' with ⟨-, rfl⟩ | ⟨nodes', hnodes', rfl⟩
  · exact h.isUpToDate hname hbody
  · intro hcontains
    rcases h with ⟨hv, rfl⟩ | ⟨nodes, hnodes, rfl⟩
    · rw [Write.withTree, containsRegion_filled hother hname (hnone' _ _ hnodes') hv] at hcontains
      cases hcontains
    · have hfilled : IsFilled name nodes
          ((v.tree.replaceRegions (.filled name nodes)).replaceRegions (.filled other nodes')) :=
        (isFilled_replaceRegions v.tree).replaceRegions_other hname hother hne (hbody _ _ hnodes)
          (hnone _ _ hnodes) (hinside _ _ hnodes') (hnone' _ _ hnodes')
      exact ⟨nodes, hnodes, hfilled.replaceRegions_eq hname (hbody _ _ hnodes)⟩

/-- Filling regions that are up to date changes nothing in writes of what their trees render to. -/
theorem refillRegion_eq_self {commands : List Command}
    (hupToDate : ∀ w ∈ writesOf commands, IsUpToDate name body w)
    (hcontent : ∀ w ∈ writesOf commands, w.content = writeDocument formatted w.tree) :
    refillRegion formatted name body commands = .ok commands := by
  refine mapM_eq_ok_iff.mpr (List.forall₂_same.mpr fun c hc => ?_)
  cases c with
  | delete path => rfl
  | write w =>
    have hw : w ∈ writesOf commands := mem_writesOf.mpr hc
    cases hcontains : w.tree.containsRegion name with
    | false =>
      simp only [hcontains]
      rfl
    | true =>
      obtain ⟨nodes, hnodes, htree⟩ := hupToDate w hw hcontains
      have hsame : w.withTree formatted (w.tree.replaceRegions (.filled name nodes)) = w := by
        rw [htree, Write.withTree, ← hcontent w hw]
      simp only [hcontains, if_true]
      exact bind_eq_ok_iff.mpr ⟨nodes, hnodes, by rw [hsame]; rfl⟩

end

/-! ## 3. What a plan has filled -/

/-- The commands of a plan whose regions have not been filled yet. -/
def unfilledCommands (options : PlanOptions) (root : Path) (steps : List Step) :
    Except NumeralError (List Command) :=
  let merged := mergeCommands (relinkCommands options.formatted steps)
  if options.addsIndexes then addMissingIndexes root merged else pure merged

section

variable {options : PlanOptions} {root : Path} {steps : List Step}
  {commands unfilled indexed : List Command}

theorem settleSteps_eq_ok_iff :
    settleSteps options root steps = .ok commands ↔
      ∃ unfilled indexed, unfilledCommands options root steps = .ok unfilled ∧
        refillIndexes options.formatted unfilled = .ok indexed ∧
        refillContents options.formatted root indexed = .ok commands := by
  cases hadds : options.addsIndexes with
  | true => simp only [settleSteps, unfilledCommands, hadds, if_true, bind_eq_ok_iff,
      exists_and_left]
  | false => simp only [settleSteps, unfilledCommands, hadds, bind_eq_ok_iff, exists_and_left,
      Bool.false_eq_true, if_false]

theorem isUpToDate_of_refilled
    (hindexed : refillIndexes options.formatted unfilled = .ok indexed)
    (hcommands : refillContents options.formatted root indexed = .ok commands) {w : Write}
    (hw : w ∈ writesOf commands) :
    IsUpToDate indexRegion (fun path => createIndex path (writesOf unfilled)) w ∧
      IsUpToDate tocRegion
        (fun path => (createContents root path (writesOf indexed)).map ([·])) w := by
  obtain ⟨between, hbetween, htoc⟩ :=
    exists_of_mem_forall₂ (refilledFrom_of_refillRegion hcommands) hw
  obtain ⟨v, -, hindex⟩ := exists_of_mem_forall₂ (refilledFrom_of_refillRegion hindexed) hbetween
  constructor
  · exact isUpToDate_of_refilled_other indexRegion_mem_regionNames tocRegion_mem_regionNames
      indexRegion_ne_tocRegion (fun _ _ => createIndex_allBranches)
      (fun _ _ => containsRegionAll_createIndex) (fun _ _ => createContents_allBranches)
      (fun _ _ => containsRegionAll_createContents) hindex htoc
  · exact htoc.isUpToDate tocRegion_mem_regionNames fun _ _ => createContents_allBranches

end

/-! ## 4. Planning again

The second plan is followed pass by pass: no document leaves its place, so there are no renames and
no deletes; the links stay; different paths leave nothing to merge; no index is missing; and the
regions are up to date. -/

/-- What a run reads where a plan has written. -/
def Write.asSource (w : Write) : Source := ⟨w.path, w.content⟩

/-- A write as a document in its place. -/
def Write.document (w : Write) : Document := ⟨w.path, w.tree⟩

/-- What an index shows of a document in its place. -/
def Document.listed (d : Document) : Path × Option BoxState := (d.path, d.tree.titleBox?)

theorem map_path_document (writes : List Write) :
    (writes.map Write.document).map Document.path = writes.map Write.path := List.map_map

theorem map_tree_document (writes : List Write) :
    (writes.map Write.document).map Document.tree = writes.map Write.tree := List.map_map

theorem map_listed_document (writes : List Write) :
    (writes.map Write.document).map Document.listed = writes.map Write.listed := List.map_map

/-- Whether a run has nothing to do about a write: nothing in it needs a number, its title leaves it
where it is, and its text is that of its tree. -/
structure Write.Settled (project : ProjectId) (formatted : Bool) (root : Path) (w : Write) :
    Prop where
  numbered : w.tree.Numbered project
  output_eq : outputPath root w.path w.tree.title? = w.path
  content_eq : w.content = writeDocument formatted w.tree

theorem Path.isNormal_of_mem_parents {p directory : Path} (h : p.IsNormal)
    (hparents : directory ∈ p.parents) : directory.IsNormal := by
  obtain ⟨n, -, rfl⟩ := Path.mem_parents_iff.mp hparents
  exact ⟨h.anchor_eq, fun name hname => h.isProper name (List.mem_of_mem_take hname)⟩

section

variable {options : PlanOptions} {root : Path} {commands unfilled indexed : List Command}

theorem addMissingIndexes_eq_self (h : ∀ directory, ¬ LacksIndex root commands directory) :
    addMissingIndexes root commands = .ok commands := by
  have hnone : missingIndexes root commands = [] :=
    List.eq_nil_iff_forall_not_mem.mpr fun directory hdirectory =>
      h directory (mem_missingIndexes_iff.mp hdirectory)
  refine bind_eq_ok_iff.mpr ⟨[], ?_, by rw [List.map_nil, List.append_nil]; rfl⟩
  change naturalSort Path.toList (missingIndexes root commands) = .ok []
  rw [hnone]
  simp [naturalSort, pure_eq_ok_iff]

/-- Which directories lack an index depends on where something is written. -/
theorem LacksIndex.congr {others : List Command} {directory : Path}
    (hpaths : ∀ path, path ∈ (writesOf others).map Write.path ↔
      path ∈ (writesOf commands).map Write.path)
    (h : LacksIndex root others directory) : LacksIndex root commands directory := by
  obtain ⟨⟨w, hw, hparents⟩, hwithin, hnone⟩ := h
  obtain ⟨v, hv, hpath⟩ := List.mem_map.mp ((hpaths w.path).mp (List.mem_map_of_mem hw))
  refine ⟨⟨v, hv, hpath ▸ hparents⟩, hwithin, fun u hu hindex => ?_⟩
  obtain ⟨t, ht, hpath⟩ := List.mem_map.mp ((hpaths u.path).mpr (List.mem_map_of_mem hu))
  exact hnone t ht (hpath.trans hindex)

variable {docs : List Document}

/-- Filling is the same for writes that are listed alike, in any order. -/
theorem isUpToDate_of_perm {out : List Command}
    (hindexed : refillIndexes options.formatted unfilled = .ok indexed)
    (hcommands : refillContents options.formatted root indexed = .ok commands)
    (hdistinct : ((writesOf commands).map Write.path).Nodup)
    (hnormal : ∀ w ∈ writesOf commands, w.path.IsNormal)
    (hlisted : (writesOf commands).map Write.listed = (writesOf unfilled).map Write.listed)
    (hperm : ((writesOf out).map Write.document).Perm ((writesOf commands).map Write.document)) :
    ∀ u ∈ writesOf out, IsUpToDate indexRegion (fun path => createIndex path (writesOf out)) u ∧
      IsUpToDate tocRegion (fun path => (createContents root path (writesOf out)).map ([·])) u := by
  have hsame : (writesOf indexed).map Write.path = (writesOf unfilled).map Write.path :=
    (samePlaces_of_refillRegion hindexed).map_path_writesOf
  have hsame' : (writesOf commands).map Write.path = (writesOf indexed).map Write.path :=
    (samePlaces_of_refillRegion hcommands).map_path_writesOf
  have hpaths : ((writesOf out).map Write.path).Perm ((writesOf commands).map Write.path) := by
    rw [← map_path_document, ← map_path_document]
    exact hperm.map _
  have hlistedOut :
      ((writesOf out).map Write.listed).Perm ((writesOf commands).map Write.listed) := by
    rw [← map_listed_document, ← map_listed_document]
    exact hperm.map _
  have hnormal' : ∀ path ∈ (writesOf commands).map Write.path, path.IsNormal :=
    List.forall_mem_map.mpr hnormal
  rw [hsame'] at hdistinct hpaths hnormal'
  rw [hlisted] at hlistedOut
  intro u hu
  obtain ⟨w, hw, heq⟩ := List.mem_map.mp (hperm.mem_iff.mp (List.mem_map_of_mem hu))
  obtain ⟨hpath, htree⟩ := Document.mk.inj heq
  obtain ⟨hindex, htoc⟩ := isUpToDate_of_refilled hindexed hcommands hw
  have hparent := Path.isNormal_parent (hnormal w hw)
  constructor
  · refine hindex.congr hpath.symm htree.symm fun nodes hnodes => ?_
    rw [hsame] at hdistinct hnormal'
    exact createIndex_of_perm hparent (List.forall_mem_map.mp hnormal') hdistinct hlistedOut hnodes
  · refine htoc.congr hpath.symm htree.symm fun nodes hnodes => ?_
    obtain ⟨contents, hcontents, rfl⟩ := map_eq_ok_iff.mp hnodes
    exact map_eq_ok_iff.mpr ⟨contents,
      createContents_of_perm hparent (List.forall_mem_map.mp hnormal') hpaths hcontents, rfl⟩

/-- Documents in their places, none of which lacks an index, are all that is planned for them
before regions are filled. -/
theorem unfilledCommands_of_inPlace (hdistinct : (docs.map Document.path).Nodup)
    (hplace : ∀ d ∈ docs, d.output root = d.path)
    (hindexes : options.addsIndexes = true → ∀ directory,
      ¬ LacksIndex root (inPlaceCommands options.formatted docs) directory) :
    unfilledCommands options root (stepsOf options.formatted root docs) =
      .ok (inPlaceCommands options.formatted docs) := by
  have hmerged : mergeCommands (relinkCommands options.formatted
      (stepsOf options.formatted root docs)) = inPlaceCommands options.formatted docs :=
    mergedCommands_of_inPlace hdistinct hplace
  rw [unfilledCommands, hmerged]
  cases hadds : options.addsIndexes with
  | true => exact addMissingIndexes_eq_self (hindexes hadds)
  | false => rfl

/-- **What has been filled is planned as it is**: the documents of what a plan has written, in any
order, where each is in its place, no index is missing, and every title has the box with which it
was listed. -/
theorem settleSteps_of_refilled
    (hindexed : refillIndexes options.formatted unfilled = .ok indexed)
    (hcommands : refillContents options.formatted root indexed = .ok commands)
    (hdistinct : ((writesOf commands).map Write.path).Nodup)
    (hnormal : ∀ w ∈ writesOf commands, w.path.IsNormal)
    (hlisted : (writesOf commands).map Write.listed = (writesOf unfilled).map Write.listed)
    (hindexes : options.addsIndexes = true → ∀ directory, ¬ LacksIndex root commands directory)
    (hperm : docs.Perm ((writesOf commands).map Write.document))
    (hplace : ∀ d ∈ docs, d.output root = d.path) :
    settleSteps options root (stepsOf options.formatted root docs) =
      .ok (inPlaceCommands options.formatted docs) := by
  have hwrites := writesOf_inPlaceCommands options.formatted docs
  have hpaths : (docs.map Document.path).Perm ((writesOf commands).map Write.path) := by
    rw [← map_path_document]
    exact hperm.map _
  have hunfilled := unfilledCommands_of_inPlace (hpaths.nodup_iff.mpr hdistinct) hplace
    fun hadds directory hlacks => hindexes hadds directory (hlacks.congr fun path => by
      rw [hwrites, List.map_map]
      exact hpaths.mem_iff)
  have hout : ((writesOf (inPlaceCommands options.formatted docs)).map Write.document).Perm
      ((writesOf commands).map Write.document) := by
    rw [hwrites, List.map_map]
    exact (List.map_id docs).symm ▸ hperm
  have hupToDate := isUpToDate_of_perm hindexed hcommands hdistinct hnormal hlisted hout
  have hcontent : ∀ u ∈ writesOf (inPlaceCommands options.formatted docs),
      u.content = writeDocument options.formatted u.tree := by
    rw [hwrites]
    exact List.forall_mem_map.mpr fun _ _ => rfl
  have hindexed' : refillIndexes options.formatted (inPlaceCommands options.formatted docs) =
      .ok (inPlaceCommands options.formatted docs) :=
    refillRegion_eq_self (fun u hu => (hupToDate u hu).1) hcontent
  exact settleSteps_eq_ok_iff.mpr ⟨_, _, hunfilled, hindexed',
    refillRegion_eq_self (fun u hu => (hupToDate u hu).2) hcontent⟩

/-- What is planned for normal paths is written at normal paths. -/
theorem isNormal_of_write_mem_settled
    (h : settleSteps options root (stepsOf options.formatted root docs) = .ok commands)
    (hnormal : ∀ d ∈ docs, d.path.IsNormal) : ∀ w ∈ writesOf commands, w.path.IsNormal := by
  intro w hw
  rcases exists_of_write_mem_settled h (mem_writesOf.mp hw) with
    ⟨d, hd, hpath⟩ | ⟨directory, -, ⟨d, hd, hparents⟩, hpath⟩
  · rw [← hpath]
    exact isNormal_output (hnormal d hd)
  · rw [← hpath]
    exact Path.isNormal_child
      (Path.isNormal_of_mem_parents (isNormal_output (hnormal d hd)) hparents) isProper_indexName

end

/-- **Planning again for what a plan has written.**  If every write is settled, its text reads back
as its tree, the numbers in the texts can be read, and every title has the box with which it was
listed in the indexes, then what is planned for the writes, in any order, are the same writes and
nothing else, and no number is handed out. -/
theorem planCommands_again {options : PlanOptions} {project : ProjectId} {root : Path}
    {sources again : List Source} {docs : List Document} {commands unfilled : List Command}
    {allocator seed : Allocator}
    (h : planCommands options project.toString root sources = .ok (commands, allocator))
    (hnormal : ∀ s ∈ sources, s.path.IsNormal)
    (hread : ∀ w ∈ writesOf commands, Node.read w.content = w.tree)
    (hsettled : ∀ w ∈ writesOf commands, w.Settled project options.formatted root)
    (hseed : Allocator.ofTrees project.toString ((writesOf commands).map Write.tree) = .ok seed)
    (hdocs : numberSources project.toString sources = .ok (docs, allocator))
    (hunfilled : unfilledCommands options root (stepsOf options.formatted root docs) = .ok unfilled)
    (hlisted : (writesOf commands).map Write.listed = (writesOf unfilled).map Write.listed)
    (hperm : again.Perm ((writesOf commands).map Write.asSource)) :
    planCommands options project.toString root again =
        .ok (again.map fun s => .write (.ofText s.path s.text), seed) ∧ seed.allocated = 0 := by
  obtain ⟨docs', hdocs', hsettle⟩ := planCommands_eq_ok_iff.mp h
  rw [hdocs] at hdocs'
  obtain ⟨rfl, -⟩ := Prod.mk.inj (Except.ok.inj hdocs')
  obtain ⟨unfilled', indexed, hunfilled', hindexed, hcommands⟩ := settleSteps_eq_ok_iff.mp hsettle
  rw [hunfilled] at hunfilled'
  obtain rfl := Except.ok.inj hunfilled'
  have hnormal := isNormal_of_write_mem_settled hsettle
    (forall_path_of_map_path_eq (map_path_of_numberSources hdocs) Path.IsNormal hnormal)
  have hdocument : ∀ w ∈ writesOf commands, w.asSource.document = w.document := by
    intro w hw
    rw [Source.document, Write.asSource, hread w hw, Write.document]
  have hdocuments : (again.map Source.document).Perm ((writesOf commands).map Write.document) := by
    have hcongr := List.map_congr_left hdocument
    rw [← hcongr]
    have := hperm.map Source.document
    rwa [List.map_map] at this
  have hfrom : ∀ s ∈ again, ∃ w ∈ writesOf commands, w.asSource = s := fun s hs =>
    List.mem_map.mp (hperm.mem_iff.mp hs)
  have hnumbered :
      numberSources project.toString again = .ok (again.map Source.document, seed) := by
    refine numberSources_of_numbered (ofTrees_of_perm ?_ hseed) fun s hs => ?_
    · have := hdocuments.map Document.tree
      rwa [map_tree_document, List.map_map] at this
    · obtain ⟨w, hw, rfl⟩ := hfrom s hs
      rw [Write.asSource, hread w hw]
      exact (hsettled w hw).numbered
  have hplace : ∀ d ∈ again.map Source.document, d.output root = d.path := by
    intro d hd
    obtain ⟨w, hw, rfl⟩ := List.mem_map.mp (hdocuments.mem_iff.mp hd)
    exact (hsettled w hw).output_eq
  have hagain := settleSteps_of_refilled hindexed hcommands (nodup_map_path_writesOf hsettle)
    hnormal hlisted (fun hadds _ => not_lacksIndex_of_settleSteps hsettle hadds) hdocuments hplace
  have hwrites : inPlaceCommands options.formatted (again.map Source.document) =
      again.map fun s => .write (.ofText s.path s.text) := by
    rw [inPlaceCommands, List.map_map]
    refine List.map_congr_left fun s hs => ?_
    obtain ⟨w, hw, rfl⟩ := hfrom s hs
    rw [Function.comp_apply, hdocument w hw, Document.inPlace, Write.document, Write.asSource,
      Write.ofText, hread w hw, (hsettled w hw).content_eq]
  rw [hwrites] at hagain
  refine ⟨planCommands_eq_ok_iff.mpr ⟨_, hnumbered, hagain⟩, ?_⟩
  obtain ⟨n, -, rfl⟩ := map_eq_ok_iff.mp hseed
  exact Nat.sub_self n

/-- An index, and a task that has no number yet. -/
def plannedSources : List Source :=
  [⟨.ofString "/n/index.md", "# N\n\n<!-- index -->\n\n<!-- /index -->\n"⟩,
    ⟨.ofString "/n/a.md", "# [ ] Plan\n"⟩]

/-- Their documents. -/
def plannedDocuments : List Document :=
  [⟨.ofString "/n/index.md", .root [.heading Depth.one [.text "N"], .html "<!-- index -->",
      .html "<!-- /index -->"]⟩,
    ⟨.ofString "/n/a.md", .root [.heading Depth.one [.text "[ ] TODO-1 Plan"]]⟩]

/-- The index as it is written. -/
def plannedIndex : Write :=
  .ofText (.ofString "/n/index.md") ("# N\n\n<!-- index -->\n\n## Tasks\n\n" ++
    "- [ ] [TODO-1 Plan](TODO-1%20Plan.md)\n\n<!-- /index -->\n")

/-- The task as it is written, named after its title. -/
def plannedTask : Write :=
  { Write.ofText (.ofString "/n/TODO-1 Plan.md") "# [ ] TODO-1 Plan\n" with
    source := some (.ofString "/n/a.md") }

/-- A plan, given what it writes for the index. -/
def plannedCommands (index : Write) : List Command :=
  [.write index, .write plannedTask, .delete (.ofString "/n/a.md")]

theorem settled_planned : ∀ w ∈ writesOf (plannedCommands plannedIndex),
    w.Settled .default false (.ofString "/n") := by
  have hnumbered : ∀ w ∈ writesOf (plannedCommands plannedIndex),
      numberTree .kept (.startingAt "TODO" 1) w.tree = .ok (w.tree, .startingAt "TODO" 1) := by
    decide +kernel
  have hplace : ∀ w ∈ writesOf (plannedCommands plannedIndex),
      outputPath (.ofString "/n") w.path w.tree.title? = w.path := by
    decide +kernel
  have hcontent : ∀ w ∈ writesOf (plannedCommands plannedIndex),
      w.content = writeDocument false w.tree := by
    decide +kernel
  intro w hw
  exact ⟨(numbered_of_rebuild (rebuild_of_numberTree (hnumbered w hw) rfl) rfl).1, hplace w hw,
    hcontent w hw⟩

/-- The task is numbered and moves, and the index lists it; planning again in the other order gives
the same writes. -/
theorem planCommands_again_plannedSources :
    ∃ commands allocator seed,
      planCommands ⟨false, true⟩ ProjectId.default.toString (.ofString "/n") plannedSources =
        .ok (commands, allocator) ∧ allocator.allocated = 1 ∧
      writesOf commands = [plannedIndex, plannedTask] ∧
      planCommands ⟨false, true⟩ ProjectId.default.toString (.ofString "/n")
          [plannedTask.asSource, plannedIndex.asSource] =
        .ok ([plannedTask.asSource, plannedIndex.asSource].map
          fun s => .write (.ofText s.path s.text), seed) ∧ seed.allocated = 0 := by
  have hdocs : numberSources ProjectId.default.toString plannedSources =
      .ok (plannedDocuments, { project := "TODO", seed := 0, last := 1 }) := by
    decide +kernel
  have h : planCommands ⟨false, true⟩ ProjectId.default.toString (.ofString "/n") plannedSources =
      .ok (plannedCommands plannedIndex, { project := "TODO", seed := 0, last := 1 }) :=
    planCommands_eq_ok_iff.mpr ⟨_, hdocs, by decide +kernel⟩
  have hunfilled : unfilledCommands ⟨false, true⟩ (.ofString "/n")
      (stepsOf false (.ofString "/n") plannedDocuments) =
        .ok (plannedCommands (.ofText (.ofString "/n/index.md")
          "# N\n\n<!-- index -->\n\n<!-- /index -->\n")) := by
    decide +kernel
  have hseed : Allocator.ofTrees ProjectId.default.toString
      ((writesOf (plannedCommands plannedIndex)).map Write.tree) = .ok (.startingAt "TODO" 1) := by
    decide +kernel
  refine ⟨_, _, _, h, rfl, rfl, planCommands_again h (by decide +kernel) (by decide +kernel)
    settled_planned hseed hdocs hunfilled (by decide +kernel) ?_⟩
  exact .swap _ _ _

/-- A document, and another whose title is a link to it. -/
def linkTitleSources : List Source :=
  [⟨.ofString "/n/a.md", "# B\n"⟩, ⟨.ofString "/n/c.md", "# See [a](a.md)\n"⟩]

/-- **Planning again can go on.**  The second document is named after the label of its link, and
then the label follows the first document, which is renamed: what has been written reads back as
it was, and yet one write is deleted and written at another path. -/
theorem planCommands_again_linkTitleSources :
    ∃ commands allocator again seed,
      planCommands ⟨false, false⟩ ProjectId.default.toString (.ofString "/n") linkTitleSources =
        .ok (commands, allocator) ∧
      (∀ w ∈ writesOf commands, Node.read w.content = w.tree) ∧
      planCommands ⟨false, false⟩ ProjectId.default.toString (.ofString "/n")
        ((writesOf commands).map Write.asSource) = .ok (again, seed) ∧
      (writesOf commands).map Write.path = [.ofString "/n/B.md", .ofString "/n/See a.md"] ∧
      (writesOf again).map Write.path = [.ofString "/n/B.md", .ofString "/n/See B.md"] ∧
      .delete (.ofString "/n/See a.md") ∈ again := by
  have h : planCommands ⟨false, false⟩ ProjectId.default.toString (.ofString "/n")
      linkTitleSources =
        .ok ([.write { Write.ofText (.ofString "/n/B.md") "# B\n" with
              source := some (.ofString "/n/a.md") },
            .write { Write.ofText (.ofString "/n/See a.md") "# See [B](B.md)\n" with
              source := some (.ofString "/n/c.md") },
            .delete (.ofString "/n/a.md"), .delete (.ofString "/n/c.md")],
          .startingAt "TODO" 0) := by
    decide +kernel
  refine ⟨_, _, [.write (.ofText (.ofString "/n/B.md") "# B\n"),
      .write { Write.ofText (.ofString "/n/See B.md") "# See [B](B.md)\n" with
        source := some (.ofString "/n/See a.md") },
      .delete (.ofString "/n/See a.md")],
    .startingAt "TODO" 0, h, by decide +kernel, by decide +kernel, rfl, rfl, by decide +kernel⟩

end TaskNotes
