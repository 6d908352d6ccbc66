/-
# A plan for one document

A document can be transformed by itself (`transformText`) or as the only one of a directory
(`planCommands`).  The second way leads through more passes, but on a document without links each
of them is the identity: there is nothing to relink, there is one command for each path, and
without regions there is nothing to fill.  So both write the same text with the same numbers, and
the rest of the plan are the indexes that are added (`planCommands_of_single`).

The condition is on the numbered tree: no links, and no region begins in it.  It cannot be left
out, since a link is written anew when its document moves and a region is filled by a plan and kept
by the other way.

That both ways draw the same numbers has little to do with passes.  A plan for one source seeds its
allocator from the tree of this source and numbers it with that allocator, and so does the other
way.
-/
import TaskNotes.Proofs.FixedPoint
import TaskNotes.Proofs.Outcome
import TaskNotes.Proofs.Sortable
import TaskNotes.Proofs.UpdatedLinks

namespace TaskNotes

/-! ## 1. Numbering one text

Both ways begin with this. -/

/-- The tree of a text with its tasks numbered by itself, and the allocator as it is afterwards. -/
def numberText (name text : String) : Except NumberingError (Node × Allocator) := do
  let allocator ← Allocator.ofTrees name [.read text]
  numberTree .kept allocator (.read text)

/-- Transforming a text is numbering it and writing the tree. -/
theorem transformText_eq (formatted : Bool) (name text : String) :
    transformText formatted name text =
      (numberText name text).map fun numbered => writeDocument formatted numbered.1 := by
  rw [transformText, numberTreeAlone, numberText]
  cases Allocator.ofTrees name [.read text] with
  | error e => rfl
  | ok allocator =>
    change (numberTree .kept allocator (.read text) >>= fun numbered => pure numbered.1).map
      (writeDocument formatted) = (numberTree .kept allocator (.read text)).map _
    cases numberTree .kept allocator (.read text) with
    | error e => rfl
    | ok numbered => rfl

/-- Numbering the only source of a run is numbering its text. -/
theorem numberSources_single_eq_ok_iff {name text : String} {path : Path} {docs : List Document}
    {after : Allocator} :
    numberSources name [⟨path, text⟩] = .ok (docs, after) ↔
      ∃ tree, numberText name text = .ok (tree, after) ∧ docs = [⟨path, tree⟩] := by
  simp only [numberSources, numberText, numberDocuments, List.map_cons, List.map_nil,
    bind_eq_ok_iff, pure_eq_ok_iff, Prod.exists, Prod.mk.injEq]
  constructor
  · rintro ⟨allocator, hallocator, tree, _, htree, _, _, hnil, rfl, rfl⟩
    obtain ⟨rfl, rfl⟩ := Prod.mk.inj (Except.ok.inj hnil)
    exact ⟨tree, ⟨allocator, hallocator, htree⟩, rfl⟩
  · rintro ⟨tree, ⟨allocator, hallocator, htree⟩, rfl⟩
    exact ⟨allocator, hallocator, tree, after, htree, [], after, rfl, rfl, rfl⟩

/-! ## 2. Trees without links

Relinking changes a tree only at its outer links. -/

/-- Whether a node is a link. -/
def Node.isLink : Node → Bool
  | .branch (.link _ _) _ => true
  | _ => false

mutual
/-- A tree without links has no outer ones. -/
theorem outerLinks_eq_nil (tree : Node) (h : ∀ node ∈ tree.preorder, node.isLink = false) :
    tree.outerLinks = [] := by
  match tree with
  | .leaf _ => rfl
  | .branch kind cs =>
    rw [Node.preorder] at h
    have hcs := outerLinksAll_eq_nil cs fun node hnode => h node (List.mem_cons_of_mem _ hnode)
    cases kind with
    | link url title => cases h _ List.mem_cons_self
    | _ => exact hcs

theorem outerLinksAll_eq_nil (cs : List Node)
    (h : ∀ node ∈ Node.preorderAll cs, node.isLink = false) : outerLinksAll cs = [] := by
  match cs with
  | [] => rfl
  | c :: cs =>
    rw [Node.preorderAll] at h
    rw [outerLinksAll,
      outerLinks_eq_nil c fun node hnode => h node (List.mem_append_left _ hnode),
      outerLinksAll_eq_nil cs fun node hnode => h node (List.mem_append_right _ hnode)]
    rfl
end

/-- There is nothing to relink in a tree without links. -/
theorem relink?_eq_none_of_not_isLink {tree : Node}
    (h : ∀ node ∈ tree.preorder, node.isLink = false) (relink : List Char → Relinked) :
    tree.relink? relink = none := by
  rw [relink?_eq_none_iff, outerLinks_eq_nil tree h]
  exact List.forall_mem_nil _

/-! ## 3. The passes

Pass by pass: relinking, merging, adding indexes, and filling the regions of the two names. -/

/-- The new index of a directory, its regions not filled yet. -/
def newIndex (directory : Path) : Write :=
  .ofText (directory.child indexName) (newIndexContent directory)

/-- A write is the index that is added for a directory, filled with what is listed of the writes of
a plan. -/
def IsAddedIndex (formatted : Bool) (root : Path) (writes : List Write) (directory : Path)
    (w : Write) : Prop :=
  ∃ indexed, RefilledFrom formatted indexRegion (fun path => createIndex path writes)
      (newIndex directory) indexed ∧
    RefilledFrom formatted tocRegion (fun path => (createContents root path writes).map ([·]))
      indexed w

section

variable {formatted : Bool} {root : Path} {d : Document}

/-- Without links there is nothing to change for the only document of a run, and there is one
command for each path. -/
theorem writesOf_mergedCommands_single (hlinks : ∀ node ∈ d.tree.preorder, node.isLink = false) :
    writesOf (mergedCommands formatted root [d]) = [d.write formatted root] := by
  have hrelinked : d.relinked formatted root [d] = d.write formatted root := by
    rw [Document.relinked, Write.relink, Document.write_tree, relink?_eq_none_of_not_isLink hlinks]
  have hnodup : ((relinkCommands formatted (stepsOf formatted root [d])).map
      Command.path).Nodup := by
    rw [relinkCommands_stepsOf, List.map_singleton, hrelinked, List.filterMap_cons,
      List.filterMap_nil, Document.delete?]
    split
    next => exact List.nodup_singleton _
    next hmoved =>
      split at hmoved
      next => cases hmoved
      next hne =>
        cases hmoved
        exact List.nodup_cons.mpr ⟨fun hmem => hne (List.mem_singleton.mp hmem),
          List.nodup_singleton _⟩
  rw [mergedCommands, mergeCommands_of_nodup hnodup, writesOf_relinkCommands_stepsOf,
    List.map_singleton, hrelinked]

/-- What is written before regions are filled: the document, and the added indexes. -/
theorem exists_writesOf_unfilledCommands {options : PlanOptions} {unfilled : List Command}
    (hlinks : ∀ node ∈ d.tree.preorder, node.isLink = false)
    (h : unfilledCommands options root (stepsOf options.formatted root [d]) = .ok unfilled) :
    ∃ added : List Path, added.Nodup ∧
      (∀ directory, directory ∈ added ↔ options.addsIndexes = true ∧
        directory ∈ (d.output root).parents ∧ directory.isWithin root = true ∧
          directory.child indexName ≠ d.output root) ∧
      writesOf unfilled = d.write options.formatted root :: added.map newIndex := by
  have hmerged := @writesOf_mergedCommands_single options.formatted root d hlinks
  rw [unfilledCommands] at h
  cases hadds : options.addsIndexes with
  | true =>
    simp only [hadds, if_true] at h
    obtain ⟨added, hsort, h⟩ := bind_eq_ok_iff.mp h
    obtain rfl := pure_eq_ok_iff.mp h
    have hperm : added.Perm (missingIndexes root (mergedCommands options.formatted root [d])) :=
      naturalSort_perm hsort
    refine ⟨added, hperm.nodup_iff.mpr ((nodup_eraseDups _).filter _), fun directory => ?_, ?_⟩
    · rw [hperm.mem_iff, mem_missingIndexes_iff, lacksIndex_merged_iff]
      simp only [List.mem_singleton, exists_eq_left, forall_eq, true_and, ne_comm]
    · have hnew := writesOf_map_write newIndex added
      rw [writesOf_append]
      exact congrArg₂ (· ++ ·) hmerged hnew
  | false =>
    simp only [hadds] at h
    obtain rfl := pure_eq_ok_iff.mp h
    refine ⟨[], List.nodup_nil, fun directory => ?_, hmerged⟩
    simp

/-- A write that is rendered from its tree is left alone where there is no region to fill. -/
theorem RefilledFrom.eq_self {name : String} {body : Path → Except NumeralError (List Node)}
    {v w : Write} (h : RefilledFrom formatted name body v w)
    (hcontent : v.content = writeDocument formatted v.tree)
    (hnone : v.tree.containsRegion name = false) : w = v := by
  rcases h with ⟨-, rfl⟩ | ⟨nodes, -, rfl⟩
  · rfl
  · rw [replaceRegions_of_not_containsRegion hnone, Write.withTree, ← hcontent]

theorem Document.write_content (formatted : Bool) (root : Path) (d : Document) :
    (d.write formatted root).content = writeDocument formatted d.tree := rfl

/-- **What is planned for one document without links and regions**: the document as it is, and the
added indexes, filled. -/
theorem exists_writesOf_settled_single {options : PlanOptions} {commands : List Command}
    (h : settleSteps options root (stepsOf options.formatted root [d]) = .ok commands)
    (hlinks : ∀ node ∈ d.tree.preorder, node.isLink = false)
    (hindex : d.tree.containsRegion indexRegion = false)
    (htoc : d.tree.containsRegion tocRegion = false) :
    ∃ (added : List Path) (others : List Write), added.Nodup ∧
      (∀ directory, directory ∈ added ↔ options.addsIndexes = true ∧
        directory ∈ (d.output root).parents ∧ directory.isWithin root = true ∧
          directory.child indexName ≠ d.output root) ∧
      writesOf commands = d.write options.formatted root :: others ∧
      List.Forall₂ (IsAddedIndex options.formatted root
        (d.write options.formatted root :: added.map newIndex)) added others := by
  obtain ⟨unfilled, indexed, hunfilled, hindexed, hcommands⟩ := settleSteps_eq_ok_iff.mp h
  obtain ⟨added, hnodup, hmem, hwrites⟩ := exists_writesOf_unfilledCommands hlinks hunfilled
  -- a table of contents depends on paths alone, which the first pass keeps
  have hcontents (toc : Path) : createContents root toc (writesOf indexed) =
      createContents root toc (writesOf unfilled) := by
    rw [createContents, createContents,
      (samePlaces_of_refillRegion hindexed).map_path_writesOf]
  have hfirst := refilledFrom_of_refillRegion hindexed
  have hsecond := refilledFrom_of_refillRegion hcommands
  simp only [hcontents, hwrites] at hfirst hsecond
  obtain ⟨v, new, hv, hnew, hindexedWrites⟩ := List.forall₂_cons_left_iff.mp hfirst
  rw [hindexedWrites] at hsecond
  obtain ⟨w, others, hw, hothers, hcommandsWrites⟩ := List.forall₂_cons_left_iff.mp hsecond
  have hv : v = d.write options.formatted root := hv.eq_self (Document.write_content ..) hindex
  rw [hv] at hw
  have hw : w = d.write options.formatted root := hw.eq_self (Document.write_content ..) htoc
  refine ⟨added, others, hnodup, hmem, by rw [hcommandsWrites, hw], ?_⟩
  exact forall₂_of_forall₂_of_forall₂
    (fun _ indexed _ hfirst hsecond => ⟨indexed, hfirst, hsecond⟩)
    (List.forall₂_map_left_iff.mp hnew) hothers

end

/-! ## 4. The same text both ways -/

/-- **Planning one document agrees with transforming it by itself.**  Take a document whose numbered
tree has no links and in which no region begins.  A plan for it alone writes it once, where it
goes, with the text that the document is transformed into by itself; it has drawn as many numbers,
from the same one on; and all else it writes, if the options say so, are the missing indexes of
the directories from the root down in which the document goes, filled. -/
theorem planCommands_of_single {options : PlanOptions} {name : String} {root path : Path}
    {text : String} {commands : List Command} {after alone : Allocator} {tree : Node}
    (hplan : planCommands options name root [⟨path, text⟩] = .ok (commands, after))
    (hnumber : numberText name text = .ok (tree, alone))
    (hlinks : ∀ node ∈ tree.preorder, node.isLink = false)
    (hindex : tree.containsRegion indexRegion = false)
    (htoc : tree.containsRegion tocRegion = false) :
    transformText options.formatted name text = .ok (writeDocument options.formatted tree) ∧
      after.seed = alone.seed ∧ after.allocated = alone.allocated ∧
      ∃ (w : Write) (added : List Path) (others : List Write),
        writesOf commands = w :: others ∧ (∀ v ∈ others, v.path ≠ w.path) ∧
        w.path = outputPath root path tree.title? ∧ w.tree = tree ∧
        w.content = writeDocument options.formatted tree ∧
        added.Nodup ∧ (∀ directory, directory ∈ added ↔ options.addsIndexes = true ∧
          directory ∈ w.path.parents ∧ directory.isWithin root = true ∧
            directory.child indexName ≠ w.path) ∧
        List.Forall₂ (IsAddedIndex options.formatted root (w :: added.map newIndex)) added
          others := by
  obtain ⟨docs, hdocs, hsettle⟩ := planCommands_eq_ok_iff.mp hplan
  obtain ⟨numbered, hnumbered, rfl⟩ := numberSources_single_eq_ok_iff.mp hdocs
  obtain ⟨rfl, rfl⟩ : tree = numbered ∧ alone = after := by
    rw [hnumber] at hnumbered
    exact Prod.mk.inj (Except.ok.inj hnumbered)
  obtain ⟨added, others, hnodup, hmem, hwrites, hothers⟩ :=
    exists_writesOf_settled_single hsettle hlinks hindex htoc
  refine ⟨?_, rfl, rfl, _, added, others, hwrites, ?_, rfl, rfl, rfl, hnodup, hmem, hothers⟩
  · rw [transformText_eq, hnumber]
    rfl
  · have hdistinct := nodup_map_path_writesOf hsettle
    rw [hwrites, List.map_cons, List.nodup_cons] at hdistinct
    rintro v hv hpath
    exact hdistinct.1 (hpath ▸ List.mem_map_of_mem hv)

/-- A document that asks for a number and is named after its title. -/
def askingSource : Source := ⟨.ofString "/n/s/a.md", "# [ ] Plan\n\n- TODO-? b\n"⟩

/-- Its tree, numbered. -/
def askingTree : Node :=
  .root [.heading Depth.one [.text "[ ] TODO-1 Plan"],
    .list false none false [.listItem (some false) false [.paragraph [.text "TODO-2 b"]]]]

theorem numberText_askingSource :
    numberText "TODO" askingSource.text =
      .ok (askingTree, { project := "TODO", seed := 0, last := 2 }) := by
  decide +kernel

/-- It is planned as it is transformed by itself, and two indexes are added. -/
theorem planCommands_of_single_askingSource :
    ∃ commands after, planCommands ⟨true, true⟩ "TODO" (.ofString "/n") [askingSource] =
        .ok (commands, after) ∧ after.allocated = 2 ∧
      ∃ w others, writesOf commands = w :: others ∧ w.path = .ofString "/n/s/TODO-1 Plan.md" ∧
        transformText true "TODO" askingSource.text = .ok w.content ∧
        ∀ v ∈ others, v.path ≠ w.path := by
  obtain ⟨commands, hsettle⟩ : ∃ commands, settleSteps ⟨true, true⟩ (.ofString "/n")
      (stepsOf true (.ofString "/n") [⟨askingSource.path, askingTree⟩]) = .ok commands :=
    exists_settleSteps_of_outputs (by decide +kernel) (by decide +kernel)
  have hplan : planCommands ⟨true, true⟩ "TODO" (.ofString "/n") [askingSource] =
      .ok (commands, { project := "TODO", seed := 0, last := 2 }) :=
    planCommands_eq_ok_iff.mpr ⟨_, numberSources_single_eq_ok_iff.mpr
      ⟨askingTree, numberText_askingSource, rfl⟩, hsettle⟩
  obtain ⟨htext, -, -, w, added, others, hwrites, hother, hpath, -, hcontent, -⟩ :=
    planCommands_of_single hplan numberText_askingSource (by decide +kernel) (by decide +kernel)
      (by decide +kernel)
  refine ⟨commands, _, hplan, rfl, w, others, hwrites, ?_, ?_, hother⟩
  · rw [hpath]
    decide +kernel
  · rw [hcontent]
    exact htext

end TaskNotes
