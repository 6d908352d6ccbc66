/-
# Content and tree

A write holds what it writes twice: as the text that goes to the disk, and as the tree that the
later passes of a plan read.  The two agree if the content is what is written for the tree, or the
tree is what is read from the content (`Write.Agrees`); either way the tree describes the text.

A plan goes through six lists of commands, one after each of its passes (`AfterPass`), and each
pass makes its writes of those before it and keeps the two together.  So the writes agree after
every pass, also after the passes of a plan that fails later (`agrees_after_passes`).

What the proof has to watch is that no pass changes one of the two alone.  Numbering writes the
tree of a document for the first time; passes that change a tree, which are the links and the
regions, write its content anew (`Write.withTree`).  Passes that make a text, which are the merging
of several contents and the new indexes, read its tree from it (`Write.ofText`).  So there are two
ways to make a write, and these are the two sides of the disjunction.  A later pass may lead from
one side to the other; which side holds is not kept track of, since nothing that reads a tree asks
for it.
-/
import TaskNotes.Proofs.FixedPoint

namespace TaskNotes

/-! ## 1. Writes that agree -/

/-- Whether content and tree of a write belong together: one of the two has been made of the other,
by writing or by reading. -/
def Write.Agrees (formatted : Bool) (w : Write) : Prop :=
  w.content = writeDocument formatted w.tree ∨ w.tree = .read w.content

/-- Whether content and tree belong together in all writes among commands. -/
def AllAgree (formatted : Bool) (commands : List Command) : Prop :=
  ∀ w ∈ writesOf commands, w.Agrees formatted

section

variable {formatted : Bool} {root path : Path} {commands others out : List Command} {w : Write}

theorem Write.agrees_withTree (w : Write) (tree : Node) :
    (w.withTree formatted tree).Agrees formatted := .inl rfl

theorem Write.agrees_ofText (path : Path) (content : String) :
    (Write.ofText path content).Agrees formatted := .inr rfl

theorem AllAgree.append (h : AllAgree formatted commands) (hothers : AllAgree formatted others) :
    AllAgree formatted (commands ++ others) := by
  intro w hw
  rw [writesOf_append] at hw
  rcases List.mem_append.mp hw with hw | hw
  · exact h w hw
  · exact hothers w hw

/-! ## 2. One pass

One lemma for each pass.  A pass either leaves a write as it is, and then it agrees because it did
before, or makes it by `Write.withTree` or `Write.ofText`, and then it agrees whatever it was made
of. -/

theorem Write.Agrees.relink (h : w.Agrees formatted) (renames : Renames) :
    (w.relink formatted renames).Agrees formatted := by
  rw [Write.relink]
  split
  · exact w.agrees_withTree _
  · exact h

/-- What is written for a numbered document is its rendering. -/
theorem allAgree_placeDocument (root input : Path) (tree : Node) :
    AllAgree formatted ((placeDocument formatted root input tree).filterMap Step.command?) := by
  rw [filterMap_command?_placeDocument formatted root ⟨input, tree⟩]
  intro w hw
  rcases List.mem_append.mp (mem_writesOf.mp hw) with hdelete | hwrite
  · obtain ⟨-, hdelete⟩ := Document.delete?_eq_some_iff.mp (Option.mem_toList.mp hdelete)
    cases hdelete
  · obtain rfl := Command.write.inj (List.mem_singleton.mp hwrite)
    exact .inl rfl

theorem allAgree_stepsOf (root : Path) (docs : List Document) :
    AllAgree formatted ((stepsOf formatted root docs).filterMap Step.command?) := by
  induction docs with
  | nil => exact List.forall_mem_nil _
  | cons d docs ih =>
    rw [stepsOf, List.flatMap_cons, List.filterMap_append]
    exact (allAgree_placeDocument root d.path d.tree).append ih

theorem allAgree_relinkCommands {steps : List Step}
    (h : AllAgree formatted (steps.filterMap Step.command?)) :
    AllAgree formatted (relinkCommands formatted steps) := by
  refine AllAgree.append ?_ ?_
  · intro w hw
    rw [writesOf_map_write] at hw
    obtain ⟨v, hv, rfl⟩ := List.mem_map.mp hw
    exact (h v hv).relink _
  · intro w hw
    exact h w (mem_writesOf.mpr (List.mem_of_mem_filter (mem_writesOf.mp hw)))

/-- What is left of the commands about a path is one of the writes among them, or it is written
anew as a text, when there is more than one content. -/
theorem mem_writesOf_mergeGroup {group : List Command}
    (h : w ∈ writesOf (mergeGroup path group)) :
    w ∈ writesOf group ∨ ∃ content, w = .ofText path content := by
  unfold mergeGroup at h
  split at h
  next => cases h
  next => exact .inl h
  next first second others hnone =>
    refine .inl (mem_writesOf.mpr ?_)
    rw [List.mem_singleton.mp (mem_writesOf.mp h)]
    exact List.mem_cons_self
  next first second others v writes hwrites =>
    split at h
    · rw [hwrites, Command.write.inj (List.mem_singleton.mp (mem_writesOf.mp h))]
      exact .inl List.mem_cons_self
    · exact .inr ⟨_, Command.write.inj (List.mem_singleton.mp (mem_writesOf.mp h))⟩

theorem AllAgree.mergeCommands (h : AllAgree formatted commands) :
    AllAgree formatted (mergeCommands commands) := by
  intro w hw
  obtain ⟨path, -, hgroup⟩ := mem_mergeCommands_iff.mp (mem_writesOf.mp hw)
  rcases mem_writesOf_mergeGroup (mem_writesOf.mpr hgroup) with hw | ⟨content, rfl⟩
  · exact h w (mem_writesOf.mpr (mem_commandsAt.mp (mem_writesOf.mp hw)).1)
  · exact Write.agrees_ofText path content

theorem AllAgree.addMissingIndexes (h : AllAgree formatted commands)
    (hout : addMissingIndexes root commands = .ok out) : AllAgree formatted out := by
  obtain ⟨added, -, hout⟩ := bind_eq_ok_iff.mp hout
  obtain rfl := pure_eq_ok_iff.mp hout
  refine h.append fun w hw => ?_
  rw [writesOf_map_write] at hw
  obtain ⟨directory, -, rfl⟩ := List.mem_map.mp hw
  exact Write.agrees_ofText _ _

theorem AllAgree.refillRegion {name : String} {body : Path → Except NumeralError (List Node)}
    (h : AllAgree formatted commands) (hout : refillRegion formatted name body commands = .ok out) :
    AllAgree formatted out := by
  intro w hw
  obtain ⟨v, hv, hfilled⟩ := exists_of_mem_forall₂ (refilledFrom_of_refillRegion hout) hw
  rcases hfilled with ⟨-, rfl⟩ | ⟨nodes, -, rfl⟩
  · exact h w hv
  · exact v.agrees_withTree _

end

/-! ## 3. All passes

`AfterPass` follows the recursion of no function: it lists the commands that stand between two
passes, so that something can be said of them although a plan gives only the last.  That it is the
plan which is described is the last part of the theorem, an equivalence. -/

/-- The passes of a plan, in their order. -/
inductive PlanPass
  | numbering
  | links
  | merging
  | missingIndexes
  | indexes
  | contents
deriving DecidableEq, Repr

/-- The commands that a plan for documents has after each of its passes. -/
inductive AfterPass (options : PlanOptions) (name : String) (root : Path) (sources : List Source) :
    PlanPass → List Command → Prop
  | numbering {docs : List Document} {allocator : Allocator}
      (h : numberSources name sources = .ok (docs, allocator)) :
      AfterPass options name root sources .numbering
        ((stepsOf options.formatted root docs).filterMap Step.command?)
  | links {docs : List Document} {allocator : Allocator}
      (h : numberSources name sources = .ok (docs, allocator)) :
      AfterPass options name root sources .links
        (relinkCommands options.formatted (stepsOf options.formatted root docs))
  | merging {commands : List Command} (h : AfterPass options name root sources .links commands) :
      AfterPass options name root sources .merging (mergeCommands commands)
  | noIndexes {commands : List Command} (h : AfterPass options name root sources .merging commands)
      (hadds : options.addsIndexes = false) :
      AfterPass options name root sources .missingIndexes commands
  | missingIndexes {commands out : List Command}
      (h : AfterPass options name root sources .merging commands)
      (hadds : options.addsIndexes = true) (hout : addMissingIndexes root commands = .ok out) :
      AfterPass options name root sources .missingIndexes out
  | indexes {commands out : List Command}
      (h : AfterPass options name root sources .missingIndexes commands)
      (hout : refillIndexes options.formatted commands = .ok out) :
      AfterPass options name root sources .indexes out
  | contents {commands out : List Command}
      (h : AfterPass options name root sources .indexes commands)
      (hout : refillContents options.formatted root commands = .ok out) :
      AfterPass options name root sources .contents out

section

variable {options : PlanOptions} {name : String} {root : Path} {sources : List Source}
  {commands : List Command}

theorem AfterPass.allAgree {pass : PlanPass}
    (h : AfterPass options name root sources pass commands) :
    AllAgree options.formatted commands := by
  induction h with
  | numbering _ => exact allAgree_stepsOf root _
  | links _ => exact allAgree_relinkCommands (allAgree_stepsOf root _)
  | merging _ ih => exact ih.mergeCommands
  | noIndexes _ _ ih => exact ih
  | missingIndexes _ _ hout ih => exact ih.addMissingIndexes hout
  | indexes _ hout ih => exact ih.refillRegion hout
  | contents _ hout ih => exact ih.refillRegion hout

theorem afterPass_merging_iff :
    AfterPass options name root sources .merging commands ↔
      ∃ docs allocator, numberSources name sources = .ok (docs, allocator) ∧
        mergeCommands (relinkCommands options.formatted (stepsOf options.formatted root docs)) =
          commands := by
  constructor
  · intro h
    cases h with
    | merging h =>
      cases h with
      | links hdocs => exact ⟨_, _, hdocs, rfl⟩
  · rintro ⟨docs, allocator, hdocs, rfl⟩
    exact .merging (.links hdocs)

theorem afterPass_missingIndexes_iff :
    AfterPass options name root sources .missingIndexes commands ↔
      ∃ docs allocator, numberSources name sources = .ok (docs, allocator) ∧
        unfilledCommands options root (stepsOf options.formatted root docs) = .ok commands := by
  simp only [unfilledCommands]
  constructor
  · intro h
    cases h with
    | noIndexes hmerging hadds =>
      obtain ⟨docs, allocator, hdocs, rfl⟩ := afterPass_merging_iff.mp hmerging
      refine ⟨docs, allocator, hdocs, ?_⟩
      rw [hadds]
      rfl
    | missingIndexes hmerging hadds hout =>
      obtain ⟨docs, allocator, hdocs, rfl⟩ := afterPass_merging_iff.mp hmerging
      refine ⟨docs, allocator, hdocs, ?_⟩
      rw [hadds]
      exact hout
  · rintro ⟨docs, allocator, hdocs, hmissing⟩
    have hmerging : AfterPass options name root sources .merging _ := .merging (.links hdocs)
    cases hadds : options.addsIndexes with
    | true =>
      rw [hadds, if_pos rfl] at hmissing
      exact .missingIndexes hmerging hadds hmissing
    | false =>
      rw [hadds, if_neg Bool.false_ne_true] at hmissing
      obtain rfl := pure_eq_ok_iff.mp hmissing
      exact .noIndexes hmerging hadds

/-- A plan is what there is after the last pass. -/
theorem afterPass_contents_iff :
    AfterPass options name root sources .contents commands ↔
      ∃ allocator, planCommands options name root sources = .ok (commands, allocator) := by
  simp only [planCommands_eq_ok_iff, settleSteps_eq_ok_iff]
  constructor
  · intro h
    cases h with
    | contents h hcontents =>
      cases h with
      | indexes h hindexed =>
        obtain ⟨docs, allocator, hdocs, hmissing⟩ := afterPass_missingIndexes_iff.mp h
        exact ⟨allocator, docs, hdocs, _, _, hmissing, hindexed, hcontents⟩
  · rintro ⟨allocator, docs, hdocs, _, _, hmissing, hindexed, hcontents⟩
    exact .contents (.indexes (afterPass_missingIndexes_iff.mpr
      ⟨docs, allocator, hdocs, hmissing⟩) hindexed) hcontents

end

/-- **Content and tree never drift apart.**  In the commands after each pass of a plan, of which
those after the last are the plan, the content of every write is what is written for its tree, or
its tree is what is read from its content. -/
theorem agrees_after_passes (options : PlanOptions) (name : String) (root : Path)
    (sources : List Source) :
    (∀ pass commands, AfterPass options name root sources pass commands →
      ∀ w ∈ writesOf commands,
        w.content = writeDocument options.formatted w.tree ∨ w.tree = .read w.content) ∧
      ∀ commands, AfterPass options name root sources .contents commands ↔
        ∃ allocator, planCommands options name root sources = .ok (commands, allocator) :=
  ⟨fun _ _ h => h.allAgree, fun _ => afterPass_contents_iff⟩

/-- Two documents of one title, one of which links to the other. -/
def namesakeSources : List Source :=
  [⟨.ofString "/n/a.md", "# T"⟩, ⟨.ofString "/n/b.md", "# T\n\n[a](a.md)"⟩]

/-- Its documents, in which there is nothing to number. -/
def namesakeDocuments : List Document :=
  [⟨.ofString "/n/a.md", .root [.heading .one [.text "T"]]⟩,
    ⟨.ofString "/n/b.md", .root [.heading .one [.text "T"],
      .paragraph [.link "a.md" none [.text "a"]]]⟩]

theorem numberSources_namesakeSources :
    numberSources "TODO" namesakeSources =
      .ok (namesakeDocuments, .startingAt "TODO" 0) := by
  decide +kernel

/-- The link is brought up to date, the documents become one, and an index is added and filled. -/
theorem agrees_after_passes_namesakeSources :
    ∃ commands,
      AfterPass ⟨false, true⟩ "TODO" (.ofString "/n") namesakeSources .contents commands ∧
      ∀ w ∈ writesOf commands,
        w.content = writeDocument false w.tree ∨ w.tree = .read w.content := by
  have hsettle : ∃ commands, settleSteps ⟨false, true⟩ (.ofString "/n")
      (stepsOf false (.ofString "/n") namesakeDocuments) = .ok commands :=
    exists_settleSteps_of_outputs (by decide +kernel) (by decide +kernel)
  obtain ⟨commands, hsettle⟩ := hsettle
  have hlast := afterPass_contents_iff.mpr
    ⟨_, planCommands_eq_ok_iff.mpr ⟨_, numberSources_namesakeSources, hsettle⟩⟩
  exact ⟨commands, hlast, (agrees_after_passes _ _ _ _).1 _ _ hlast⟩

end TaskNotes
