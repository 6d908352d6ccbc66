/-
# Merging as an operation on commands

What a list of commands does to a path is its fate there (`fateAt?`): nothing, a delete, or the
content that is written.  Merging is told by the fates of its result (`fateAt?_mergeCommands`), and
these depend on which commands there are and not on their order.  `mergeCommands_merges` puts
together what merging is: one command for each path in the order in which the paths come first, the
same fates for every order of the commands, a write of all contents where something is written, and
no change the second time.

The contents of a path are put in order and taken once each, so only the set of them counts; a
permutation of the commands has the same set.  The order of the result does depend on the order of
the commands, and so independence of it is stated path by path: a map from paths to fates is the
same for all orders.

That merged commands stay as they are follows from having one command for each path: a group with
one member leaves this member.
-/
import TaskNotes.Proofs.Merge
import Mathlib.Data.List.Perm.Basic

namespace TaskNotes

/-! ## 1. Orders

Being in strict order and having certain members determines a list of texts. -/

/-- **Texts are put in order, each once.** -/
theorem pairwise_sortUnique (texts : List (List Char)) : (sortUnique texts).Pairwise (· < ·) := by
  have hsorted : (texts.mergeSort fun a b => (compare a b).isLE).Pairwise
      fun a b => (compare a b).isLE = true := by
    refine List.pairwise_mergeSort (fun a b c => Std.TransCmp.isLE_trans) (fun a b => ?_) texts
    have hswap : compare b a = (compare a b).swap := Std.OrientedCmp.eq_swap
    rw [hswap]
    cases compare a b <;> rfl
  refine ((hsorted.sublist (eraseDups_sublist _)).and (nodup_eraseDups _)).imp ?_
  rintro a b ⟨hle, hne⟩
  rw [← compare_eq_lt_iff]
  cases h : compare a b with
  | lt => rfl
  | eq => exact absurd (Std.LawfulEqOrd.eq_of_compare h) hne
  | gt => simp [h] at hle

/-- Texts in order are told by which texts they are. -/
theorem sortUnique_congr {texts others : List (List Char)}
    (h : ∀ text, text ∈ texts ↔ text ∈ others) : sortUnique texts = sortUnique others := by
  have hperm : (sortUnique texts).Perm (sortUnique others) := by
    refine (List.perm_ext_iff_of_nodup (nodup_eraseDups _) (nodup_eraseDups _)).mpr fun text => ?_
    exact (mem_sortUnique.trans (h text)).trans mem_sortUnique.symm
  exact hperm.eq_of_pairwise (fun a b _ _ hab hba => absurd hba (List.lt_asymm hab))
    (pairwise_sortUnique texts) (pairwise_sortUnique others)

/-! ## 2. What becomes of a path

A path has the fate that the first command about it gives it.  For merged commands there is no
other. -/

/-- What becomes of a file. -/
inductive Fate
  | deleted
  | written (content : String)
deriving DecidableEq, Repr

/-- What a command makes of the file it is about. -/
def Command.fate : Command → Fate
  | .write w => .written w.content
  | .delete _ => .deleted

/-- What commands make of a path, if one of them is about it. -/
def fateAt? (commands : List Command) (path : Path) : Option Fate :=
  (commands.find? fun c => c.path == path).map Command.fate

section

variable {commands others : List Command} {path : Path} {c : Command}

theorem fateAt?_eq_none_iff : fateAt? commands path = none ↔ path ∉ commands.map Command.path := by
  simp [fateAt?]

/-- Where there is one command for each path, it says what becomes of its path. -/
theorem fateAt?_of_mem (hnodup : (commands.map Command.path).Nodup) (hc : c ∈ commands) :
    fateAt? commands c.path = some c.fate := by
  cases hfound : commands.find? fun d => d.path == c.path with
  | none => exact absurd (List.find?_eq_none.mp hfound c hc) (by simp)
  | some d =>
    have hpath : d.path = c.path := by simpa using List.find?_some hfound
    have hd : d = c := List.inj_on_of_nodup_map hnodup (List.mem_of_find?_eq_some hfound) hc hpath
    rw [fateAt?, hfound, hd]
    rfl

theorem contentsAt_eq_nil_iff : contentsAt path commands = [] ↔
    ∀ w ∈ writesOf commands, w.path ≠ path := by
  simp [contentsAt, List.filter_eq_nil_iff]

theorem mem_contentsAt {text : List Char} : text ∈ contentsAt path commands ↔
    ∃ w, .write w ∈ commands ∧ w.path = path ∧ w.content.toList = text := by
  simp [contentsAt, mem_writesOf, and_assoc]

/-- **Merged commands write all contents of a path**, and delete where there are none. -/
theorem fateAt?_mergeCommands (hpath : path ∈ commands.map Command.path) :
    fateAt? (mergeCommands commands) path =
      if contentsAt path commands = [] then some .deleted
      else some (.written (String.ofList (joinLines (sortUnique (contentsAt path commands))))) := by
  have hnodup := nodup_map_path_mergeCommands commands
  split
  next hnone =>
    obtain ⟨c, hc, rfl⟩ := List.mem_map.mp hpath
    rw [contentsAt_eq_nil_iff] at hnone
    cases c with
    | write w => exact absurd rfl (hnone w (mem_writesOf.mpr hc))
    | delete path =>
      exact fateAt?_of_mem hnodup (delete_mem_mergeCommands_iff.mpr ⟨hc, hnone⟩)
  next hsome =>
    rw [contentsAt_eq_nil_iff] at hsome
    push Not at hsome
    obtain ⟨w, hw, rfl⟩ := hsome
    obtain ⟨v, hv, hvpath, hcontent⟩ := exists_write_mem_mergeCommands hw
    have hfate := fateAt?_of_mem hnodup hv
    rw [Command.path, hvpath] at hfate
    rw [hfate, Command.fate, ← hcontent, String.ofList_toList]

theorem contentsAt_perm (h : others.Perm commands) :
    (contentsAt path others).Perm (contentsAt path commands) :=
  ((h.filterMap _).filter _).map _

/-- **What becomes of a path does not depend on the order of the commands.** -/
theorem fateAt?_mergeCommands_of_perm (h : others.Perm commands) (path : Path) :
    fateAt? (mergeCommands others) path = fateAt? (mergeCommands commands) path := by
  have hpaths : path ∈ others.map Command.path ↔ path ∈ commands.map Command.path :=
    (h.map Command.path).mem_iff
  have hcontents : (contentsAt path others).Perm (contentsAt path commands) := contentsAt_perm h
  by_cases hpath : path ∈ commands.map Command.path
  · rw [fateAt?_mergeCommands hpath, fateAt?_mergeCommands (hpaths.mpr hpath),
      sortUnique_congr fun text => hcontents.mem_iff]
    simp only [← List.length_eq_zero_iff, hcontents.length_eq]
  · have hnone : ∀ {commands : List Command}, path ∉ commands.map Command.path →
        fateAt? (mergeCommands commands) path = none := by
      intro commands hnot
      rwa [fateAt?_eq_none_iff, map_path_mergeCommands, List.mem_eraseDups]
    rw [hnone hpath, hnone (hpaths.not.mpr hpath)]

end

/-! ## 3. What merging is -/

/-- What is left of commands when they are merged. -/
structure IsMerged (commands merged : List Command) : Prop where
  /-- The paths are those of the commands. -/
  paths : ∀ path, path ∈ merged.map Command.path ↔ path ∈ commands.map Command.path
  /-- Each of them has one command, in the order in which they come first. -/
  ordered : (merged.map Command.path).Pairwise fun p q =>
    (commands.map Command.path).idxOf p < (commands.map Command.path).idxOf q
  /-- A path is written where some command writes it. -/
  written : ∀ path, (∃ w, .write w ∈ merged ∧ w.path = path) ↔
    ∃ w, .write w ∈ commands ∧ w.path = path
  /-- Its content is made of the contents that are written there, sorted, each once, line after
  line. -/
  content : ∀ w, .write w ∈ merged → ∃ texts : List (List Char), texts.Pairwise (· < ·) ∧
    (∀ text, text ∈ texts ↔ ∃ v, .write v ∈ commands ∧ v.path = w.path ∧ v.content.toList = text) ∧
      w.content.toList = joinLines texts

theorem isMerged_mergeCommands (commands : List Command) :
    IsMerged commands (mergeCommands commands) where
  paths path := by rw [map_path_mergeCommands, List.mem_eraseDups]
  ordered := by
    rw [map_path_mergeCommands]
    exact pairwise_idxOf_eraseDups _
  written path := by
    constructor
    · rintro ⟨v, hv, rfl⟩
      obtain ⟨w, hw, hpath⟩ := exists_path_eq_of_write_mem_mergeCommands hv
      exact ⟨w, mem_writesOf.mp hw, hpath⟩
    · rintro ⟨w, hw, rfl⟩
      obtain ⟨v, hv, hpath, -⟩ := exists_write_mem_mergeCommands (mem_writesOf.mpr hw)
      exact ⟨v, hv, hpath⟩
  content v hv := by
    obtain ⟨w, hw, hpath⟩ := exists_path_eq_of_write_mem_mergeCommands hv
    obtain ⟨u, hu, hupath, hcontent⟩ := exists_write_mem_mergeCommands hw
    have huv : (.write u : Command) = .write v :=
      List.inj_on_of_nodup_map (nodup_map_path_mergeCommands commands) hu hv (hupath.trans hpath)
    cases huv
    refine ⟨_, pairwise_sortUnique _, fun text => ?_, hcontent⟩
    rw [mem_sortUnique, mem_contentsAt, hpath]

/-- **Merging is well defined.**  One command is left for each path, in the order in which the
paths come first; a path is written exactly where some command writes it, with all contents that
are written there; what becomes of each path is the same for every order of the commands; and
merged commands are merged already. -/
theorem mergeCommands_merges (commands : List Command) :
    IsMerged commands (mergeCommands commands) ∧
      (∀ others : List Command, others.Perm commands → ∀ path,
        fateAt? (mergeCommands others) path = fateAt? (mergeCommands commands) path) ∧
      mergeCommands (mergeCommands commands) = mergeCommands commands :=
  ⟨isMerged_mergeCommands commands, fun _ h path => fateAt?_mergeCommands_of_perm h path,
    mergeCommands_of_nodup (nodup_map_path_mergeCommands commands)⟩

/-- Commands of which two write one path differently, a third deletes it, and others agree. -/
def clashingCommands : List Command :=
  [.delete (.ofString "/n/a"), .write (.ofText (.ofString "/n/a") "y"),
    .write (.ofText (.ofString "/n/b") "z"), .delete (.ofString "/n/c"),
    .write (.ofText (.ofString "/n/a") "x"), .write (.ofText (.ofString "/n/b") "z"),
    .delete (.ofString "/n/c")]

/-- They can be merged in the other order too. -/
theorem mergeCommands_merges_clashingCommands :
    clashingCommands.reverse.Perm clashingCommands ∧
      IsMerged clashingCommands (mergeCommands clashingCommands) ∧
      fateAt? (mergeCommands clashingCommands.reverse) (.ofString "/n/a") =
        some (.written "x\ny") ∧
      fateAt? (mergeCommands clashingCommands.reverse) (.ofString "/n/b") = some (.written "z") ∧
      fateAt? (mergeCommands clashingCommands.reverse) (.ofString "/n/c") = some .deleted := by
  obtain ⟨hmerged, hperm, -⟩ := mergeCommands_merges clashingCommands
  have hreverse : clashingCommands.reverse.Perm clashingCommands := List.reverse_perm _
  have hclash : contentsAt (.ofString "/n/a") clashingCommands = [['y'], ['x']] := by
    decide +kernel
  have hagree : contentsAt (.ofString "/n/b") clashingCommands = [['z'], ['z']] := by
    decide +kernel
  have hnone : contentsAt (.ofString "/n/c") clashingCommands = [] := by decide +kernel
  have hsorted : sortUnique [['y'], ['x']] = [['x'], ['y']] := by
    rw [sortUnique_congr (fun text => List.Perm.mem_iff (List.Perm.swap ['x'] ['y'] [])),
      sortUnique, List.mergeSort_of_pairwise (by decide)]
    decide
  have honce : sortUnique [['z'], ['z']] = [['z']] := by
    rw [sortUnique, List.mergeSort_of_pairwise (by decide)]
    decide
  refine ⟨hreverse, hmerged, ?_, ?_, ?_⟩
  · rw [hperm _ hreverse, fateAt?_mergeCommands (by decide +kernel), hclash, hsorted]
    decide +kernel
  · rw [hperm _ hreverse, fateAt?_mergeCommands (by decide +kernel), hagree, honce]
    decide +kernel
  · rw [hperm _ hreverse, fateAt?_mergeCommands (by decide +kernel), hnone]
    rfl

end TaskNotes
