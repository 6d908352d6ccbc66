/-
# The documents of a run

A run numbers its documents one after the other, and each of them then makes up to three steps: a
delete and a rename when it leaves its path, and a write.  This module tells the two apart.

* `numberDocuments` is the numbering alone; `transformAll` is it, followed by the steps of each
  document (`transformAll_eq_ok_iff`).
* `relinkCommands_stepsOf` gives the commands after links have followed the renames: a write for
  every document, in order, and after them a delete for every document that has left its path.

So what the later passes do can be said in terms of two paths, the one a document comes from and
the one it goes to (`Document.output`).

The two paths of a document are all that moves: its tree is numbered once and then changed by links
and regions only, and its title is read before links are brought up to date.  The later modules
rely on it that the title of a document decides its path before any pass over commands has begun
(`Document.output`).
-/
import TaskNotes.Plan
import TaskNotes.Proofs.Success

namespace TaskNotes

/-! ## 1. Documents -/

/-- A document of a run, its tasks numbered. -/
structure Document where
  path : Path
  tree : Node
deriving DecidableEq

namespace Document

/-- The path a document goes to. -/
def output (root : Path) (d : Document) : Path := outputPath root d.path d.tree.title?

/-- The write of a document, before links are brought up to date. -/
def write (formatted : Bool) (root : Path) (d : Document) : Write :=
  ⟨d.output root, writeDocument formatted d.tree, d.tree,
    if d.output root = d.path then none else some d.path⟩

/-- The delete of a document, if it leaves its path. -/
def delete? (root : Path) (d : Document) : Option Command :=
  if d.output root = d.path then none else some (.delete d.path)

/-- The rename of a document, if it leaves its path. -/
def rename? (root : Path) (d : Document) : Option (Path × Path) :=
  if d.output root = d.path then none else some (d.path, d.output root)

@[simp] theorem write_path (formatted : Bool) (root : Path) (d : Document) :
    (d.write formatted root).path = d.output root := rfl

@[simp] theorem write_tree (formatted : Bool) (root : Path) (d : Document) :
    (d.write formatted root).tree = d.tree := rfl

/-- Links in a document are read from where it was authored. -/
@[simp] theorem write_origin (formatted : Bool) (root : Path) (d : Document) :
    (d.write formatted root).origin = d.path := by
  by_cases h : d.output root = d.path
  · simp [Write.origin, write, h]
  · simp [Write.origin, write, h]

theorem delete?_eq_some_iff {root : Path} {d : Document} {c : Command} :
    d.delete? root = some c ↔ d.output root ≠ d.path ∧ .delete d.path = c := by
  by_cases h : d.output root = d.path
  · simp [delete?, h]
  · simp [delete?, h]

theorem rename?_eq_some_iff {root : Path} {d : Document} {p : Path × Path} :
    d.rename? root = some p ↔ d.output root ≠ d.path ∧ (d.path, d.output root) = p := by
  by_cases h : d.output root = d.path
  · simp [rename?, h]
  · simp [rename?, h]

end Document

/-! ## 2. Numbering apart from the steps

The program makes the steps of a document as soon as its numbers are drawn, and goes on with the
allocator that is left.  The steps have no influence on the allocator, so all numbers can be drawn
first; from here on a run is a list of documents. -/

/-- Numbers documents one after the other with one allocator. -/
def numberDocuments :
    Allocator → List (Path × Node) → Except NumberingError (List Document × Allocator)
  | allocator, [] => .ok ([], allocator)
  | allocator, (path, tree) :: others => do
    let (tree, allocator) ← numberTree .kept allocator tree
    let (later, allocator) ← numberDocuments allocator others
    pure (⟨path, tree⟩ :: later, allocator)

/-- The documents of sources, numbered from the highest number in use on, and the allocator as it
is afterwards. -/
def numberSources (name : String) (sources : List Source) :
    Except NumberingError (List Document × Allocator) := do
  let trees := sources.map fun s => (s.path, Node.read s.text)
  let allocator ← Allocator.ofTrees name (trees.map (·.2))
  numberDocuments allocator trees

/-- The steps of documents. -/
def stepsOf (formatted : Bool) (root : Path) (docs : List Document) : List Step :=
  docs.flatMap fun d => placeDocument formatted root d.path d.tree

/-- **Transforming is numbering, then placing.** -/
theorem transformAll_eq_ok_iff {formatted : Bool} {root : Path} :
    ∀ {trees : List (Path × Node)} {allocator after : Allocator} {steps : List Step},
      transformAll formatted root allocator trees = .ok (steps, after) ↔
        ∃ docs, numberDocuments allocator trees = .ok (docs, after) ∧
          stepsOf formatted root docs = steps
  | [], allocator, after, steps => by
    simp only [transformAll, numberDocuments, Except.ok.injEq, Prod.mk.injEq]
    constructor
    · rintro ⟨rfl, rfl⟩
      exact ⟨[], ⟨rfl, rfl⟩, rfl⟩
    · rintro ⟨docs, ⟨rfl, rfl⟩, rfl⟩
      exact ⟨rfl, rfl⟩
  | (path, tree) :: others, allocator, after, steps => by
    simp only [transformAll, transformDocument, numberDocuments, bind_eq_ok_iff, pure_eq_ok_iff,
      Prod.exists, Prod.mk.injEq]
    constructor
    · rintro ⟨_, _, ⟨numbered, between, hnumbered, rfl, rfl⟩, later, _, hlater, rfl, rfl⟩
      obtain ⟨docs, hdocs, rfl⟩ := transformAll_eq_ok_iff.mp hlater
      exact ⟨⟨path, numbered⟩ :: docs, ⟨_, _, hnumbered, _, _, hdocs, rfl, rfl⟩, rfl⟩
    · rintro ⟨_, ⟨numbered, between, hnumbered, docs, _, hdocs, rfl, rfl⟩, rfl⟩
      have hlater : transformAll formatted root between others =
          .ok (stepsOf formatted root docs, _) := transformAll_eq_ok_iff.mpr ⟨docs, hdocs, rfl⟩
      exact ⟨_, _, ⟨numbered, between, hnumbered, rfl, rfl⟩, _, _, hlater, rfl, rfl⟩

/-- Numbering leaves every document at its path. -/
theorem map_path_of_numberDocuments :
    ∀ {trees : List (Path × Node)} {allocator after : Allocator} {docs : List Document},
      numberDocuments allocator trees = .ok (docs, after) →
        docs.map Document.path = trees.map (·.1)
  | [], _, _, _, h => by
    obtain ⟨rfl, rfl⟩ := Prod.mk.inj (Except.ok.inj h)
    rfl
  | (path, tree) :: others, _, _, _, h => by
    simp only [numberDocuments, bind_eq_ok_iff, pure_eq_ok_iff, Prod.exists, Prod.mk.injEq] at h
    obtain ⟨_, _, -, docs, _, hdocs, rfl, rfl⟩ := h
    rw [List.map_cons, List.map_cons, map_path_of_numberDocuments hdocs]

theorem map_path_of_numberSources {name : String} {sources : List Source} {docs : List Document}
    {after : Allocator} (h : numberSources name sources = .ok (docs, after)) :
    docs.map Document.path = sources.map Source.path := by
  obtain ⟨allocator, -, h⟩ := bind_eq_ok_iff.mp h
  rw [map_path_of_numberDocuments h, List.map_map]
  rfl

/-- What is known of the paths of a run is known of its documents. -/
theorem forall_path_of_map_path_eq {α : Type} {f : α → Path} {as : List α} {docs : List Document}
    (hpaths : docs.map Document.path = as.map f) (property : Path → Prop)
    (h : ∀ a ∈ as, property (f a)) : ∀ d ∈ docs, property d.path := by
  have hall : ∀ path ∈ docs.map Document.path, property path := by
    rw [hpaths]
    exact List.forall_mem_map.mpr h
  exact List.forall_mem_map.mp hall

/-- **A plan settles the steps of its numbered documents.** -/
theorem planCommands_eq_ok_iff {options : PlanOptions} {name : String} {root : Path}
    {sources : List Source} {commands : List Command} {after : Allocator} :
    planCommands options name root sources = .ok (commands, after) ↔
      ∃ docs, numberSources name sources = .ok (docs, after) ∧
        settleSteps options root (stepsOf options.formatted root docs) = .ok commands := by
  simp only [planCommands, numberSources, bind_eq_ok_iff, pure_eq_ok_iff, ofNumeral_eq_ok_iff,
    Prod.exists, Prod.mk.injEq, transformAll_eq_ok_iff]
  constructor
  · rintro ⟨allocator, hallocator, _, _, ⟨docs, hdocs, rfl⟩, _, hsettle, rfl, rfl⟩
    exact ⟨docs, ⟨allocator, hallocator, hdocs⟩, hsettle⟩
  · rintro ⟨docs, ⟨allocator, hallocator, hdocs⟩, hsettle⟩
    exact ⟨allocator, hallocator, _, _, ⟨docs, hdocs, rfl⟩, _, hsettle, rfl, rfl⟩

/-! ## 3. After links have followed the renames

A link is read from where its document was and written from where it goes, with the renames of all
documents.  A document whose links all stay keeps its tree, and the equations below have the same
form for it. -/

/-- The renames of documents. -/
def renamesOf (root : Path) (docs : List Document) : Renames :=
  docs.filterMap (Document.rename? root)

namespace Document

/-- The write of a document of a run, its links brought up to date. -/
def relinked (formatted : Bool) (root : Path) (docs : List Document) (d : Document) : Write :=
  (d.write formatted root).relink formatted (renamesOf root docs)

/-- The tree of a document of a run, its links brought up to date. -/
def relinkedTree (root : Path) (docs : List Document) (d : Document) : Node :=
  (d.tree.relink? (relinkUrl d.path.parent (d.output root).parent (renamesOf root docs))).getD
    d.tree

theorem origin_withTree (formatted : Bool) (w : Write) (tree : Node) :
    (w.withTree formatted tree).origin = w.origin := rfl

theorem relinked_eq (formatted : Bool) (root : Path) (docs : List Document) (d : Document) :
    d.relinked formatted root docs =
      (d.write formatted root).withTree formatted (d.relinkedTree root docs) := by
  unfold relinked relinkedTree Write.relink
  rw [write_origin, write_tree, write_path]
  cases d.tree.relink? _ with
  | none => rfl
  | some tree => rfl

@[simp] theorem relinked_path (formatted : Bool) (root : Path) (docs : List Document)
    (d : Document) : (d.relinked formatted root docs).path = d.output root := by
  rw [relinked_eq]
  rfl

@[simp] theorem relinked_tree (formatted : Bool) (root : Path) (docs : List Document)
    (d : Document) : (d.relinked formatted root docs).tree = d.relinkedTree root docs := by
  rw [relinked_eq]
  rfl

@[simp] theorem relinked_origin (formatted : Bool) (root : Path) (docs : List Document)
    (d : Document) : (d.relinked formatted root docs).origin = d.path := by
  rw [relinked_eq, origin_withTree, write_origin]

/-- The content of a document is the rendering of its tree with its links up to date, whether
any link has changed or not. -/
@[simp] theorem relinked_content (formatted : Bool) (root : Path) (docs : List Document)
    (d : Document) :
    (d.relinked formatted root docs).content =
      writeDocument formatted (d.relinkedTree root docs) := by
  rw [relinked_eq]
  rfl

end Document

theorem filterMap_rename?_placeDocument (formatted : Bool) (root : Path) (d : Document) :
    (placeDocument formatted root d.path d.tree).filterMap Step.rename? =
      (d.rename? root).toList := by
  by_cases h : outputPath root d.path d.tree.title? = d.path
  · simp only [placeDocument, Document.rename?, Document.output, h, if_true]
    rfl
  · simp only [placeDocument, Document.rename?, Document.output, h, if_false]
    rfl

theorem filterMap_command?_placeDocument (formatted : Bool) (root : Path) (d : Document) :
    (placeDocument formatted root d.path d.tree).filterMap Step.command? =
      (d.delete? root).toList ++ [.write (d.write formatted root)] := by
  by_cases h : outputPath root d.path d.tree.title? = d.path
  · simp only [placeDocument, Document.delete?, Document.write, Document.output, h, if_true]
    rfl
  · simp only [placeDocument, Document.delete?, Document.write, Document.output, h, if_false]
    rfl

theorem filterMap_rename?_stepsOf (formatted : Bool) (root : Path) (docs : List Document) :
    (stepsOf formatted root docs).filterMap Step.rename? = renamesOf root docs := by
  induction docs with
  | nil => rfl
  | cons d docs ih =>
    rw [stepsOf, List.flatMap_cons, List.filterMap_append, filterMap_rename?_placeDocument,
      ← stepsOf, ih, renamesOf, renamesOf, List.filterMap_cons]
    cases d.rename? root with
    | none => rfl
    | some p => rfl

theorem writesOf_stepsOf (formatted : Bool) (root : Path) (docs : List Document) :
    writesOf ((stepsOf formatted root docs).filterMap Step.command?) =
      docs.map (Document.write formatted root) := by
  induction docs with
  | nil => rfl
  | cons d docs ih =>
    rw [writesOf] at ih
    rw [stepsOf, List.flatMap_cons, List.filterMap_append, filterMap_command?_placeDocument,
      ← stepsOf, writesOf, List.filterMap_append, ih, List.map_cons]
    unfold Document.delete?
    split
    · rfl
    · rfl

theorem filter_isDelete_stepsOf (formatted : Bool) (root : Path) (docs : List Document) :
    ((stepsOf formatted root docs).filterMap Step.command?).filter Command.isDelete =
      docs.filterMap (Document.delete? root) := by
  induction docs with
  | nil => rfl
  | cons d docs ih =>
    rw [stepsOf, List.flatMap_cons, List.filterMap_append, filterMap_command?_placeDocument,
      ← stepsOf, List.filter_append, ih, List.filterMap_cons]
    unfold Document.delete?
    split
    · rfl
    · rfl

/-- **A write for every document, then a delete for every document that has left its path.** -/
theorem relinkCommands_stepsOf (formatted : Bool) (root : Path) (docs : List Document) :
    relinkCommands formatted (stepsOf formatted root docs) =
      docs.map (fun d => .write (d.relinked formatted root docs)) ++
        docs.filterMap (Document.delete? root) := by
  simp only [relinkCommands, filterMap_rename?_stepsOf, writesOf_stepsOf, filter_isDelete_stepsOf,
    List.map_map]
  rfl

end TaskNotes
