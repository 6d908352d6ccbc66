/-
# Links follow renamed files

A link refers to a file by a path, and the path is resolved against the directory of the document
it stands in.  When a run renames files, documents and the targets of their links move
independently of each other; the theorem is that links keep up (`LinkFollows`): resolved against
the directory a document goes to, its link leads to where the target has gone, or to the target
itself when that is no document of the run.

For one URL this is `exists_refersTo_relinkUrl`, where the new URL is the old one in all cases in
which that is right already.  `outerLinks_getD_relink?` carries it over to trees.

The directory that a document was authored in resolves its links, even if the document itself
moves.  So there are two directories for each link, and two kinds of targets, and the same theorem
covers all four cases: a link of a document that stays to a file that moves has to be changed as
much as a link of a document that moves to a file that stays.

Links that do not refer to a file are not spoken of here; which ones change at all, and how, is
told in `Proofs/UpdatedLinks`.
-/
import TaskNotes.Proofs.Percent
import TaskNotes.Proofs.Places
import TaskNotes.Proofs.Resolve

namespace TaskNotes

/-! ## 1. Targets

The renames are those documents that go elsewhere.  As paths are distinct, the first rename that is
found for a path is the one. -/

theorem fileReference?_eq_some_iff {url path suffix : List Char} :
    fileReference? url = some (path, suffix) ↔ RefersTo url path suffix := by
  unfold fileReference?
  constructor
  · intro h
    split at h
    next => cases h
    next hrefers =>
      simp only [Bool.or_eq_true, not_or, Bool.not_eq_true] at hrefers
      simp only at h
      split at h
      next => cases h
      next hhead =>
        split at h
        next decoded hdecodes =>
          obtain ⟨rfl, rfl⟩ := Prod.mk.inj (Option.some.inj h)
          refine ⟨hrefers.1.2, hrefers.2, rfl, ?_, hdecodes⟩
          intro hnil
          rw [hnil] at hhead
          exact hhead rfl
        next => cases h
  · intro h
    have hempty : url.isEmpty = false := by
      cases url with
      | nil => exact absurd rfl h.head_ne_nil
      | cons c url => rfl
    have hhead : (splitSuffix url).1.isEmpty = false := List.isEmpty_eq_false_iff.mpr h.head_ne_nil
    simp only [hempty, h.no_scheme, h.no_fragment, hhead, h.decodes, h.suffix_eq, Bool.or_false,
      Bool.false_eq_true, if_false]

theorem mem_of_target? {renames : Renames} {path target : Path}
    (h : renames.target? path = some target) : (path, target) ∈ renames := by
  obtain ⟨before, behind, hsplit, -⟩ := List.lookup_eq_some_iff.mp h
  rw [← List.mem_reverse, hsplit]
  exact List.mem_append_right _ List.mem_cons_self

theorem ne_of_target?_eq_none {renames : Renames} {path : Path}
    (h : renames.target? path = none) : ∀ p ∈ renames, p.1 ≠ path := by
  intro p hp heq
  have hne := List.lookup_eq_none_iff.mp h p (List.mem_reverse.mpr hp)
  rw [heq, bne_self_eq_false] at hne
  cases hne

theorem mem_renamesOf_iff {root path target : Path} {docs : List Document} :
    (path, target) ∈ renamesOf root docs ↔
      ∃ d ∈ docs, d.path = path ∧ d.output root = target ∧ target ≠ path := by
  rw [renamesOf, List.mem_filterMap]
  constructor
  · rintro ⟨d, hd, h⟩
    obtain ⟨hmoved, heq⟩ := Document.rename?_eq_some_iff.mp h
    obtain ⟨rfl, rfl⟩ := Prod.mk.inj heq
    exact ⟨d, hd, rfl, rfl, hmoved⟩
  · rintro ⟨d, hd, rfl, rfl, hmoved⟩
    exact ⟨d, hd, Document.rename?_eq_some_iff.mpr ⟨hmoved, rfl⟩⟩

/-- Where a file is after the renames. -/
def Renames.follow (renames : Renames) (path : Path) : Path := (renames.target? path).getD path

/-- **A document is where its title has sent it**, when no two documents have one path. -/
theorem follow_renamesOf {root : Path} {docs : List Document} {d : Document}
    (hdistinct : (docs.map Document.path).Nodup) (hd : d ∈ docs) :
    (renamesOf root docs).follow d.path = d.output root := by
  have hsame : ∀ target, (d.path, target) ∈ renamesOf root docs → target = d.output root := by
    intro target h
    obtain ⟨e, he, hpath, htarget, -⟩ := mem_renamesOf_iff.mp h
    rw [← htarget, List.inj_on_of_nodup_map hdistinct he hd hpath]
  rw [Renames.follow]
  cases h : (renamesOf root docs).target? d.path with
  | some target => exact hsame target (mem_of_target? h)
  | none =>
    by_contra hmoved
    have hmem : (d.path, d.output root) ∈ renamesOf root docs :=
      mem_renamesOf_iff.mpr ⟨d, hd, rfl, rfl, fun heq => hmoved heq.symm⟩
    exact ne_of_target?_eq_none h _ hmem rfl

/-- What is no document stays. -/
theorem follow_renamesOf_of_ne {root path : Path} {docs : List Document}
    (h : ∀ d ∈ docs, path ≠ d.path) : (renamesOf root docs).follow path = path := by
  rw [Renames.follow]
  cases htarget : (renamesOf root docs).target? path with
  | none => rfl
  | some target =>
    obtain ⟨d, hd, hpath, -, -⟩ := mem_renamesOf_iff.mp (mem_of_target? htarget)
    exact absurd hpath.symm (h d hd)

/-! ## 2. One URL

A new URL is made from the relative way between two normal paths, and is read back as this way. -/

/-- **A URL that refers to a file refers to where the file is after the renames**, and its suffix
stays. -/
theorem exists_refersTo_relinkUrl {source output : Path} {renames : Renames}
    {url written suffix : List Char} (hsource : source.IsNormal) (houtput : output.IsNormal)
    (hrenames : ∀ p ∈ renames, p.2.IsNormal) (hrefers : RefersTo url written suffix) :
    ∃ rewritten, RefersTo (relinkUrl source output renames url).url rewritten suffix ∧
      output.resolve rewritten = renames.follow (source.resolve written) := by
  have hsuffix : IsSuffix suffix := by
    rw [← hrefers.suffix_eq]
    exact isSuffix_splitSuffix url
  have hway : ∀ {target : Path}, target.IsNormal →
      RefersTo (encodePath (target.relativeTo output).toList ++ suffix)
        (target.relativeTo output).toList suffix := by
    intro target htarget
    exact refersTo_encodePath (Path.toList_ne_nil_of_relative (Path.anchor_relativeTo _ _)
      (Path.isWritten_of_mem_relativeTo htarget houtput)).1 hsuffix
  rw [relinkUrl, fileReference?_eq_some_iff.mpr hrefers, Renames.follow]
  simp only
  rw [← Path.resolve]
  cases hmoved : renames.target? (source.resolve written) with
  | some moved =>
    have hnormal : moved.IsNormal := hrenames _ (mem_of_target? hmoved)
    exact ⟨_, hway hnormal, Path.resolve_relativeTo hnormal houtput⟩
  | none =>
    simp only [Option.getD_none]
    split
    next hkept =>
      refine ⟨written, hrefers, ?_⟩
      -- the URL stays, so what it resolves to from the new directory has to be the old target
      rcases hkept with rfl | hslash | hsame
      · rfl
      · exact Path.resolve_of_head? hslash _ _
      · by_cases hslash : written.head? = some '/'
        · exact Path.resolve_of_head? hslash _ _
        · conv_lhs => rw [← hsame]
          exact Path.resolve_relativeTo (Path.isNormal_resolve hsource hslash) houtput
    next hchanged =>
      have hslash : written.head? ≠ some '/' := fun h => hchanged (.inr (.inl h))
      have hnormal := Path.isNormal_resolve hsource hslash
      exact ⟨_, hway hnormal, Path.resolve_relativeTo hnormal houtput⟩

example :
    relinkUrl (.ofString "/n") (.ofString "/n/sub")
        [(.ofString "/n/a.md", .ofString "/n/b c.md")] "./a.md#x".toList =
      ⟨"../b%20c.md#x".toList, some (.ofString "/n/a.md", .ofString "/n/b c.md")⟩ := by
  decide +kernel

/-! ## 3. Trees

A tree may hold a link in the label of another.  Of such links only the outer one is rewritten, so
the outer links are those that are compared. -/

mutual
/-- The URLs of the links of a tree that do not stand in another link, in document order. -/
def Node.outerLinks : Node → List String
  | .leaf _ => []
  | .branch kind cs =>
    match kind with
    | .link url _ => [url]
    | _ => outerLinksAll cs

/-- The URLs of the links of several trees that do not stand in another link. -/
def outerLinksAll : List Node → List String
  | [] => []
  | c :: cs => c.outerLinks ++ outerLinksAll cs
end

/-- A URL after the change that a function makes to it. -/
def relinkedUrl (relink : List Char → Relinked) (url : String) : String :=
  String.ofList (relink url.toList).url

theorem outerLinks_getD_relinkLink? (relink : List Char → Relinked) (url : String)
    (title : Option String) (label : List Node) :
    ((relinkLink? relink url title label).getD (.link url title label)).outerLinks =
      [relinkedUrl relink url] := by
  by_cases hsame : (relink url.toList).url = url.toList
  · rw [relinkLink?, if_pos hsame, relinkedUrl, hsame, String.ofList_toList]
    rfl
  · rw [relinkLink?, if_neg hsame]
    rfl

/-- A branch that is no link has the links of its children, changed or not. -/
theorem outerLinks_getD_map_branch {kind : Branch}
    (hkind : ∀ cs, (Node.branch kind cs).outerLinks = outerLinksAll cs)
    (changed : Option (List Node)) (cs : List Node) :
    ((changed.map (Node.branch kind)).getD (Node.branch kind cs)).outerLinks =
      outerLinksAll (changed.getD cs) := by
  cases changed with
  | none => exact hkind cs
  | some changed => exact hkind changed

mutual
/-- **Each link gets the URL that is made for it**, whether any URL has changed or not. -/
theorem outerLinks_getD_relink? (relink : List Char → Relinked) (tree : Node) :
    ((tree.relink? relink).getD tree).outerLinks = tree.outerLinks.map (relinkedUrl relink) := by
  match tree with
  | .leaf kind => rfl
  | .branch kind cs =>
    have hcs := outerLinksAll_getD_relinkAll? relink cs
    cases kind with
    | link url title => exact outerLinks_getD_relinkLink? relink url title cs
    | _ =>
      refine (outerLinks_getD_map_branch ?_ (relinkAll? relink cs) cs).trans hcs
      exact fun _ => rfl

theorem outerLinksAll_getD_relinkAll? (relink : List Char → Relinked) (cs : List Node) :
    outerLinksAll ((relinkAll? relink cs).getD cs) =
      (outerLinksAll cs).map (relinkedUrl relink) := by
  match cs with
  | [] => rfl
  | c :: cs =>
    have hc := outerLinks_getD_relink? relink c
    have hcs := outerLinksAll_getD_relinkAll? relink cs
    rw [outerLinksAll, List.map_append, ← hc, ← hcs, relinkAll?]
    cases hchanged : c.relink? relink with
    | none =>
      cases hothers : relinkAll? relink cs with
      | none => rfl
      | some others => rfl
    | some changed => rfl
end

/-! ## 4. Runs

Every document of a run has its own renames to look at: those of all documents, from its own
directories. -/

/-- Whether a link of a document has followed the renames: if it refers to a file, it still refers
to one by the same suffix, and where it led to a document from the directory in which it was
authored, it leads to where the document has gone from the directory it is written to; any other
target stays. -/
def LinkFollows (root : Path) (docs : List Document) (d : Document) (before after : String) :
    Prop :=
  ∀ written suffix, RefersTo before.toList written suffix →
    ∃ rewritten, RefersTo after.toList rewritten suffix ∧
      (∀ e ∈ docs, d.path.parent.resolve written = e.path →
        (d.output root).parent.resolve rewritten = e.output root) ∧
      ((∀ e ∈ docs, d.path.parent.resolve written ≠ e.path) →
        (d.output root).parent.resolve rewritten = d.path.parent.resolve written)

section

variable {root : Path} {docs : List Document}

theorem isNormal_output {d : Document} (h : d.path.IsNormal) : (d.output root).IsNormal :=
  isNormal_outputPath h _

theorem linkFollows_relinkedUrl (hdistinct : (docs.map Document.path).Nodup)
    (hnormal : ∀ d ∈ docs, d.path.IsNormal) {d : Document} (hd : d ∈ docs) (url : String) :
    LinkFollows root docs d url
      (relinkedUrl (relinkUrl d.path.parent (d.output root).parent (renamesOf root docs)) url) := by
  have hrenames : ∀ p ∈ renamesOf root docs, p.2.IsNormal := by
    rintro ⟨path, target⟩ hp
    obtain ⟨e, he, -, rfl, -⟩ := mem_renamesOf_iff.mp hp
    exact isNormal_output (hnormal e he)
  intro written suffix hrefers
  obtain ⟨rewritten, hrewritten, hfollow⟩ := exists_refersTo_relinkUrl
    (Path.isNormal_parent (hnormal d hd)) (Path.isNormal_parent (isNormal_output (hnormal d hd)))
    hrenames hrefers
  refine ⟨rewritten, ?_, ?_, ?_⟩
  · rw [relinkedUrl, String.toList_ofList]
    exact hrewritten
  · intro e he htarget
    rw [hfollow, htarget, follow_renamesOf hdistinct he]
  · intro hnone
    rw [hfollow, follow_renamesOf_of_ne hnone]

/-- The links of a document and of its write, side by side. -/
theorem forall₂_linkFollows (hdistinct : (docs.map Document.path).Nodup)
    (hnormal : ∀ d ∈ docs, d.path.IsNormal) {d : Document} (hd : d ∈ docs) :
    List.Forall₂ (LinkFollows root docs d) d.tree.outerLinks
      (d.relinkedTree root docs).outerLinks := by
  rw [Document.relinkedTree, outerLinks_getD_relink?, List.forall₂_map_right_iff, List.forall₂_same]
  exact fun url _ => linkFollows_relinkedUrl hdistinct hnormal hd url

end

/-- **Links follow renamed files.**  In a run over documents at distinct paths in normal form,
every document has a write of its own, with its links in their places, each of which has followed
the renames; and after one command is left for each path, something is written wherever a document
has gone. -/
theorem links_follow_renames {formatted : Bool} {root : Path} {allocator after : Allocator}
    {trees : List (Path × Node)} {steps : List Step}
    (h : transformAll formatted root allocator trees = .ok (steps, after))
    (hdistinct : (trees.map (·.1)).Nodup) (hnormal : ∀ t ∈ trees, t.1.IsNormal) :
    ∃ docs, numberDocuments allocator trees = .ok (docs, after) ∧
      docs.map Document.path = trees.map (·.1) ∧
      (∀ d ∈ docs, ∃ w, .write w ∈ relinkCommands formatted steps ∧
        w.path = d.output root ∧ w.origin = d.path ∧
        w.content = writeDocument formatted w.tree ∧
        List.Forall₂ (LinkFollows root docs d) d.tree.outerLinks w.tree.outerLinks) ∧
      ∀ e ∈ docs, ∃ v, .write v ∈ mergeCommands (relinkCommands formatted steps) ∧
        v.path = e.output root := by
  obtain ⟨docs, hdocs, rfl⟩ := transformAll_eq_ok_iff.mp h
  have hpaths : docs.map Document.path = trees.map (·.1) := map_path_of_numberDocuments hdocs
  have hdistinct : (docs.map Document.path).Nodup := by rwa [hpaths]
  have hnormal : ∀ d ∈ docs, d.path.IsNormal :=
    forall_path_of_map_path_eq hpaths Path.IsNormal hnormal
  refine ⟨docs, hdocs, hpaths, ?_, ?_⟩
  · intro d hd
    refine ⟨d.relinked formatted root docs, ?_, Document.relinked_path ..,
      Document.relinked_origin .., ?_, ?_⟩
    · rw [← mem_writesOf, writesOf_relinkCommands_stepsOf]
      exact List.mem_map_of_mem hd
    · rw [Document.relinked_content, Document.relinked_tree]
    · rw [Document.relinked_tree]
      exact forall₂_linkFollows hdistinct hnormal hd
  · intro e he
    obtain ⟨v, hv, hpath⟩ := List.mem_map.mp (mem_map_path_writesOf_merged_iff.mpr ⟨e, he, rfl⟩)
    exact ⟨v, mem_writesOf.mp hv, hpath⟩

/-- Two documents that are named after their titles and link to each other. -/
def linkedTrees : List (Path × Node) :=
  [(.ofString "/n/a.md", .root [.heading Depth.one [.text "Plan"],
      .paragraph [.link "sub/b.md?q#top" none [.text "b"]]]),
    (.ofString "/n/sub/b.md", .root [.heading Depth.one [.text "Next: beta"],
      .paragraph [.link "../a.md" none [.text "a"], .link "../x%20y.md" none []]])]

theorem links_follow_renames_of_linkedTrees :
    ∃ steps after docs,
      transformAll false (.ofString "/n") (.startingAt "TODO" 0) linkedTrees =
        .ok (steps, after) ∧
      (linkedTrees.map (·.1)).Nodup ∧ (∀ t ∈ linkedTrees, t.1.IsNormal) ∧
      docs.map Document.path = linkedTrees.map (·.1) ∧
      ∀ d ∈ docs, ∃ w, .write w ∈ relinkCommands false steps ∧
        List.Forall₂ (LinkFollows (.ofString "/n") docs d) d.tree.outerLinks w.tree.outerLinks := by
  have hnumbered : numberDocuments (.startingAt "TODO" 0) linkedTrees =
      .ok (linkedTrees.map fun t => ⟨t.1, t.2⟩, .startingAt "TODO" 0) := by
    decide +kernel
  have h : transformAll false (.ofString "/n") (.startingAt "TODO" 0) linkedTrees =
      .ok (stepsOf false (.ofString "/n") (linkedTrees.map fun t => ⟨t.1, t.2⟩),
        .startingAt "TODO" 0) :=
    transformAll_eq_ok_iff.mpr ⟨_, hnumbered, rfl⟩
  have hdistinct : (linkedTrees.map (·.1)).Nodup := by decide +kernel
  have hnormal : ∀ t ∈ linkedTrees, t.1.IsNormal := by decide +kernel
  obtain ⟨docs, -, hpaths, hlinks, -⟩ := links_follow_renames h hdistinct hnormal
  refine ⟨_, _, docs, h, hdistinct, hnormal, hpaths, fun d hd => ?_⟩
  obtain ⟨w, hw, -, -, -, hfollows⟩ := hlinks d hd
  exact ⟨w, hw, hfollows⟩

end TaskNotes
