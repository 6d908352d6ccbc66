/-
# What filling regions leaves alone

Tasks are looked for among siblings that are cut into regions of both names at once.  Filling cuts
them into regions of one name, first the indexes and then the tables of contents.  This module says
what the two passes do to the authored part of the documents of a plan (`authored_of_refilled`).

* It does not matter what is filled in: what is authored afterwards is what is authored in the tree
  whose indexes and then whose tables of contents have been emptied (`authored_filled_filled`).
* The two ways to cut agree, and the authored part stays, wherever no index that begins inside of a
  table of contents ends behind it (`authored_filled_of_uncrossed`).

An index that does end behind the table it begins in takes with it the end of the table and what
has been written between the two ends (`authored_not_kept_of_crossedText`).

Why the two ways to cut can differ: where indexes are filled, the begin marker of a table of
contents is no marker, and neither is its end.  An index that begins inside of a table and ends
behind it is a region like any other for the first pass, which puts its body in the place of all
that stood there, the end of the table included.  When tasks are looked for, that index is part of
the table, and what stands behind the end of the table is authored.

The condition is sufficient and can be evaluated (`Node.uncrossed`).  What is exact is the first
statement: the authored part stays exactly where emptying the regions in turn leaves it.
-/
import TaskNotes.Proofs.RegionBodies
import TaskNotes.Proofs.Sortable

namespace TaskNotes

/-! ## 1. The two passes on a tree

Bodies that consist of branches differ in nothing that the search for tasks can see, so all of them
may be taken to be empty. -/

/-- The tree whose indexes and then whose tables of contents have been emptied. -/
def Node.emptiedInTurn (tree : Node) : Node :=
  (tree.replaceRegions (.filled indexRegion [])).replaceRegions (.filled tocRegion [])

theorem indexRegion_mem_regionNames : indexRegion ∈ regionNames := List.mem_cons_self

theorem tocRegion_mem_regionNames : tocRegion ∈ regionNames :=
  List.mem_cons_of_mem _ List.mem_cons_self

theorem indexRegion_ne_tocRegion : indexRegion ≠ tocRegion := by decide

theorem eq_or_eq_of_mem_regionNames {name : String} (h : name ∈ regionNames) :
    name = indexRegion ∨ name = tocRegion := by
  simpa [regionNames] using h

theorem allBranches_nil : AllBranches [] := List.forall_mem_nil _

/-- **It does not matter for the authored part what is filled in.** -/
theorem authored_filled_filled {index toc : List Node} (hindex : AllBranches index)
    (htoc : AllBranches toc) (tree : Node) :
    ((tree.replaceRegions (.filled indexRegion index)).replaceRegions
      (.filled tocRegion toc)).authored = tree.emptiedInTurn.authored := by
  have hcontents : ∀ between : Node,
      (between.replaceRegions (.filled tocRegion toc)).authored =
        (between.replaceRegions (.filled tocRegion [])).authored := fun between =>
    (sameOutside_filled htoc allBranches_nil between).authored_eq tocRegion_mem_regionNames
  rw [hcontents, Node.emptiedInTurn]
  refine SameOutside.authored_eq indexRegion_mem_regionNames ?_
  exact (sameOutside_filled hindex allBranches_nil tree).filled indexRegion_mem_regionNames
    tocRegion_mem_regionNames indexRegion_ne_tocRegion

/-! ## 2. Where both ways to cut agree

The recursion follows the siblings, with two states that go along: the region that the search
passes over, and the index that the first pass passes over.  Inside of a table of contents both can
be at work at once, and `EndsInTable` says that the second is done with before the table ends. -/

/-- Whether every index that begins among siblings in front of the end of a table of contents ends
in front of it as well, or nowhere among them. -/
def holdsIndexes : List Node → Bool
  | [] => true
  | c :: cs =>
    isRegionEnd tocRegion c ||
      (!isMarker (beginMarker indexRegion) c || !cs.any (isRegionEnd indexRegion)
          || (cs.takeWhile fun d => !isRegionEnd tocRegion d).any (isRegionEnd indexRegion))
        && holdsIndexes cs

mutual
/-- Whether no index that begins inside of a table of contents ends behind it. -/
def Node.uncrossed : Node → Bool
  | .leaf _ => true
  | .branch _ cs => uncrossedAmong none cs

/-- The same for siblings; `skipping` is the region whose body they begin with. -/
def uncrossedAmong (skipping : Option String) : List Node → Bool
  | [] => true
  | c :: cs =>
    match skipping with
    | some name => uncrossedAmong (if isRegionEnd name c then none else some name) cs
    | none =>
      match regionBegin? regionNames c with
      | none => c.uncrossed && uncrossedAmong none cs
      | some name =>
        (name != tocRegion || !cs.any (isRegionEnd tocRegion) || holdsIndexes cs)
          && uncrossedAmong (regionPassed name cs) cs
end

section

variable {index toc cs : List Node}

/-- A table of contents that is not closed among siblings is not closed by filling indexes. -/
theorem any_tocEnd_filled_of_not (hindex : AllBranches index) :
    ∀ {cs : List Node}, cs.any (isRegionEnd tocRegion) = false → ∀ skipping,
      (replaceAmong (.filled indexRegion index) skipping cs).any (isRegionEnd tocRegion) = false
  | [], _, skipping => by
    rw [replaceAmong_nil]
    rfl
  | c :: cs, h, some name => by
    rw [List.any_cons, Bool.or_eq_false_iff] at h
    rw [replaceAmong_skip]
    exact any_tocEnd_filled_of_not hindex h.2 _
  | c :: cs, h, none => by
    rw [List.any_cons, Bool.or_eq_false_iff] at h
    cases hbegin : isMarker (beginMarker indexRegion) c with
    | true =>
      have hend : isRegionEnd tocRegion (.html (endMarker indexRegion)) = false := by
        decide +kernel
      rw [replaceAmong_filled_of_begin hbegin, List.any_cons, List.any_append, List.any_cons, h.1,
        any_isRegionEnd_of_allBranches hindex, hend, any_tocEnd_filled_of_not hindex h.2]
      rfl
    | false =>
      rw [replaceAmong_filled_of_not_begin hbegin, List.any_cons, isRegionEnd,
        isMarker_replaceRegions, any_tocEnd_filled_of_not hindex h.2]
      exact Bool.or_eq_false_iff.mpr ⟨h.1, rfl⟩

/-- Whether an index that is being passed over, if there is one, ends in front of the end of a
table of contents. -/
def EndsInTable (skipping : Option String) (cs : List Node) : Prop :=
  ∀ name ∈ skipping, name = indexRegion ∧
    (cs.takeWhile fun d => !isRegionEnd tocRegion d).any (isRegionEnd indexRegion) = true

theorem endsInTable_none (cs : List Node) : EndsInTable none cs := by
  intro name hname
  cases hname

section

variable {c : Node}

/-- Where the table ends no index is being passed over. -/
theorem EndsInTable.eq_none {skipping : Option String} (h : EndsInTable skipping (c :: cs))
    (hend : isRegionEnd tocRegion c = true) : skipping = none := by
  cases skipping with
  | none => rfl
  | some name =>
    obtain ⟨-, h⟩ := h name rfl
    rw [List.takeWhile_cons, hend] at h
    cases h

/-- Passing over a sibling, in a table that goes on. -/
theorem EndsInTable.skip {name : String} (h : EndsInTable (some name) (c :: cs))
    (hend : isRegionEnd tocRegion c = false) :
    EndsInTable (if isRegionEnd name c then none else some name) cs := by
  obtain ⟨rfl, hany⟩ := h name rfl
  rw [List.takeWhile_cons, hend] at hany
  simp only [Bool.not_false, if_true, List.any_cons, Bool.or_eq_true] at hany
  split
  next => exact endsInTable_none cs
  next hnot =>
    intro name hname
    rw [← Option.some.inj hname]
    exact ⟨rfl, hany.resolve_left hnot⟩

/-- An index that begins in a table that holds its indexes ends in it, if it ends. -/
theorem endsInTable_regionPassed (h : holdsIndexes (c :: cs) = true)
    (hend : isRegionEnd tocRegion c = false)
    (hbegin : isMarker (beginMarker indexRegion) c = true) :
    EndsInTable (regionPassed indexRegion cs) cs := by
  rw [holdsIndexes, hend, hbegin, Bool.false_or, Bool.and_eq_true] at h
  intro name hname
  rw [regionPassed] at hname
  split at hname
  next hany =>
    rw [← Option.some.inj hname]
    refine ⟨rfl, ?_⟩
    simpa [hany] using h.1
  next => cases hname

theorem holdsIndexes_tail (h : holdsIndexes (c :: cs) = true)
    (hend : isRegionEnd tocRegion c = false) : holdsIndexes cs = true := by
  rw [holdsIndexes, hend, Bool.false_or, Bool.and_eq_true] at h
  exact h.2

end

/-- A table of contents that holds its indexes stays closed when they are filled. -/
theorem any_tocEnd_filled (hindex : AllBranches index) :
    ∀ {cs : List Node} {skipping : Option String}, cs.any (isRegionEnd tocRegion) = true →
      holdsIndexes cs = true → EndsInTable skipping cs →
      (replaceAmong (.filled indexRegion index) skipping cs).any (isRegionEnd tocRegion) = true
  | [], _, h, _, _ => by cases h
  | c :: cs, skipping, h, hholds, hends => by
    cases hend : isRegionEnd tocRegion c with
    | true =>
      obtain rfl := hends.eq_none hend
      rw [replaceAmong_filled_of_not_begin (begin_of_isRegionEnd tocRegion_mem_regionNames
        indexRegion_mem_regionNames hend), List.any_cons, isRegionEnd, isMarker_replaceRegions]
      exact Bool.or_eq_true_iff.mpr (.inl hend)
    | false =>
      rw [List.any_cons, hend, Bool.false_or] at h
      have hrest := holdsIndexes_tail hholds hend
      cases skipping with
      | some name =>
        rw [replaceAmong_skip]
        exact any_tocEnd_filled hindex h hrest (hends.skip hend)
      | none =>
        cases hbegin : isMarker (beginMarker indexRegion) c with
        | true =>
          rw [replaceAmong_filled_of_begin hbegin, List.any_cons, List.any_append, List.any_cons,
            any_tocEnd_filled hindex h hrest (endsInTable_regionPassed hholds hend hbegin)]
          simp only [Bool.or_true]
        | false =>
          rw [replaceAmong_filled_of_not_begin hbegin, List.any_cons,
            any_tocEnd_filled hindex h hrest (endsInTable_none cs), Bool.or_true]

mutual
/-- **The authored part stays where no index that begins inside of a table of contents ends behind
it.** -/
theorem authored_filled_of_uncrossed (hindex : AllBranches index) (htoc : AllBranches toc)
    {tree : Node} (h : tree.uncrossed = true) :
    ((tree.replaceRegions (.filled indexRegion index)).replaceRegions
      (.filled tocRegion toc)).authored = tree.authored := by
  match tree with
  | .leaf kind => rw [replaceRegions_leaf, replaceRegions_leaf]
  | .branch kind cs =>
    rw [Node.uncrossed] at h
    rw [replaceRegions_branch, replaceRegions_branch, authored_branch, authored_branch,
      authoredAmong_filled_of_uncrossed hindex htoc h]

/-- Outside of regions. -/
theorem authoredAmong_filled_of_uncrossed (hindex : AllBranches index) (htoc : AllBranches toc)
    {cs : List Node} (h : uncrossedAmong none cs = true) :
    authoredAmong none (replaceAmong (.filled tocRegion toc) none
      (replaceAmong (.filled indexRegion index) none cs)) = authoredAmong none cs := by
  match cs with
  | [] => rw [replaceAmong_nil, replaceAmong_nil]
  | c :: cs =>
    rw [uncrossedAmong] at h
    cases hbegin : regionBegin? regionNames c with
    | none =>
      simp only [hbegin, Bool.and_eq_true] at h
      have hnot (name : String) (hname : name ∈ regionNames) :
          isMarker (beginMarker name) c = false :=
        Bool.eq_false_iff.mpr (List.find?_eq_none.mp hbegin name hname)
      have hafter : regionBegin? regionNames
          ((c.replaceRegions (.filled indexRegion index)).replaceRegions
            (.filled tocRegion toc)) = none := by
        simp only [regionBegin?, isMarker_replaceRegions]
        exact hbegin
      rw [replaceAmong_filled_of_not_begin (hnot _ indexRegion_mem_regionNames),
        replaceAmong_filled_of_not_begin ((isMarker_replaceRegions _ c).trans
          (hnot _ tocRegion_mem_regionNames)), authoredAmong_of_not_begin hafter,
        authoredAmong_of_not_begin hbegin, authored_filled_of_uncrossed hindex htoc h.1,
        authoredAmong_filled_of_uncrossed hindex htoc h.2]
    | some name =>
      simp only [hbegin, Bool.and_eq_true] at h
      have hname := mem_of_regionBegin? hbegin
      have hmarker := isMarker_of_regionBegin? hbegin
      rw [authoredAmong_of_begin hbegin]
      rcases eq_or_eq_of_mem_regionNames hname with rfl | rfl
      · rw [replaceAmong_filled_of_begin hmarker,
          replaceAmong_filled_region hname tocRegion_mem_regionNames indexRegion_ne_tocRegion
            hmarker hindex, authoredAmong_region hname hmarker (hindex.map_replaceRegions _)]
        rw [regionPassed] at h ⊢
        split
        next hclosed =>
          rw [if_pos hclosed] at h
          rw [authoredAmong_filled_of_uncrossed_index hindex htoc h.2]
        next hopen =>
          rw [if_neg hopen] at h
          rw [authoredAmong_filled_of_uncrossed hindex htoc h.2]
      · have hindexBegin : isMarker (beginMarker indexRegion) c = false := by
          rw [← Bool.not_eq_true]
          intro hindexBegin
          exact indexRegion_ne_tocRegion (beginMarker_injOn indexRegion_mem_regionNames hname
            (isMarker_unique hindexBegin hmarker))
        rw [replaceAmong_filled_of_not_begin hindexBegin, replaceRegions_of_isMarker hmarker,
          replaceAmong_filled_of_begin hmarker, authoredAmong_region hname hmarker htoc]
        rw [regionPassed] at h
        rw [regionPassed, regionPassed]
        cases hclosed : cs.any (isRegionEnd tocRegion) with
        | true =>
          have hholds : holdsIndexes cs = true := by simpa [hclosed] using h.1
          rw [if_pos hclosed] at h
          rw [if_pos rfl, any_tocEnd_filled hindex hclosed hholds (endsInTable_none cs),
            if_pos rfl, authoredAmong_filled_of_uncrossed_toc hindex htoc h.2 hholds
              (endsInTable_none cs)]
        | false =>
          rw [hclosed] at h
          rw [any_tocEnd_filled_of_not hindex hclosed, if_neg Bool.false_ne_true,
            authoredAmong_filled_of_uncrossed hindex htoc h.2]

/-- Behind the begin of an index. -/
theorem authoredAmong_filled_of_uncrossed_index (hindex : AllBranches index)
    (htoc : AllBranches toc) {cs : List Node}
    (h : uncrossedAmong (some indexRegion) cs = true) :
    authoredAmong none (replaceAmong (.filled tocRegion toc) none
      (replaceAmong (.filled indexRegion index) (some indexRegion) cs)) =
        authoredAmong (some indexRegion) cs := by
  match cs with
  | [] => rw [replaceAmong_nil, replaceAmong_nil, authoredAmong_nil, authoredAmong_nil]
  | c :: cs =>
    rw [uncrossedAmong] at h
    rw [replaceAmong_skip, authoredAmong_skip]
    split
    next hend =>
      simp only [hend] at h
      exact authoredAmong_filled_of_uncrossed hindex htoc h
    next hend =>
      simp only [hend] at h
      exact authoredAmong_filled_of_uncrossed_index hindex htoc h

/-- Behind the begin of a table of contents. -/
theorem authoredAmong_filled_of_uncrossed_toc (hindex : AllBranches index)
    (htoc : AllBranches toc) {cs : List Node} {skipping : Option String}
    (h : uncrossedAmong (some tocRegion) cs = true) (hholds : holdsIndexes cs = true)
    (hends : EndsInTable skipping cs) :
    authoredAmong none (replaceAmong (.filled tocRegion toc) (some tocRegion)
      (replaceAmong (.filled indexRegion index) skipping cs)) =
        authoredAmong (some tocRegion) cs := by
  match cs with
  | [] => rw [replaceAmong_nil, replaceAmong_nil, authoredAmong_nil, authoredAmong_nil]
  | c :: cs =>
    rw [uncrossedAmong] at h
    rw [authoredAmong_skip]
    cases hend : isRegionEnd tocRegion c with
    | true =>
      obtain rfl := hends.eq_none hend
      simp only [hend, if_true] at h
      rw [replaceAmong_filled_of_not_begin (begin_of_isRegionEnd tocRegion_mem_regionNames
        indexRegion_mem_regionNames hend), replaceRegions_of_isMarker hend, replaceAmong_skip,
        hend]
      exact authoredAmong_filled_of_uncrossed hindex htoc h
    | false =>
      simp only [hend, Bool.false_eq_true, if_false] at h ⊢
      have hrest := holdsIndexes_tail hholds hend
      cases skipping with
      | some name =>
        rw [replaceAmong_skip]
        exact authoredAmong_filled_of_uncrossed_toc hindex htoc h hrest (hends.skip hend)
      | none =>
        cases hbegin : isMarker (beginMarker indexRegion) c with
        | true =>
          rw [replaceAmong_filled_of_begin hbegin,
            replaceAmong_skip_region indexRegion_mem_regionNames tocRegion_mem_regionNames
              indexRegion_ne_tocRegion hbegin hindex]
          exact authoredAmong_filled_of_uncrossed_toc hindex htoc h hrest
            (endsInTable_regionPassed hholds hend hbegin)
        | false =>
          rw [replaceAmong_filled_of_not_begin hbegin, replaceAmong_skip, isRegionEnd,
            isMarker_replaceRegions, ← isRegionEnd, hend, if_neg Bool.false_ne_true]
          exact authoredAmong_filled_of_uncrossed_toc hindex htoc h hrest (endsInTable_none cs)
end

end

/-! ## 3. The bodies that are made

Listings are made of headings, lists and paragraphs, and links are inside of these. -/

theorem linesIfAny_allBranches (lines : List (List Node)) : AllBranches (linesIfAny lines) := by
  rw [linesIfAny]
  split
  · exact allBranches_nil
  · intro c hc
    rw [List.mem_singleton.mp hc]
    rfl

/-- The body of an index is made of headings, a list and paragraphs. -/
theorem indexBody_allBranches (entries : List IndexEntry) : AllBranches (indexBody entries) := by
  intro c hc
  simp only [indexBody, List.mem_append] at hc
  rcases hc with (hchecklist | hbetween) | hdirectory | hfile
  · split at hchecklist
    · cases hchecklist
    · simp only [List.mem_cons, List.not_mem_nil, or_false] at hchecklist
      rcases hchecklist with rfl | rfl
      · rfl
      · rfl
  · split at hbetween
    · cases hbetween
    · rw [List.mem_singleton.mp hbetween]
      rfl
  · exact linesIfAny_allBranches _ c hdirectory
  · exact linesIfAny_allBranches _ c hfile

theorem createIndex_allBranches {index : Path} {writes : List Write} {body : List Node}
    (h : createIndex index writes = .ok body) : AllBranches body := by
  obtain ⟨entries, -, rfl⟩ := map_eq_ok_iff.mp h
  exact indexBody_allBranches entries

/-- A table of contents is a list. -/
theorem createContents_allBranches {root toc : Path} {writes : List Write} {body : List Node}
    (h : (createContents root toc writes).map ([·]) = .ok body) : AllBranches body := by
  obtain ⟨contents, hcontents, rfl⟩ := map_eq_ok_iff.mp h
  obtain ⟨paths, -, hlist⟩ := bind_eq_ok_iff.mp hcontents
  intro c hc
  rw [List.mem_singleton.mp hc, ← pure_eq_ok_iff.mp hlist]
  rfl

/-! ## 4. The two passes on commands

A write without a region is left alone, and filling a region that is not there leaves a tree alone
as well; so every write may be said to be filled. -/

section

variable {formatted : Bool} {root : Path} {commands indexed out : List Command}

/-- What filling the regions of a name makes of a write: the same write if there is none, and else
the write of the filled tree. -/
def RefilledFrom (formatted : Bool) (name : String)
    (body : Path → Except NumeralError (List Node)) (v w : Write) : Prop :=
  v.tree.containsRegion name = false ∧ w = v ∨
    ∃ nodes, body v.path = .ok nodes ∧
      w = v.withTree formatted (v.tree.replaceRegions (.filled name nodes))

theorem refilledFrom_of_refillRegion {name : String}
    {body : Path → Except NumeralError (List Node)}
    (h : refillRegion formatted name body commands = .ok out) :
    List.Forall₂ (RefilledFrom formatted name body) (writesOf commands) (writesOf out) := by
  refine List.rel_filterMap ?_ (mapM_eq_ok_iff.mp h)
  intro c d hcd
  cases c with
  | delete p =>
    obtain rfl := pure_eq_ok_iff.mp hcd
    exact .none
  | write w =>
    simp only at hcd
    split at hcd
    next =>
      obtain ⟨nodes, hnodes, hcd⟩ := bind_eq_ok_iff.mp hcd
      obtain rfl := pure_eq_ok_iff.mp hcd
      exact .some (.inr ⟨nodes, hnodes, rfl⟩)
    next hnone =>
      obtain rfl := pure_eq_ok_iff.mp hcd
      exact .some (.inl ⟨Bool.not_eq_true _ ▸ hnone, rfl⟩)

/-- Whether a write has the place of another, and the tree of the other with the regions of a name
filled. -/
def FilledFrom (name : String) (v w : Write) : Prop :=
  w.path = v.path ∧ ∃ body, AllBranches body ∧ w.tree = v.tree.replaceRegions (.filled name body)

/-- Filling a region fills it in every write, also where there is none. -/
theorem RefilledFrom.filledFrom {name : String} {body : Path → Except NumeralError (List Node)}
    (hbody : ∀ path nodes, body path = .ok nodes → AllBranches nodes) {v w : Write}
    (h : RefilledFrom formatted name body v w) : FilledFrom name v w := by
  rcases h with ⟨hnone, rfl⟩ | ⟨nodes, hnodes, rfl⟩
  · exact ⟨rfl, [], allBranches_nil, (replaceRegions_of_not_containsRegion hnone).symm⟩
  · exact ⟨rfl, nodes, hbody _ _ hnodes, rfl⟩

/-- Each write keeps its place, and its tree has its indexes and then its tables of contents
filled. -/
theorem filledTwice_of_refilled (hindexed : refillIndexes formatted commands = .ok indexed)
    (hout : refillContents formatted root indexed = .ok out) :
    List.Forall₂ (fun v w => w.path = v.path ∧ ∃ index toc, AllBranches index ∧ AllBranches toc ∧
        w.tree = (v.tree.replaceRegions (.filled indexRegion index)).replaceRegions
          (.filled tocRegion toc))
      (writesOf commands) (writesOf out) := by
  refine forall₂_of_forall₂_of_forall₂ ?_ (refilledFrom_of_refillRegion hindexed)
    (refilledFrom_of_refillRegion hout)
  intro v between w hbetween hw
  obtain ⟨hpath, index, hindex, htree⟩ :=
    hbetween.filledFrom fun _ _ => createIndex_allBranches
  obtain ⟨hpath', toc, htoc, htree'⟩ := hw.filledFrom fun _ _ => createContents_allBranches
  exact ⟨hpath'.trans hpath, index, toc, hindex, htoc, by rw [htree', htree]⟩

end

/-- **What is authored when regions have been filled.**  Each write keeps its place, and what is
authored in it is what is authored in the tree from before with its indexes and then its tables of
contents emptied.  So the authored part stays exactly where that leaves it, and certainly where no
index that begins inside of a table of contents ends behind it. -/
theorem authored_of_refilled {formatted : Bool} {root : Path}
    {commands indexed out : List Command}
    (hindexed : refillIndexes formatted commands = .ok indexed)
    (hout : refillContents formatted root indexed = .ok out) :
    List.Forall₂ (fun v w => w.path = v.path ∧
        w.tree.authored = v.tree.emptiedInTurn.authored ∧
        (v.tree.uncrossed = true → w.tree.authored = v.tree.authored))
      (writesOf commands) (writesOf out) := by
  refine (filledTwice_of_refilled hindexed hout).imp ?_
  rintro v w ⟨hpath, index, toc, hindex, htoc, htree⟩
  refine ⟨hpath, ?_, fun huncrossed => ?_⟩
  · rw [htree, authored_filled_filled hindex htoc]
  · rw [htree, authored_filled_of_uncrossed hindex htoc huncrossed]

/-- The text of a table of contents in which an index begins that ends behind it, with a task
behind the end of the table. -/
def crossedText : String :=
  "<!-- toc -->\n\n<!-- index -->\n\n<!-- /toc -->\n\n- [ ] step\n\n<!-- /index -->\n"

/-- The text of an index in front of a table of contents. -/
def uncrossedText : String :=
  "# A\n\n<!-- index -->\n\n<!-- /index -->\n\n- [ ] step\n\n<!-- toc -->\n\nold\n\n<!-- /toc -->\n"

/-- Commands that write both texts. -/
def crossedCommands : List Command :=
  [.write (.ofText (.ofString "/n/index.md") crossedText),
    .write (.ofText (.ofString "/n/a.md") uncrossedText)]

theorem exists_refilled_crossedCommands :
    ∃ indexed out, refillIndexes false crossedCommands = .ok indexed ∧
      refillContents false (.ofString "/n") indexed = .ok out := by
  have hplaces : CanList ((writesOf crossedCommands).map Write.path) := by decide +kernel
  obtain ⟨indexed, hindexed⟩ : ∃ out, refillIndexes false crossedCommands = .ok out :=
    exists_refillIndexes_eq_ok hplaces
  rw [← (samePlaces_of_refillRegion hindexed).map_path_writesOf] at hplaces
  obtain ⟨out, hout⟩ : ∃ out, refillContents false (.ofString "/n") indexed = .ok out :=
    exists_refillContents_eq_ok hplaces
  exact ⟨indexed, out, hindexed, hout⟩

/-- Of the two texts the second is uncrossed, and what is authored in it stays. -/
theorem authored_of_refilled_crossedCommands :
    (writesOf crossedCommands).map (fun v => v.tree.uncrossed) = [false, true] ∧
      ∃ indexed out, refillIndexes false crossedCommands = .ok indexed ∧
        refillContents false (.ofString "/n") indexed = .ok out ∧
        List.Forall₂ (fun v w => w.path = v.path ∧
            w.tree.authored = v.tree.emptiedInTurn.authored ∧
            (v.tree.uncrossed = true → w.tree.authored = v.tree.authored))
          (writesOf crossedCommands) (writesOf out) := by
  obtain ⟨indexed, out, hindexed, hout⟩ := exists_refilled_crossedCommands
  exact ⟨by decide +kernel, indexed, out, hindexed, hout, authored_of_refilled hindexed hout⟩

/-- In the first text the task behind the table is authored, and it is lost when the index is
filled. -/
theorem authored_not_kept_of_crossedText :
    ∃ indexed out, refillIndexes false crossedCommands = .ok indexed ∧
      refillContents false (.ofString "/n") indexed = .ok out ∧
      ¬ List.Forall₂ (fun v w => w.tree.authored = v.tree.authored)
        (writesOf crossedCommands) (writesOf out) := by
  obtain ⟨indexed, out, hindexed, hout⟩ := exists_refilled_crossedCommands
  refine ⟨indexed, out, hindexed, hout, ?_⟩
  have hemptied : (writesOf out).map (fun w => w.tree.authored) =
      (writesOf crossedCommands).map fun v => v.tree.emptiedInTurn.authored := by
    refine map_eq_map_of_forall₂ ?_ (filledTwice_of_refilled hindexed hout)
    rintro v w ⟨-, index, toc, hindex, htoc, htree⟩
    rw [htree, authored_filled_filled hindex htoc]
  intro hkept
  have hauthored : (writesOf out).map (fun w => w.tree.authored) =
      (writesOf crossedCommands).map fun v => v.tree.authored :=
    map_eq_map_of_forall₂ (fun _ _ h => h) hkept
  have hchanged : (writesOf crossedCommands).map (fun v => v.tree.emptiedInTurn.authored) ≠
      (writesOf crossedCommands).map fun v => v.tree.authored := by decide +kernel
  exact hchanged (hemptied.symm.trans hauthored)

end TaskNotes
