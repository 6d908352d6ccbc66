/-
# What listings list

An index and a table of contents are made of links.  Read as a reader's program reads it, decoded
and resolved from the directory of the listing, each link leads to a place (`Leads`), and the
places that a listing leads to are told in full, each one once (`listings_complete`):

* an index leads to the documents beside it and to the indexes of the directories beside it, but
  not to itself;
* a table of contents leads to every document, and marks itself.

Names may hold any characters.  What is listed is decided by the names of the way to a place
(`isListed_relativeTo_iff`), and the way is found again in the link.

A listing is told by its links: their URLs, in document order, are the encoded ways to the places
that are listed (`linksOf_indexBody`, `exists_items_of_createContents`).  For an index these are
shown in three groups, tasks before directories before files, and each entry belongs to one group;
so the groups together have each link once.

What a path leads to from a directory is found without looking at the disk: `..` takes away a
name.  This is how a relative way is made, and so the two are inverse for normal paths
(`Proofs/Ways`).
-/
import TaskNotes.Proofs.Listings
import TaskNotes.Proofs.Sortable
import TaskNotes.Proofs.Merge

namespace TaskNotes

/-! ## 1. Places beside an index

The way from a directory to a place tells where the place lies: it is one name for what is in the
directory, two for the index of a directory in it, and it begins with `..` for what lies elsewhere.
-/

/-- What a directory and another list of names have in common is gone. -/
theorem Path.dropCommon_append (names down : List Name) :
    Path.dropCommon names (names ++ down) = ([], down) := by
  induction names with
  | nil => cases down <;> rfl
  | cons name names ih => rw [List.cons_append, Path.dropCommon, if_pos rfl, ih]

theorem Path.eq_of_names_eq {p q : Path} (hanchor : p.anchor = q.anchor) (h : p.names = q.names) :
    p = q := by
  cases p
  cases q
  rw [Path.mk.injEq]
  exact ⟨hanchor, h⟩

theorem Path.parent_mem_parents {p : Path} (h : p.names ≠ []) : p.parent ∈ p.parents := by
  refine Path.mem_parents_iff.mpr ⟨p.names.length - 1, ?_, ?_⟩
  · exact Nat.sub_one_lt (Nat.ne_of_gt (List.length_pos_iff.mpr h))
  · rw [Path.parent, List.dropLast_eq_take]

/-- What lies in a directory, or is the index of a directory in it. -/
def Path.IsBeside (directory p : Path) : Prop :=
  (∃ name, p = directory.child name) ∨ ∃ name, p = (directory.child name).child indexName

section

variable {p directory : Path}

theorem relativeTo_of_names_eq (hp : ∀ name ∈ p.names, IsProper name) {down : List Name}
    (h : p.names = directory.names ++ down) : p.relativeTo directory = ⟨.relative, down⟩ := by
  have hdirectory : ∀ name ∈ directory.names, IsProper name := by
    intro name hname
    exact hp name (by rw [h]; exact List.mem_append_left _ hname)
  rw [Path.relativeTo, Path.normalize_of_isProper hp, Path.normalize_of_isProper hdirectory, h,
    Path.dropCommon_append]
  rfl

theorem isListed_iff {way : Path} :
    isListed way = true ↔ way.names = [] ∨ (∃ name, name ≠ parentName ∧ way.names = [name]) ∨
      ∃ name, name ≠ parentName ∧ way.names = [name, indexName] := by
  rw [isListed]
  rcases way.names with - | ⟨name, - | ⟨last, - | ⟨next, names⟩⟩⟩ <;> simp

/-- **Whether a place is listed is seen from where it lies.** -/
theorem isListed_relativeTo_iff (hp : ∀ name ∈ p.names, IsProper name)
    (hdirectory : ∀ name ∈ directory.names, IsProper name) (hanchor : p.anchor = directory.anchor) :
    isListed (p.relativeTo directory) = true ↔ p = directory ∨ directory.IsBeside p := by
  rw [isListed_iff]
  constructor
  · intro h
    obtain ⟨common, up, down, hup, hdown, hway⟩ :=
      Path.exists_relativeTo_of_isProper hp hdirectory
    rw [hway] at h
    cases up with
    | cons name up =>
      -- A way that begins by going up is not listed, however it goes on.
      rcases h with h | ⟨other, hother, h⟩ | ⟨other, hother, h⟩
      · cases h
      · exact absurd (List.cons.inj h).1.symm hother
      · exact absurd (List.cons.inj h).1.symm hother
    | nil =>
      rw [List.append_nil] at hup
      rw [← hup] at hdown
      rcases h with rfl | ⟨name, -, rfl⟩ | ⟨name, -, rfl⟩
      · rw [List.append_nil] at hdown
        exact .inl (Path.eq_of_names_eq hanchor hdown)
      · exact .inr (.inl ⟨name, Path.eq_of_names_eq hanchor hdown⟩)
      · refine .inr (.inr ⟨name, Path.eq_of_names_eq hanchor ?_⟩)
        rw [hdown]
        exact List.append_cons directory.names name [indexName]
  · rintro (rfl | ⟨name, rfl⟩ | ⟨name, rfl⟩)
    · rw [relativeTo_of_names_eq hp (List.append_nil _).symm]
      exact .inl rfl
    · have hname : IsProper name := hp name (List.mem_append_right _ List.mem_cons_self)
      rw [relativeTo_of_names_eq hp rfl]
      exact .inr (.inl ⟨name, hname.2, rfl⟩)
    · have hname : IsProper name :=
        hp name (List.mem_append_left _ (List.mem_append_right _ List.mem_cons_self))
      rw [relativeTo_of_names_eq hp (List.append_assoc directory.names [name] [indexName])]
      exact .inr (.inr ⟨name, hname.2, rfl⟩)

end

/-! ## 2. Links

The links of trees are those of their parts, so a listing can be taken apart line by line. -/

/-- The URL of a link. -/
def Node.linkUrl? : Node → Option String
  | .branch (.link url _) _ => some url
  | _ => none

/-- The URLs of all links in trees, in document order. -/
def linksOf (nodes : List Node) : List String := (Node.preorderAll nodes).filterMap Node.linkUrl?

/-- Whether a URL, decoded and read from a directory, leads to a place. -/
def Leads (directory : Path) (url : String) (place : Path) : Prop :=
  ∃ text, decodeUrl url.toList = .ok text ∧ directory.resolve text = place

theorem linksOf_append (as bs : List Node) : linksOf (as ++ bs) = linksOf as ++ linksOf bs := by
  rw [linksOf, Node.preorderAll_append, List.filterMap_append]
  rfl

theorem linksOf_cons (node : Node) (nodes : List Node) :
    linksOf (node :: nodes) = linksOf [node] ++ linksOf nodes :=
  linksOf_append [node] nodes

theorem linksOf_eq_flatMap (nodes : List Node) :
    linksOf nodes = nodes.flatMap fun node => linksOf [node] := by
  induction nodes with
  | nil => rfl
  | cons node nodes ih => rw [linksOf_cons, ih, List.flatMap_cons]

/-- A branch that is no link has the links of what it holds. -/
theorem linksOf_branch (kind : Branch) {cs : List Node}
    (h : (Node.branch kind cs).linkUrl? = none) : linksOf [.branch kind cs] = linksOf cs := by
  rw [linksOf, Node.preorderAll, Node.preorderAll, List.append_nil, Node.preorder,
    List.filterMap_cons, h]
  rfl

/-- Lines that stand one below the other have the links of all lines. -/
theorem linksOf_lineParagraph (lines : List (List Node)) :
    linksOf [lineParagraph lines] = lines.flatMap linksOf := by
  rw [lineParagraph, linksOf_branch .paragraph rfl]
  induction lines with
  | nil => rfl
  | cons line lines ih =>
    cases lines with
    | nil => simp
    | cons next lines =>
      rw [List.intersperse_cons_cons, List.flatten_cons, List.flatten_cons, linksOf_append,
        linksOf_append, ih, List.flatMap_cons]
      rfl

theorem linksOf_linesIfAny (lines : List (List Node)) :
    linksOf (linesIfAny lines) = lines.flatMap linksOf := by
  cases lines with
  | nil => rfl
  | cons line lines => exact linksOf_lineParagraph (line :: lines)

/-! ## 3. Indexes -/

/-- The URL of an entry. -/
def IndexEntry.url (entry : IndexEntry) : String := String.ofList (encodePath entry.path)

theorem linksOf_taskItem (entry : IndexEntry) (state : BoxState) :
    linksOf [taskItem entry state] = [entry.url] := by
  cases state <;> rfl

/-- The entries of an index as it shows them: tasks first, then directories, then files. -/
def shownEntries (entries : List IndexEntry) : List IndexEntry :=
  entries.filter (fun e => e.taskItem?.isSome) ++
    (entries.filter (fun e => e.directoryLine?.isSome) ++
      entries.filter fun e => e.fileLine?.isSome)

theorem shownEntries_perm (entries : List IndexEntry) : (shownEntries entries).Perm entries := by
  induction entries with
  | nil => exact .refl _
  | cons entry entries ih =>
    obtain ⟨kind, name, path⟩ := entry
    cases kind with
    | task state => exact ih.cons _
    | directory => exact List.perm_middle.trans (ih.cons _)
    | file =>
      refine .trans ?_ (ih.cons _)
      rw [shownEntries, shownEntries, ← List.append_assoc, ← List.append_assoc]
      exact List.perm_middle

/-- What is made of some entries has their links, if what is made of one has its link. -/
theorem flatMap_filterMap_eq_map_url {α : Type} {make : IndexEntry → Option α}
    {links : α → List String} (h : ∀ e a, make e = some a → links a = [e.url])
    (entries : List IndexEntry) :
    (entries.filterMap make).flatMap links =
      (entries.filter fun e => (make e).isSome).map IndexEntry.url := by
  induction entries with
  | nil => rfl
  | cons e entries ih =>
    cases hmake : make e with
    | none => simp [hmake, ih]
    | some a => simp [hmake, ih, h e a hmake]

theorem linksOf_tasks (entries : List IndexEntry) :
    linksOf (entries.filterMap IndexEntry.taskItem?) =
      (entries.filter fun e => e.taskItem?.isSome).map IndexEntry.url := by
  rw [linksOf_eq_flatMap]
  refine flatMap_filterMap_eq_map_url ?_ entries
  rintro ⟨kind, name, path⟩ item h
  cases kind <;> cases h
  exact linksOf_taskItem _ _

theorem linksOf_directories (entries : List IndexEntry) :
    linksOf (linesIfAny (entries.filterMap IndexEntry.directoryLine?)) =
      (entries.filter fun e => e.directoryLine?.isSome).map IndexEntry.url := by
  rw [linksOf_linesIfAny]
  refine flatMap_filterMap_eq_map_url ?_ entries
  rintro ⟨kind, name, path⟩ line h
  cases kind <;> cases h
  rfl

theorem linksOf_files (entries : List IndexEntry) :
    linksOf (linesIfAny (entries.filterMap IndexEntry.fileLine?)) =
      (entries.filter fun e => e.fileLine?.isSome).map IndexEntry.url := by
  rw [linksOf_linesIfAny]
  refine flatMap_filterMap_eq_map_url ?_ entries
  rintro ⟨kind, name, path⟩ line h
  cases kind <;> cases h
  rfl

/-- **The links of an index are those of its entries**, in the order in which it shows them. -/
theorem linksOf_indexBody (entries : List IndexEntry) :
    linksOf (indexBody entries) = (shownEntries entries).map IndexEntry.url := by
  have hchecklist (tasks : List Node) :
      linksOf (if tasks.isEmpty then []
        else [.heading Depth.two [.text "Tasks"], .list false none false tasks]) =
        linksOf tasks := by
    cases tasks with
    | nil => rfl
    | cons task tasks =>
      rw [List.isEmpty_cons, if_neg Bool.false_ne_true, linksOf_cons]
      exact linksOf_branch (.list false none false) rfl
  have hbetween (none : Prop) [Decidable none] :
      linksOf (if none then [] else [.heading Depth.three [.text "Other files"]]) = [] := by
    split <;> rfl
  rw [indexBody, linksOf_append, linksOf_append, linksOf_append, hchecklist, hbetween,
    linksOf_tasks, linksOf_directories, linksOf_files, List.append_nil, shownEntries,
    List.map_append, List.map_append]

/-- Whether an index lists a place. -/
def Path.Lists (index p : Path) : Prop := p ≠ index ∧ index.parent.IsBeside p

section

variable {index : Path} {w : Write} {writes : List Write}

theorem entryOf?_isSome_iff :
    (entryOf? index w).isSome = true ↔
      w.path ≠ index ∧ isListed (w.path.relativeTo index.parent) = true := by
  rw [entryOf?]
  by_cases h : w.path = index ∨ (!isListed (w.path.relativeTo index.parent)) = true
  · rw [if_pos h]
    rw [Bool.not_eq_true'] at h
    constructor
    · intro hsome
      cases hsome
    · rintro ⟨hne, hlisted⟩
      rw [h.resolve_left hne] at hlisted
      cases hlisted
  · rw [if_neg h]
    rw [not_or, Bool.not_eq_true', Bool.not_eq_false] at h
    exact iff_of_true rfl h

/-- A write has an entry iff its place is listed. -/
theorem entryOf?_isSome_iff_lists (hindex : ∀ name ∈ index.names, IsProper name)
    (hw : ∀ name ∈ w.path.names, IsProper name) (hanchor : w.path.anchor = index.anchor)
    (habove : w.path ∉ index.parents) :
    (entryOf? index w).isSome = true ↔ index.Lists w.path := by
  have hparent : ∀ name ∈ index.parent.names, IsProper name :=
    fun name hname => hindex name ((List.dropLast_sublist _).mem hname)
  rw [entryOf?_isSome_iff, isListed_relativeTo_iff hw hparent hanchor]
  refine and_congr_right fun hne => or_iff_right fun heq => ?_
  by_cases hnil : index.names = []
  · refine hne (heq.trans (Path.eq_of_names_eq rfl ?_))
    rw [Path.parent, hnil, List.dropLast_nil]
  · exact habove (heq ▸ Path.parent_mem_parents hnil)

/-- Entries lead to the writes they belong to. -/
theorem map_resolve_entries (hindex : index.IsNormal) (hnormal : ∀ w ∈ writes, w.path.IsNormal) :
    (writes.filterMap (entryOf? index)).map (fun e => index.parent.resolve e.path) =
      (writes.filter fun w => (entryOf? index w).isSome).map Write.path := by
  induction writes with
  | nil => rfl
  | cons w writes ih =>
    have ih := ih fun v hv => hnormal v (List.mem_cons_of_mem _ hv)
    cases hentry : entryOf? index w with
    | none => simp [hentry, ih]
    | some entry =>
      have hleads : index.parent.resolve entry.path = w.path := by
        rw [path_of_entryOf? hentry, Path.resolve_relativeTo (hnormal w List.mem_cons_self)
          (Path.isNormal_parent hindex)]
      simp [hentry, ih, hleads]

/-- **An index leads to each place it lists once**, and to no other. -/
theorem exists_leads_of_createIndex {body : List Node} (hindex : index.IsNormal)
    (hnormal : ∀ w ∈ writes, w.path.IsNormal) (hdistinct : (writes.map Write.path).Nodup)
    (habove : ∀ w ∈ writes, w.path ∉ index.parents) (h : createIndex index writes = .ok body) :
    ∃ places, List.Forall₂ (Leads index.parent) (linksOf body) places ∧ places.Nodup ∧
      ∀ p, p ∈ places ↔ p ∈ writes.map Write.path ∧ index.Lists p := by
  obtain ⟨entries, hentries, rfl⟩ := map_eq_ok_iff.mp h
  have hperm : ((shownEntries entries).map fun e => index.parent.resolve e.path).Perm
      ((writes.filter fun w => (entryOf? index w).isSome).map Write.path) := by
    rw [← map_resolve_entries hindex hnormal]
    exact ((shownEntries_perm entries).trans (naturalSort_perm hentries)).map _
  refine ⟨_, ?_, hperm.nodup_iff.mpr (hdistinct.sublist (List.filter_sublist.map _)), fun p => ?_⟩
  · rw [linksOf_indexBody, List.forall₂_map_left_iff, List.forall₂_map_right_iff, List.forall₂_same]
    intro e _
    exact ⟨e.path, by rw [IndexEntry.url, String.toList_ofList, decodeUrl_encodePath], rfl⟩
  · rw [hperm.mem_iff, List.mem_map, List.mem_map]
    have hsome (w : Write) (hw : w ∈ writes) :
        (entryOf? index w).isSome = true ↔ index.Lists w.path :=
      entryOf?_isSome_iff_lists hindex.isProper (hnormal w hw).isProper
        ((hnormal w hw).anchor_eq.trans hindex.anchor_eq.symm) (habove w hw)
    constructor
    · rintro ⟨w, hw, rfl⟩
      obtain ⟨hw, hentry⟩ := List.mem_filter.mp hw
      exact ⟨⟨w, hw, rfl⟩, (hsome w hw).mp hentry⟩
    · rintro ⟨⟨w, hw, rfl⟩, hlists⟩
      exact ⟨w, List.mem_filter.mpr ⟨hw, (hsome w hw).mpr hlists⟩, rfl⟩

end

/-! ## 4. Tables of contents

Items are sorted by their ways, and so the places stand in another order than the writes.  An item
has one link, and its mark is an emphasis beside the link. -/

/-- The mark of an item. -/
def thisFile : Node := .emphasis [.text "(this file)"]

/-- An item of a table of contents for a place: it has one link, which leads to the place, and it
is marked iff the table stands there. -/
structure IsItemOf (toc place : Path) (item : Node) : Prop where
  leads : ∃ url, linksOf [item] = [url] ∧ Leads toc.parent url place
  marked_iff : thisFile ∈ item.preorder ↔ place = toc

section

variable {root toc place : Path} {writes : List Write}

theorem linksOf_contentsItem :
    linksOf [contentsItem root toc place] = [String.ofList (contentsUrl toc place)] := by
  rw [contentsItem, linksOf_branch (.listItem none false) rfl,
    linksOf_branch .paragraph rfl]
  split <;> rfl

theorem isItemOf_contentsItem (htoc : toc.IsNormal) (hplace : place.IsNormal) :
    IsItemOf toc place (contentsItem root toc place) where
  leads := by
    refine ⟨_, linksOf_contentsItem, (place.relativeTo toc.parent).toList, ?_, ?_⟩
    · rw [String.toList_ofList, contentsUrl, decodeUrl_encodePath]
    · exact Path.resolve_relativeTo hplace (Path.isNormal_parent htoc)
  marked_iff := by
    rw [contentsItem]
    by_cases h : place = toc <;>
      simp [h, Node.preorder, Node.preorderAll, thisFileMark, thisFile]

/-- **A table of contents has one item for each place**, and marks its own. -/
theorem exists_items_of_createContents {contents : Node} (htoc : toc.IsNormal)
    (hnormal : ∀ w ∈ writes, w.path.IsNormal) (h : createContents root toc writes = .ok contents) :
    ∃ items places, contents = .list false none false items ∧
      List.Forall₂ (fun place item => IsItemOf toc place item) places items ∧
        places.Perm (writes.map Write.path) := by
  obtain ⟨places, hsorted, h⟩ := bind_eq_ok_iff.mp h
  obtain rfl := pure_eq_ok_iff.mp h
  have hperm := naturalSort_perm hsorted
  refine ⟨_, places, rfl, ?_, hperm⟩
  rw [List.forall₂_map_right_iff, List.forall₂_same]
  intro place hplace
  obtain ⟨w, hw, rfl⟩ := List.mem_map.mp (hperm.mem_iff.mp hplace)
  exact isItemOf_contentsItem htoc (hnormal w hw)

end

/-! ## 5. Both listings -/

/-- **Listings are sound and complete.**  Let the writes be at distinct places, none of which is a
directory above the listing.  If there is an index, its links lead, each one once, to the places
that it lists, and if there is a table of contents, it has one item for each place, of which the
one that leads to the table itself is marked. -/
theorem listings_complete {listing root : Path} {writes : List Write} (hlisting : listing.IsNormal)
    (hnormal : ∀ w ∈ writes, w.path.IsNormal) (hdistinct : (writes.map Write.path).Nodup)
    (habove : ∀ w ∈ writes, w.path ∉ listing.parents) :
    (∀ body, createIndex listing writes = .ok body →
      ∃ places, List.Forall₂ (Leads listing.parent) (linksOf body) places ∧ places.Nodup ∧
        ∀ p, p ∈ places ↔ p ∈ writes.map Write.path ∧ p ≠ listing ∧
          ((∃ name, p = listing.parent.child name) ∨
            ∃ name, p = (listing.parent.child name).child indexName)) ∧
      ∀ contents, createContents root listing writes = .ok contents →
        ∃ items places, contents = .list false none false items ∧
          List.Forall₂ (fun place item => (∃ url, linksOf [item] = [url] ∧
            Leads listing.parent url place) ∧ (thisFile ∈ item.preorder ↔ place = listing))
              places items ∧
          places.Nodup ∧ ∀ p, p ∈ places ↔ p ∈ writes.map Write.path := by
  refine ⟨fun body h => exists_leads_of_createIndex hlisting hnormal hdistinct habove h,
    fun contents h => ?_⟩
  obtain ⟨items, places, hcontents, hitems, hperm⟩ :=
    exists_items_of_createContents hlisting hnormal h
  exact ⟨items, places, hcontents, hitems.imp fun place item h => ⟨h.leads, h.marked_iff⟩,
    hperm.nodup_iff.mpr hdistinct, fun p => hperm.mem_iff⟩

/-- Writes whose names hold what URLs and paths are cut at. -/
def awkwardWrites : List Write :=
  [⟨.ofString "/n/index.md", "", .root [], none⟩,
    ⟨.ofString "/n/50% off?#1:x.md", "", .root [.heading .one [.text "[ ] Buy"]], none⟩,
    ⟨.ofString "/n/s/index.md", "", .root [], none⟩,
    ⟨.ofString "/n/s/\\..md", "", .root [], none⟩,
    ⟨.ofString "/n/a/index.md/b.md", "", .root [], none⟩,
    ⟨.ofString "/o.md", "", .root [], none⟩]

/-- The listings in the first of them. -/
theorem listings_complete_awkwardWrites :
    ∃ body contents,
      createIndex (.ofString "/n/index.md") awkwardWrites = .ok body ∧
      createContents (.ofString "/n") (.ofString "/n/index.md") awkwardWrites = .ok contents ∧
      (∃ places, List.Forall₂ (Leads (Path.ofString "/n/index.md").parent) (linksOf body) places ∧
        places.Nodup ∧ ∀ p, p ∈ places ↔
          p ∈ awkwardWrites.map Write.path ∧ p ≠ .ofString "/n/index.md" ∧
            ((∃ name, p = (Path.ofString "/n/index.md").parent.child name) ∨
              ∃ name, p = ((Path.ofString "/n/index.md").parent.child name).child indexName)) ∧
      ∃ items places, contents = .list false none false items ∧
        List.Forall₂ (fun place item => (∃ url, linksOf [item] = [url] ∧
          Leads (Path.ofString "/n/index.md").parent url place) ∧
            (thisFile ∈ item.preorder ↔ place = .ofString "/n/index.md")) places items ∧
        places.Nodup ∧ ∀ p, p ∈ places ↔ p ∈ awkwardWrites.map Write.path := by
  have hentries : ∃ entries, indexEntries (.ofString "/n/index.md") awkwardWrites = .ok entries :=
    exists_indexEntries_eq_ok _ (by decide +kernel)
  have hcontents : ∃ contents, createContents (.ofString "/n") (.ofString "/n/index.md")
      awkwardWrites = .ok contents :=
    exists_createContents_eq_ok _ _ (by decide +kernel)
  obtain ⟨entries, hentries⟩ := hentries
  obtain ⟨contents, hcontents⟩ := hcontents
  have hbody : createIndex (.ofString "/n/index.md") awkwardWrites = .ok (indexBody entries) :=
    map_eq_ok_iff.mpr ⟨entries, hentries, rfl⟩
  have hlistings := @listings_complete (.ofString "/n/index.md") (.ofString "/n") awkwardWrites
    (by decide +kernel) (by decide +kernel) (by decide +kernel) (by decide +kernel)
  exact ⟨_, contents, hbody, hcontents, hlistings.1 _ hbody, hlistings.2 _ hcontents⟩

end TaskNotes
