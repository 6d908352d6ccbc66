/-
# The tree of indexes

Indexes list the documents beside them and the indexes of the directories beside them, and
indexes are added wherever documents lie and none is written.  Together these two make a tree:
every document has one index that lists it, its listing index, and going from listing to listing
leads from the index of the root to every document, in one way (`IndexTree`).

* `Covered` says where things are written once indexes have been added: every directory from the
  root down to a document has its index.
* `Covered.entryOf?_isSome_iff` is the one fact about listings: an index has an entry for a write
  iff it is the listing index of the write.  The ways are read off from it by going up.
* `indexTree_iff`: the tree comes about iff the names in it can be put in order.  A name in which
  a numeral is too long to be read stops it (`longName_unlisted`).

Going up ends because the listing index of a place is nearer to the root (`Path.rank`): the index
of a directory is not deeper than what is beside it, and lies above the indexes of the directories
in it.  That there is only one way follows without any order, since at each step only one index has
an entry.

The hypothesis that no write is a directory above another is about the files: an index that would
have to be added below a document could not be written.
-/
import TaskNotes.Proofs.Confinement
import TaskNotes.Proofs.FixedPoint
import TaskNotes.Proofs.ListedPlaces

namespace TaskNotes

/-! ## 1. Paths -/

namespace Path

variable {p directory root : Path}

/-- The directory whose index lists a path: its own, or the one above for an index. -/
def listingDirectory (p : Path) : Path := if p.name = indexName then p.parent.parent else p.parent

/-- The index that lists a path. -/
def listingIndex (p : Path) : Path := p.listingDirectory.child indexName

theorem anchor_eq_of_mem_parents (h : root ∈ p.parents) : root.anchor = p.anchor := by
  obtain ⟨n, -, rfl⟩ := mem_parents_iff.mp h
  rfl

theorem mem_names_of_mem_parents {name : Name} (h : root ∈ p.parents) (hname : name ∈ root.names) :
    name ∈ p.names := by
  obtain ⟨n, -, rfl⟩ := mem_parents_iff.mp h
  exact List.mem_of_mem_take hname

theorem length_lt_of_mem_parents (h : root ∈ p.parents) : root.names.length < p.names.length := by
  obtain ⟨n, hn, rfl⟩ := mem_parents_iff.mp h
  rw [List.length_take]
  omega

theorem length_le_of_isWithin (h : directory.isWithin root = true) :
    root.names.length ≤ directory.names.length := by
  rw [isWithin, Bool.or_eq_true, beq_iff_eq, List.contains_iff_mem] at h
  rcases h with rfl | h
  · exact Nat.le_refl _
  · exact (length_lt_of_mem_parents h).le

/-- A path below a root is the child of its directory, if its name leads down. -/
theorem parent_child_name_of_isProper (hproper : ∀ name ∈ p.names, IsProper name)
    (h : root ∈ p.parents) : p.parent.child p.name = p := by
  have hne : p.names ≠ [] := List.length_pos_iff.mp (length_pos_of_mem_parents h)
  refine parent_child_name fun hname => ?_
  have hlast : p.name ∈ p.names := by
    rw [Path.name, List.getLast?_eq_some_getLast hne]
    exact List.getLast_mem hne
  rw [hname] at hlast
  exact absurd (hproper _ hlast).1.1 Bool.false_ne_true

theorem listingDirectory_child {name : Name} (h : name ≠ indexName) :
    (directory.child name).listingDirectory = directory := by
  rw [listingDirectory, name_child, if_neg h, parent_child]

theorem listingDirectory_child_indexName :
    (directory.child indexName).listingDirectory = directory.parent := by
  rw [listingDirectory, name_child, if_pos rfl, parent_child]

/-- **What a directory has beside its index**: the paths whose listing directory it is. -/
theorem isBeside_iff (hproper : ∀ name ∈ p.names, IsProper name) (hbelow : root ∈ p.parents)
    (hwithin : directory.isWithin root = true) :
    p ≠ directory.child indexName ∧ directory.IsBeside p ↔
      p ≠ root.child indexName ∧ directory = p.listingDirectory := by
  constructor
  · rintro ⟨hne, ⟨name, rfl⟩ | ⟨name, rfl⟩⟩
    · have hname : name ≠ indexName := fun h => hne (h ▸ rfl)
      refine ⟨fun h => hname ?_, (listingDirectory_child hname).symm⟩
      have := congrArg Path.name h
      rwa [name_child, name_child] at this
    · refine ⟨fun h => ?_, ?_⟩
      · have hroot : directory.child name = root := child_injective indexName h
        have := length_le_of_isWithin hwithin
        rw [← hroot, length_child] at this
        omega
      · rw [listingDirectory_child_indexName, parent_child]
  · rintro ⟨hroot, rfl⟩
    have hp : p.parent.child p.name = p := parent_child_name_of_isProper hproper hbelow
    by_cases hname : p.name = indexName
    · rw [hname] at hp
      have hparent : p.parent ≠ root := fun h => hroot (by rw [← h, hp])
      have habove : root ∈ p.parent.parents := mem_parents_parent hbelow hparent
      have hparentProper : ∀ name ∈ p.parent.names, IsProper name :=
        fun name hname => hproper name (mem_names_of_mem_parent hname)
      have hchild := parent_child_name_of_isProper hparentProper habove
      rw [listingDirectory, if_pos hname]
      refine ⟨fun h => ?_, .inr ⟨p.parent.name, by rw [hchild, hp]⟩⟩
      have hlength := congrArg (fun q : Path => q.parent.names.length) h
      have hpos := length_pos_of_mem_parents habove
      simp only [parent_child, length_parent] at hlength hpos
      omega
    · rw [listingDirectory, if_neg hname]
      refine ⟨fun h => hname ?_, .inl ⟨p.name, hp.symm⟩⟩
      rw [h, name_child]

end Path

/-! ## 2. Entries

An index is in a directory, and has an entry for what is beside it there: a document, or the index
of a directory beside it.  Read the other way round, each path has one directory whose index lists
it (`Path.listingDirectory`). -/

/-- Whether the index at a place, made for writes, has an entry for a write. -/
def IsEntryOf (writes : List Write) (index w : Write) : Prop :=
  ∃ entries entry, indexEntries index.path writes = .ok entries ∧
    entryOf? index.path w = some entry ∧ entry ∈ entries

/-- Writes below a root, of which none is a directory above another, with an index in every
directory. -/
structure Covered (root : Path) (writes : List Write) : Prop where
  nodup : (writes.map Write.path).Nodup
  isProper : ∀ w ∈ writes, ∀ name ∈ w.path.names, IsProper name
  below : ∀ w ∈ writes, root ∈ w.path.parents
  free : ∀ v ∈ writes, ∀ w ∈ writes, v.path ∉ w.path.parents
  covered : ∀ w ∈ writes, ∀ directory ∈ w.path.parents, directory.isWithin root = true →
    ∃ index ∈ writes, index.path = directory.child indexName

/-- Whether all ways that indexes show can be read. -/
def Readable (root : Path) (writes : List Write) : Prop :=
  ∀ w ∈ writes, w.path ≠ root.child indexName →
    CanSort (w.path.relativeTo w.path.listingDirectory).toList

section

variable {root : Path} {writes : List Write} {index v w : Write}

theorem isEntryOf_iff (hw : w ∈ writes) :
    IsEntryOf writes index w ↔ (entryOf? index.path w).isSome = true ∧
      ∃ entries, indexEntries index.path writes = .ok entries := by
  constructor
  · rintro ⟨entries, entry, hentries, hentry, -⟩
    exact ⟨Option.isSome_iff_exists.mpr ⟨entry, hentry⟩, entries, hentries⟩
  · rintro ⟨hsome, entries, hentries⟩
    obtain ⟨entry, hentry⟩ := Option.isSome_iff_exists.mp hsome
    exact ⟨entries, entry, hentries, hentry,
      (naturalSort_perm hentries).mem_iff.mpr (List.mem_filterMap.mpr ⟨w, hw, hentry⟩)⟩

/-- **An index is made iff the ways to what it lists can be read.** -/
theorem exists_indexEntries_iff {path : Path} :
    (∃ entries, indexEntries path writes = .ok entries) ↔
      ∀ w ∈ writes, (entryOf? path w).isSome = true →
        CanSort (w.path.relativeTo path.parent).toList := by
  rw [indexEntries, exists_naturalSort_eq_ok_iff]
  constructor
  · intro h w hw hsome
    obtain ⟨entry, hentry⟩ := Option.isSome_iff_exists.mp hsome
    rw [← path_of_entryOf? hentry]
    exact h entry (List.mem_filterMap.mpr ⟨w, hw, hentry⟩)
  · intro h entry hentry
    obtain ⟨w, hw, hentry⟩ := List.mem_filterMap.mp hentry
    rw [path_of_entryOf? hentry]
    exact h w hw (Option.isSome_iff_exists.mpr ⟨entry, hentry⟩)

namespace Covered

variable (h : Covered root writes)

include h

theorem eq_of_path_eq (hv : v ∈ writes) (hw : w ∈ writes) (hpath : v.path = w.path) : v = w :=
  List.inj_on_of_nodup_map h.nodup hv hw hpath

theorem parent_child_indexName (hindex : index ∈ writes) (hname : index.path.name = indexName) :
    index.path.parent.child indexName = index.path := by
  have := Path.parent_child_name_of_isProper (h.isProper index hindex) (h.below index hindex)
  rwa [hname] at this

/-- **An index has an entry for a write iff it is its listing index.**  The index of the root has
none. -/
theorem entryOf?_isSome_iff (hindex : index ∈ writes) (hname : index.path.name = indexName)
    (hw : w ∈ writes) :
    (entryOf? index.path w).isSome = true ↔
      w.path ≠ root.child indexName ∧ index.path = w.path.listingIndex := by
  have hpath := h.parent_child_indexName hindex hname
  have hanchor : w.path.anchor = index.path.anchor :=
    (Path.anchor_eq_of_mem_parents (h.below w hw)).symm.trans
      (Path.anchor_eq_of_mem_parents (h.below index hindex))
  have hbeside := Path.isBeside_iff (h.isProper w hw) (h.below w hw)
    (Path.parent_isWithin (h.below index hindex))
  rw [hpath] at hbeside
  rw [entryOf?_isSome_iff_lists (h.isProper index hindex) (h.isProper w hw) hanchor
    (h.free w hw index hindex), Path.Lists, hbeside]
  refine and_congr_right fun _ => ⟨fun heq => ?_, fun heq => ?_⟩
  · rw [Path.listingIndex, ← heq, hpath]
  · rw [heq, Path.listingIndex, Path.parent_child]

/-- Every write but the index of the root has its listing index among the writes. -/
theorem exists_listingIndex (hw : w ∈ writes) (hroot : w.path ≠ root.child indexName) :
    ∃ index ∈ writes, index.path = w.path.listingIndex := by
  have hbelow := h.below w hw
  have hparent : w.path.parent ∈ w.path.parents :=
    Path.parent_mem_parents (List.length_pos_iff.mp (Path.length_pos_of_mem_parents hbelow))
  by_cases hname : w.path.name = indexName
  · have hpath := h.parent_child_indexName hw hname
    have habove : root ∈ w.path.parent.parents :=
      Path.mem_parents_parent hbelow fun heq => hroot (by rw [← heq, hpath])
    have hgrand : w.path.parent.parent ∈ w.path.parent.parents :=
      Path.parent_mem_parents (List.length_pos_iff.mp (Path.length_pos_of_mem_parents habove))
    rw [Path.listingIndex, Path.listingDirectory, if_pos hname]
    exact h.covered w hw _ (Path.mem_parents_trans hparent hgrand) (Path.parent_isWithin habove)
  · rw [Path.listingIndex, Path.listingDirectory, if_neg hname]
    exact h.covered w hw _ hparent (Path.parent_isWithin hbelow)

theorem ne_and_eq_of_isEntryOf (hindex : index ∈ writes) (hname : index.path.name = indexName)
    (hw : w ∈ writes) (hentry : IsEntryOf writes index w) :
    w.path ≠ root.child indexName ∧ index.path = w.path.listingIndex :=
  (h.entryOf?_isSome_iff hindex hname hw).mp ((isEntryOf_iff hw).mp hentry).1

theorem isEntryOf_iff (hreadable : Readable root writes) (hindex : index ∈ writes)
    (hname : index.path.name = indexName) (hw : w ∈ writes) :
    IsEntryOf writes index w ↔
      w.path ≠ root.child indexName ∧ index.path = w.path.listingIndex := by
  refine ⟨h.ne_and_eq_of_isEntryOf hindex hname hw, fun hlists => ?_⟩
  refine (TaskNotes.isEntryOf_iff hw).mpr ⟨(h.entryOf?_isSome_iff hindex hname hw).mpr hlists, ?_⟩
  refine exists_indexEntries_iff.mpr fun v hv hsome => ?_
  obtain ⟨hroot, hpath⟩ := (h.entryOf?_isSome_iff hindex hname hv).mp hsome
  rw [hpath, Path.listingIndex, Path.parent_child]
  exact hreadable v hv hroot

end Covered

end

/-! ## 3. Trails

A trail is a list of writes in which each is listed by the index behind it.  Its last member is the
index of the root. -/

/-- A way to a write from listing to listing, beginning at the index of a root; the last comes
first. -/
inductive Trail (root : Path) (writes : List Write) : List Write → Write → Prop
  | start {w : Write} (hw : w ∈ writes) (hpath : w.path = root.child indexName) :
      Trail root writes [w] w
  | step {trail : List Write} {index w : Write} (h : Trail root writes trail index)
      (hname : index.path.name = indexName) (hw : w ∈ writes)
      (hentry : IsEntryOf writes index w) : Trail root writes (w :: trail) w

/-- How far a path is from the root, where an index comes before what is beside it. -/
def Path.rank (p : Path) : Nat := 2 * p.names.length + if p.name = indexName then 0 else 1

theorem Path.rank_listingIndex_lt {p root : Path} (h : root ∈ p.parents)
    (hparent : p.name = indexName → root ∈ p.parent.parents) : p.listingIndex.rank < p.rank := by
  have hpos := length_pos_of_mem_parents h
  rw [rank, listingIndex, name_child, if_pos rfl, length_child, listingDirectory, rank]
  by_cases hname : p.name = indexName
  · have := length_pos_of_mem_parents (hparent hname)
    rw [if_pos hname, if_pos hname, length_parent, length_parent]
    rw [length_parent] at this
    omega
  · rw [if_neg hname, if_neg hname, length_parent]
    omega

section

variable {root : Path} {writes : List Write} {w : Write} {trail other : List Write}

theorem Trail.mem (ht : Trail root writes trail w) : w ∈ writes := by
  cases ht with
  | start hw _ => exact hw
  | step _ _ hw _ => exact hw

namespace Covered

variable (h : Covered root writes)

include h

/-- **There is at most one way to a write**, because only one index has an entry for it. -/
theorem trail_unique (ht : Trail root writes trail w) (hother : Trail root writes other w) :
    trail = other := by
  induction ht generalizing other with
  | start hw hpath =>
    cases hother with
    | start => rfl
    | step hbefore hname _ hentry =>
      exact absurd hpath (h.ne_and_eq_of_isEntryOf hbefore.mem hname hw hentry).1
  | step hbefore hname hw hentry ih =>
    obtain ⟨hroot, hlists⟩ := h.ne_and_eq_of_isEntryOf hbefore.mem hname hw hentry
    cases hother with
    | start _ hpath => exact absurd hpath hroot
    | step hbefore' hname' _ hentry' =>
      have hlists' := (h.ne_and_eq_of_isEntryOf hbefore'.mem hname' hw hentry').2
      have heq := h.eq_of_path_eq hbefore'.mem hbefore.mem (hlists'.trans hlists.symm)
      rw [ih (heq ▸ hbefore')]

/-- **There is a way to each write**, by going up from listing index to listing index. -/
theorem exists_trail (hreadable : Readable root writes) (hw : w ∈ writes) :
    ∃ trail, Trail root writes trail w := by
  induction hrank : w.path.rank using Nat.strong_induction_on generalizing w with
  | _ n ih =>
    by_cases hroot : w.path = root.child indexName
    · exact ⟨_, .start hw hroot⟩
    · obtain ⟨index, hindex, hpath⟩ := h.exists_listingIndex hw hroot
      have hname : index.path.name = indexName := by
        rw [hpath, Path.listingIndex, Path.name_child]
      have hlt : index.path.rank < n := by
        rw [hpath, ← hrank]
        refine Path.rank_listingIndex_lt (h.below w hw) fun hname => ?_
        refine Path.mem_parents_parent (h.below w hw) fun heq => hroot ?_
        rw [← heq, h.parent_child_indexName hw hname]
      obtain ⟨trail, htrail⟩ := ih _ hlt hindex rfl
      exact ⟨_, htrail.step hname hw
        ((h.isEntryOf_iff hreadable hindex hname hw).mpr ⟨hroot, hpath⟩)⟩

end Covered

end

/-! ## 4. The tree

Adding indexes sorts the directories that lack one, and making an index sorts its entries.  These
are the only two steps that can fail, and each fails exactly when a name cannot be read; so the
tree comes about under the condition of both. -/

/-- Where something will be written once indexes have been added. -/
def placesOf (root : Path) (commands : List Command) : List Path :=
  (writesOf commands).map Write.path ++
    (missingIndexes root commands).map fun directory => directory.child indexName

/-- **Commands with their indexes.**  To the given commands indexes are added where they lack one;
every directory has one index; every write has an entry in one index, except for that of the root;
one way leads to every write; and nothing more is to be added. -/
structure IndexTree (root : Path) (commands out : List Command) : Prop where
  kept : ∃ directories : List Path, directories.Nodup ∧
    (∀ directory, directory ∈ directories ↔ LacksIndex root commands directory) ∧
    out = commands ++ directories.map fun directory =>
      .write (.ofText (directory.child indexName) (newIndexContent directory))
  one_index : ∀ w ∈ writesOf out, ∀ directory ∈ w.path.parents, directory.isWithin root = true →
    ((writesOf out).map Write.path).count (directory.child indexName) = 1
  one_entry : ∀ w ∈ writesOf out, w.path ≠ root.child indexName →
    ∃ index ∈ writesOf out, index.path = w.path.listingDirectory.child indexName ∧
      ∀ other ∈ writesOf out, other.path.name = indexName →
        (IsEntryOf (writesOf out) other w ↔ other = index)
  one_trail : ∀ w ∈ writesOf out, ∃! trail, Trail root (writesOf out) trail w
  settled : addMissingIndexes root out = .ok out

section

variable {root : Path} {commands out : List Command}

theorem exists_of_addMissingIndexes (hout : addMissingIndexes root commands = .ok out) :
    ∃ directories : List Path, directories.Perm (missingIndexes root commands) ∧
      out = commands ++ directories.map fun directory =>
        .write (.ofText (directory.child indexName) (newIndexContent directory)) := by
  obtain ⟨directories, hsorted, hout⟩ := bind_eq_ok_iff.mp hout
  exact ⟨directories, naturalSort_perm hsorted, (pure_eq_ok_iff.mp hout).symm⟩

/-- **Indexes are added iff the directories can be read.** -/
theorem exists_addMissingIndexes_iff :
    (∃ out, addMissingIndexes root commands = .ok out) ↔
      ∀ directory ∈ missingIndexes root commands, CanSort directory.toList := by
  constructor
  · rintro ⟨out, hout⟩
    obtain ⟨directories, hsorted, -⟩ := bind_eq_ok_iff.mp hout
    exact canSort_of_naturalSort_eq_ok hsorted
  · intro h
    obtain ⟨directories, hsorted⟩ := exists_naturalSort_eq_ok h
    exact ⟨_, bind_eq_ok_iff.mpr ⟨directories, hsorted, rfl⟩⟩

theorem map_path_perm_placesOf (hout : addMissingIndexes root commands = .ok out) :
    ((writesOf out).map Write.path).Perm (placesOf root commands) := by
  obtain ⟨directories, hperm, rfl⟩ := exists_of_addMissingIndexes hout
  rw [writesOf_append, writesOf_map_write, List.map_append, List.map_map, placesOf]
  exact (hperm.map _).append_left _

/-- What is written is given, or it is the index of a directory that lacks one. -/
theorem exists_of_mem_placesOf {p : Path} (hp : p ∈ placesOf root commands) :
    (∃ w ∈ writesOf commands, p = w.path) ∨
      ∃ directory, LacksIndex root commands directory ∧ p = directory.child indexName := by
  rcases List.mem_append.mp hp with hp | hp
  · obtain ⟨w, hw, rfl⟩ := List.mem_map.mp hp
    exact .inl ⟨w, hw, rfl⟩
  · obtain ⟨directory, hdirectory, rfl⟩ := List.mem_map.mp hp
    exact .inr ⟨directory, mem_missingIndexes_iff.mp hdirectory, rfl⟩

section

variable (hdistinct : ((writesOf commands).map Write.path).Nodup)
  (hproper : ∀ w ∈ writesOf commands, ∀ name ∈ w.path.names, IsProper name)
  (hbelow : ∀ w ∈ writesOf commands, root ∈ w.path.parents)
  (hfree : ∀ p ∈ placesOf root commands, ∀ q ∈ placesOf root commands, p ∉ q.parents)

include hdistinct in
theorem nodup_placesOf : (placesOf root commands).Nodup := by
  refine List.Nodup.append hdistinct ?_ ?_
  · exact ((nodup_eraseDups _).filter _).map (Path.child_injective indexName)
  · intro p hp hindex
    obtain ⟨w, hw, rfl⟩ := List.mem_map.mp hp
    obtain ⟨directory, hdirectory, hpath⟩ := List.mem_map.mp hindex
    exact (mem_missingIndexes_iff.mp hdirectory).2.2 w hw hpath.symm

include hproper in
theorem isProper_of_mem_placesOf {p : Path} (hp : p ∈ placesOf root commands) :
    ∀ name ∈ p.names, IsProper name := by
  rcases exists_of_mem_placesOf hp with ⟨w, hw, rfl⟩ | ⟨directory, ⟨⟨w, hw, hparents⟩, -⟩, rfl⟩
  · exact hproper w hw
  · intro name hname
    rcases Path.mem_names_child.mp hname with hname | rfl
    · exact hproper w hw name (Path.mem_names_of_mem_parents hparents hname)
    · exact isProper_indexName

include hbelow in
theorem below_of_mem_placesOf {p : Path} (hp : p ∈ placesOf root commands) : root ∈ p.parents := by
  rcases exists_of_mem_placesOf hp with ⟨w, hw, rfl⟩ | ⟨directory, ⟨-, hwithin, -⟩, rfl⟩
  · exact hbelow w hw
  · exact Path.mem_parents_child hwithin _

include hdistinct hproper hbelow hfree in
/-- Once indexes have been added, everything is covered, and no directory lacks one. -/
theorem covered_of_addMissingIndexes (hout : addMissingIndexes root commands = .ok out) :
    Covered root (writesOf out) ∧ ∀ directory, ¬ LacksIndex root out directory := by
  have hperm := map_path_perm_placesOf hout
  have hplace : ∀ w ∈ writesOf out, w.path ∈ placesOf root commands :=
    fun w hw => hperm.mem_iff.mp (List.mem_map_of_mem hw)
  obtain ⟨added, hadded, -, hmem⟩ := indexesAdded_of_addMissingIndexes hout
  have hlacks (directory : Path) : ¬ LacksIndex root out directory :=
    hadded.not_lacksIndex (fun d => (hmem d).mpr) fun d => (hmem d).mp
  refine ⟨⟨hperm.nodup_iff.mpr (nodup_placesOf hdistinct),
    fun w hw => isProper_of_mem_placesOf hproper (hplace w hw),
    fun w hw => below_of_mem_placesOf hbelow (hplace w hw),
    fun v hv w hw => hfree _ (hplace v hv) _ (hplace w hw), ?_⟩, hlacks⟩
  intro w hw directory hdirectory hwithin
  by_contra hnone
  push Not at hnone
  exact hlacks directory ⟨⟨w, hw, hdirectory⟩, hwithin, hnone⟩

include hdistinct hproper hbelow hfree in
theorem indexTree_of_addMissingIndexes (hout : addMissingIndexes root commands = .ok out)
    (hreadable : ∀ p ∈ placesOf root commands, p ≠ root.child indexName →
      CanSort (p.relativeTo p.listingDirectory).toList) : IndexTree root commands out := by
  obtain ⟨hcovered, hlacks⟩ := covered_of_addMissingIndexes hdistinct hproper hbelow hfree hout
  have hreadable : Readable root (writesOf out) := fun w hw =>
    hreadable w.path ((map_path_perm_placesOf hout).mem_iff.mp (List.mem_map_of_mem hw))
  constructor
  case kept =>
    obtain ⟨directories, hperm, hout⟩ := exists_of_addMissingIndexes hout
    refine ⟨directories, hperm.nodup_iff.mpr ((nodup_eraseDups _).filter _), fun d => ?_, hout⟩
    rw [hperm.mem_iff, mem_missingIndexes_iff]
  case one_index =>
    intro w hw directory hdirectory hwithin
    obtain ⟨index, hindex, hpath⟩ := hcovered.covered w hw directory hdirectory hwithin
    exact List.count_eq_one_of_mem hcovered.nodup (hpath ▸ List.mem_map_of_mem hindex)
  case one_entry =>
    intro w hw hroot
    obtain ⟨index, hindex, hpath⟩ := hcovered.exists_listingIndex hw hroot
    refine ⟨index, hindex, hpath, fun other hother hname => ?_⟩
    rw [hcovered.isEntryOf_iff hreadable hother hname hw, ← hpath]
    constructor
    · exact fun hlists => hcovered.eq_of_path_eq hother hindex hlists.2
    · rintro rfl
      exact ⟨hroot, rfl⟩
  case one_trail =>
    intro w hw
    obtain ⟨trail, htrail⟩ := hcovered.exists_trail hreadable hw
    exact ⟨trail, htrail, fun other hother => hcovered.trail_unique hother htrail⟩
  case settled => exact addMissingIndexes_eq_self hlacks

/-- In a tree of indexes, all ways that indexes show can be read. -/
theorem IndexTree.canSort (h : IndexTree root commands out) {w : Write} (hw : w ∈ writesOf out)
    (hroot : w.path ≠ root.child indexName) :
    CanSort (w.path.relativeTo w.path.listingDirectory).toList := by
  obtain ⟨index, hindex, hpath, hentry⟩ := h.one_entry w hw hroot
  have hname : index.path.name = indexName := by rw [hpath, Path.name_child]
  obtain ⟨hsome, hmade⟩ := (isEntryOf_iff hw).mp ((hentry index hindex hname).mpr rfl)
  have hread := exists_indexEntries_iff.mp hmade w hw hsome
  rwa [hpath, Path.parent_child] at hread

end

end

/-- **Indexes make every document reachable, iff the names can be read.**  Let the writes be at
distinct places below a root, of which none is a directory above another, also with the indexes
that are to be added.  Then the indexes can be added and make a tree iff the numerals can be read
in the directories that are given an index, and in the ways from indexes to what they list. -/
theorem indexTree_iff {root : Path} {commands : List Command}
    (hdistinct : ((writesOf commands).map Write.path).Nodup)
    (hproper : ∀ w ∈ writesOf commands, ∀ name ∈ w.path.names, IsProper name)
    (hbelow : ∀ w ∈ writesOf commands, root ∈ w.path.parents)
    (hfree : ∀ p ∈ placesOf root commands, ∀ q ∈ placesOf root commands, p ∉ q.parents) :
    (∃ out, addMissingIndexes root commands = .ok out ∧ IndexTree root commands out) ↔
      (∀ directory ∈ missingIndexes root commands, CanSort directory.toList) ∧
        ∀ p ∈ placesOf root commands, p ≠ root.child indexName →
          CanSort (p.relativeTo p.listingDirectory).toList := by
  constructor
  · rintro ⟨out, hout, htree⟩
    refine ⟨exists_addMissingIndexes_iff.mp ⟨out, hout⟩, fun p hp hroot => ?_⟩
    obtain ⟨w, hw, rfl⟩ := List.mem_map.mp ((map_path_perm_placesOf hout).mem_iff.mpr hp)
    exact htree.canSort hw hroot
  · rintro ⟨hdirectories, hreadable⟩
    obtain ⟨out, hout⟩ := exists_addMissingIndexes_iff.mpr hdirectories
    exact ⟨out, hout,
      indexTree_of_addMissingIndexes hdistinct hproper hbelow hfree hout hreadable⟩

/-- Documents in a directory with an index, and further down without. -/
def nestedCommands : List Command :=
  [.write ⟨.ofString "//n/a.md", "a\n", .root [.paragraph [.text "a"]], none⟩,
    .delete (.ofString "//n/index.md"),
    .write ⟨.ofString "//n/s/t/b 2.md", "b\n", .root [.paragraph [.text "b"]], none⟩,
    .write ⟨.ofString "//n/s/index.md", "s\n", .root [.paragraph [.text "s"]], none⟩]

/-- The tree over them. -/
theorem indexTree_iff_nestedCommands :
    ((writesOf nestedCommands).map Write.path).Nodup ∧
      (∀ w ∈ writesOf nestedCommands, ∀ name ∈ w.path.names, IsProper name) ∧
      (∀ w ∈ writesOf nestedCommands, Path.ofString "//n" ∈ w.path.parents) ∧
      (∀ p ∈ placesOf (.ofString "//n") nestedCommands,
        ∀ q ∈ placesOf (.ofString "//n") nestedCommands, p ∉ q.parents) ∧
      ∃ out, addMissingIndexes (.ofString "//n") nestedCommands = .ok out ∧
        IndexTree (.ofString "//n") nestedCommands out := by
  have hdistinct : ((writesOf nestedCommands).map Write.path).Nodup := by decide +kernel
  have hproper : ∀ w ∈ writesOf nestedCommands, ∀ name ∈ w.path.names, IsProper name := by
    decide +kernel
  have hbelow : ∀ w ∈ writesOf nestedCommands, Path.ofString "//n" ∈ w.path.parents := by
    decide +kernel
  have hfree : ∀ p ∈ placesOf (.ofString "//n") nestedCommands,
      ∀ q ∈ placesOf (.ofString "//n") nestedCommands, p ∉ q.parents := by
    decide +kernel
  exact ⟨hdistinct, hproper, hbelow, hfree,
    (indexTree_iff hdistinct hproper hbelow hfree).mpr ⟨by decide +kernel, by decide +kernel⟩⟩

/-- Where they and their indexes are. -/
example : (placesOf (.ofString "//n") nestedCommands).map Path.toString =
    ["//n/a.md", "//n/s/t/b 2.md", "//n/s/index.md", "//n/index.md", "//n/s/t/index.md"] := by
  decide +kernel

/-- A name that is a numeral too long to be read. -/
def longName : Name := List.replicate (numeralLimit + 1) '1' ++ documentExtension

/-- The directory of a document of that name. -/
def longDirectory : Path := ⟨.root, [['n']]⟩

/-- The document, beside an index. -/
def longCommands : List Command :=
  [.write (.ofText (longDirectory.child indexName) ""),
    .write (.ofText (longDirectory.child longName) "")]

theorem not_canSort_longName : ¬ CanSort longName := by
  refine not_canSort_of_digits ?_ (fun c hc => ?_) (by decide)
  · rw [List.length_replicate]
    exact Nat.lt_succ_self _
  · rw [List.eq_of_mem_replicate hc]
    decide

theorem longName_ne_indexName : longName ≠ indexName := by
  rw [longName, List.replicate_succ]
  exact fun h => absurd (List.cons.inj h).1 (by decide)

theorem isProper_longName : IsProper longName := by
  refine isProper_append_documentExtension ⟨⟨?_, fun h => ?_⟩, fun h => ?_⟩
  · rfl
  · exact absurd (List.eq_of_mem_replicate h) (by decide)
  · rw [List.replicate_succ] at h
    exact absurd (List.cons.inj h).1 (by decide)

theorem path_of_mem_longCommands {w : Write} (hw : w ∈ writesOf longCommands) :
    ∃ name, IsProper name ∧ w.path = longDirectory.child name := by
  rcases List.mem_pair.mp hw with rfl | rfl
  · exact ⟨indexName, isProper_indexName, rfl⟩
  · exact ⟨longName, isProper_longName, rfl⟩

theorem not_lacksIndex_longCommands (directory : Path) :
    ¬ LacksIndex longDirectory longCommands directory := by
  rintro ⟨⟨w, hw, hparents⟩, hwithin, hnone⟩
  obtain ⟨name, -, hpath⟩ := path_of_mem_longCommands hw
  rw [hpath] at hparents
  rcases Path.eq_or_mem_parents_of_child hparents with rfl | habove
  · exact hnone _ List.mem_cons_self rfl
  · have hle := Path.length_le_of_isWithin hwithin
    have hlt := Path.length_lt_of_mem_parents habove
    omega

theorem not_isEntryOf_longName {index : Write} (hindex : index ∈ writesOf longCommands) :
    ¬ IsEntryOf (writesOf longCommands) index (.ofText (longDirectory.child longName) "") := by
  have hmem : Write.ofText (longDirectory.child longName) "" ∈ writesOf longCommands :=
    List.mem_cons_of_mem _ List.mem_cons_self
  intro hentry
  obtain ⟨hsome, hmade⟩ := (isEntryOf_iff hmem).mp hentry
  rcases List.mem_pair.mp hindex with rfl | rfl
  · have hread := exists_indexEntries_iff.mp hmade _ hmem hsome
    have hproper : ∀ name ∈ (longDirectory.child longName).names, IsProper name := by
      intro name hname
      rcases List.mem_pair.mp hname with rfl | rfl
      · decide
      · exact isProper_longName
    have hway : (longDirectory.child longName).relativeTo longDirectory =
        ⟨.relative, [longName]⟩ := relativeTo_of_names_eq hproper rfl
    change CanSort ((longDirectory.child longName).relativeTo longDirectory).toList at hread
    rw [hway, Path.toList, if_neg fun h => List.cons_ne_nil _ _ h.2] at hread
    exact not_canSort_longName hread
  · exact (entryOf?_isSome_iff.mp hsome).1 rfl

/-- No index lists a document with such a name, although nothing stands in its way. -/
theorem longName_unlisted :
    ((writesOf longCommands).map Write.path).Nodup ∧
      (∀ w ∈ writesOf longCommands, w.path.isAbsolute = true ∧
        (∀ name ∈ w.path.names, IsProper name) ∧ longDirectory ∈ w.path.parents) ∧
      addMissingIndexes longDirectory longCommands = .ok longCommands ∧
      (∀ v ∈ writesOf longCommands, ∀ w ∈ writesOf longCommands, v.path ∉ w.path.parents) ∧
      ∃ w ∈ writesOf longCommands, w.path ≠ longDirectory.child indexName ∧
        ∀ index ∈ writesOf longCommands, ¬ IsEntryOf (writesOf longCommands) index w := by
  have hne : longDirectory.child indexName ≠ longDirectory.child longName := by
    intro h
    have hname := congrArg Path.name h
    rw [Path.name_child, Path.name_child] at hname
    exact longName_ne_indexName hname.symm
  refine ⟨?_, fun w hw => ?_, addMissingIndexes_eq_self not_lacksIndex_longCommands,
    fun v hv w hw h => ?_, _, List.mem_cons_of_mem _ List.mem_cons_self, hne.symm,
    fun index hindex => not_isEntryOf_longName hindex⟩
  · exact List.nodup_cons.mpr ⟨fun h => hne (List.mem_singleton.mp h), List.nodup_singleton _⟩
  · obtain ⟨name, hname, hpath⟩ := path_of_mem_longCommands hw
    rw [hpath]
    refine ⟨rfl, fun n hn => ?_, Path.mem_parents_child (by decide) name⟩
    rcases List.mem_pair.mp hn with rfl | rfl
    · decide
    · exact hname
  · obtain ⟨name, -, hv⟩ := path_of_mem_longCommands hv
    obtain ⟨last, -, hw⟩ := path_of_mem_longCommands hw
    have hlength := Path.length_lt_of_mem_parents h
    rw [hv, hw, Path.length_child, Path.length_child] at hlength
    exact Nat.lt_irrefl _ hlength

end TaskNotes
