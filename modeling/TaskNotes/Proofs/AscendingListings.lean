/-
# Listings ascend

The natural order is a strict order that decides between any two different names that can be read
(`precedes_or_eq_or_precedes`), so such names can be put in ascending order in one way only
(`naturalSort_eq_ok_iff`).  The entries of an index are named by the ways to what they list, and
the items of a table of contents by the URLs; both tell places apart, so each listing is the
ascending one, whatever order the writes came in (`listings_ascend`).

The order compares runs of digits by their numbers, and what it cannot tell apart in this way, such
as leading zeros and capital letters, by the characters.  The second comparison is what makes the
order decide between different names: with the first alone a sort would keep equal names in the
order in which they came, and a listing would depend on the order of the writes.

A number can be too long to be read.  Then sorting fails, so each listing is said to exist exactly
where the names in it can be read, and no listing is claimed where one of them cannot.
-/
import TaskNotes.Proofs.Listings
import TaskNotes.Proofs.Sortable

namespace TaskNotes

/-! ## 1. The order of names -/

/-- A name comes before another in the natural order; both can be read, and the sort key of the one
is less than that of the other. -/
def Precedes (name other : List Char) : Prop :=
  ∃ key behind, naturalKey name = .ok key ∧ naturalKey other = .ok behind ∧
    compare key behind = .lt

section

variable {a b c : List Char}

theorem raw_of_naturalKey {key : NaturalKey} (h : naturalKey a = .ok key) : key.raw = a := by
  obtain ⟨chunks, -, h⟩ := bind_eq_ok_iff.mp h
  rw [← pure_eq_ok_iff.mp h]

/-- **The natural order is strict:** no name comes before itself ... -/
theorem Precedes.irrefl : ¬ Precedes a a := by
  rintro ⟨key, behind, hkey, hbehind, hlt⟩
  rw [hkey] at hbehind
  cases hbehind
  have hself : compare key key = .eq := Std.ReflCmp.compare_self
  rw [hself] at hlt
  cases hlt

/-- ... **what comes before a name comes before all behind it** ... -/
theorem Precedes.trans (hab : Precedes a b) (hbc : Precedes b c) : Precedes a c := by
  obtain ⟨key, between, hkey, hbetween, hfirst⟩ := hab
  obtain ⟨between', behind, hbetween', hbehind, hsecond⟩ := hbc
  rw [hbetween] at hbetween'
  cases hbetween'
  exact ⟨key, behind, hkey, hbehind, Std.TransCmp.lt_trans hfirst hsecond⟩

theorem Precedes.asymm (hab : Precedes a b) : ¬ Precedes b a :=
  fun hba => Precedes.irrefl (hab.trans hba)

/-- ... **and of two different names one comes before the other**, if they can be read. -/
theorem precedes_or_eq_or_precedes {key other : NaturalKey} (hkey : naturalKey a = .ok key)
    (hother : naturalKey b = .ok other) : Precedes a b ∨ a = b ∨ Precedes b a := by
  cases hcompare : compare key other with
  | lt => exact .inl ⟨key, other, hkey, hother, hcompare⟩
  | eq =>
    refine .inr (.inl ?_)
    rw [← raw_of_naturalKey hkey, NaturalKey.raw_eq_of_compare_eq hcompare,
      raw_of_naturalKey hother]
  | gt => exact .inr (.inr ⟨other, key, hother, hkey, Std.OrientedCmp.lt_of_gt hcompare⟩)

end

/-! ## 2. Sorting

That a sorted list ascends needs different names; that there is one ascending list needs that the
order is strict.  Together they make sorting a function of which names there are, and not of their
order. -/

section

variable {α : Type} {name : α → List Char} {items sorted : List α}

theorem naturalKey_of_withKey {item : α} {pair : NaturalKey × α}
    (h : withKey name item = .ok pair) : naturalKey (name pair.2) = .ok pair.1 := by
  obtain ⟨key, hkey, h⟩ := bind_eq_ok_iff.mp h
  rw [← pure_eq_ok_iff.mp h]
  exact hkey

/-- Different names that are sorted ascend. -/
theorem pairwise_precedes_of_naturalSort (hdistinct : (items.map name).Nodup)
    (h : naturalSort name items = .ok sorted) : (sorted.map name).Pairwise Precedes := by
  have hnames : (sorted.map name).Nodup := ((naturalSort_perm h).map name).nodup_iff.mpr hdistinct
  obtain ⟨keyed, hkeyed, h⟩ := bind_eq_ok_iff.mp h
  obtain rfl := pure_eq_ok_iff.mp h
  have hkey : ∀ pair ∈ keyed.mergeSort (fun a b => (compare a.1 b.1).isLE),
      naturalKey (name pair.2) = .ok pair.1 := by
    intro pair hpair
    obtain ⟨item, -, hitem⟩ :=
      exists_of_mem_forall₂ (mapM_eq_ok_iff.mp hkeyed) (List.mem_mergeSort.mp hpair)
    exact naturalKey_of_withKey hitem
  rw [List.Nodup, List.map_map, List.pairwise_map] at hnames
  rw [List.map_map, List.pairwise_map]
  refine ((pairwise_mergeSort_keys keyed).and hnames).imp_of_mem ?_
  rintro p q hp hq ⟨hle, hne⟩
  rcases precedes_or_eq_or_precedes (hkey p hp) (hkey q hq) with
    hlt | heq | ⟨behind, key, hbehind, hahead, hlt⟩
  · exact hlt
  · exact absurd heq hne
  · -- The keys are not sorted if the second name comes first.
    cases hbehind.symm.trans (hkey q hq)
    cases hahead.symm.trans (hkey p hp)
    rw [Std.OrientedCmp.gt_of_lt hlt] at hle
    cases hle

/-- Names ascend in one way only. -/
theorem eq_of_pairwise_precedes {others : List α} (hperm : sorted.Perm others)
    (hsorted : (sorted.map name).Pairwise Precedes)
    (hothers : (others.map name).Pairwise Precedes) :
    sorted = others := by
  rw [List.pairwise_map] at hsorted hothers
  exact hperm.eq_of_pairwise (fun _ _ _ _ hab hba => absurd hba hab.asymm) hsorted hothers

/-- **Sorting different names gives the one list of them that ascends.** -/
theorem naturalSort_eq_ok_iff (hdistinct : (items.map name).Nodup) :
    naturalSort name items = .ok sorted ↔
      (∀ item ∈ items, CanSort (name item)) ∧ sorted.Perm items ∧
        (sorted.map name).Pairwise Precedes := by
  constructor
  · intro h
    exact ⟨canSort_of_naturalSort_eq_ok h, naturalSort_perm h,
      pairwise_precedes_of_naturalSort hdistinct h⟩
  · rintro ⟨hread, hperm, hascend⟩
    obtain ⟨others, hothers⟩ := exists_naturalSort_eq_ok hread
    rw [hothers, eq_of_pairwise_precedes ((naturalSort_perm hothers).trans hperm.symm)
      (pairwise_precedes_of_naturalSort hdistinct hothers) hascend]

/-- **Different names that can be read, and only these, have an ascending order that all their
permutations are sorted into.** -/
theorem exists_ascending_iff (hdistinct : (items.map name).Nodup) :
    (∀ item ∈ items, CanSort (name item)) ↔
      ∃ sorted, sorted.Perm items ∧ (sorted.map name).Pairwise Precedes ∧
        ∀ others, others.Perm items → naturalSort name others = .ok sorted := by
  constructor
  · intro hread
    obtain ⟨sorted, hsorted⟩ := exists_naturalSort_eq_ok hread
    obtain ⟨-, hperm, hascend⟩ := (naturalSort_eq_ok_iff hdistinct).mp hsorted
    refine ⟨sorted, hperm, hascend, fun others hothers => ?_⟩
    refine (naturalSort_eq_ok_iff ((hothers.map name).nodup_iff.mpr hdistinct)).mpr ?_
    exact ⟨fun item hitem => hread item (hothers.mem_iff.mp hitem), hperm.trans hothers.symm,
      hascend⟩
  · rintro ⟨sorted, -, -, hsorts⟩
    exact canSort_of_naturalSort_eq_ok (hsorts items (.refl _))

end

/-! ## 3. Listings

What is left is that a listing sorts different names.  Two places that are listed have different
paths, and the ways from the listing to them, as well as the URLs made of these ways, tell the
paths apart. -/

section

variable {listing : Path} {writes : List Write}

/-- An index leads to different places by different ways. -/
theorem nodup_map_path_entries (hlisting : listing.parent.IsNormal)
    (hnormal : ∀ w ∈ writes, w.path.IsNormal) (hdistinct : (writes.map Write.path).Nodup) :
    ((writes.filterMap (entryOf? listing)).map IndexEntry.path).Nodup := by
  rw [List.Nodup, List.pairwise_map] at hdistinct ⊢
  refine List.pairwise_filterMap.mpr (hdistinct.imp_of_mem ?_)
  intro v w hv hw hne a ha b hb hpath
  rw [path_of_entryOf? ha, path_of_entryOf? hb] at hpath
  exact hne (relativeTo_toList_injOn hlisting (hnormal v hv) (hnormal w hw) hpath)

/-- A table of contents leads to different places by different URLs. -/
theorem nodup_map_contentsUrl (hlisting : listing.parent.IsNormal)
    (hnormal : ∀ w ∈ writes, w.path.IsNormal) (hdistinct : (writes.map Write.path).Nodup) :
    ((writes.map Write.path).map (contentsUrl listing)).Nodup := by
  refine hdistinct.map_on fun p hp q hq hurl => ?_
  obtain ⟨v, hv, rfl⟩ := List.mem_map.mp hp
  obtain ⟨w, hw, rfl⟩ := List.mem_map.mp hq
  exact relativeTo_toList_injOn hlisting (hnormal v hv) (hnormal w hw) (encodePath_injective hurl)

theorem createContents_eq_ok_iff {root : Path} {contents : Node} :
    createContents root listing writes = .ok contents ↔
      ∃ paths, naturalSort (contentsUrl listing) (writes.map Write.path) = .ok paths ∧
        .list false none false (paths.map (contentsItem root listing)) = contents := by
  rw [createContents, bind_eq_ok_iff]
  simp only [pure_eq_ok_iff]

end

/-- **Listings do not depend on the order of the writes.**  Where writes have different places, the
index and the table of contents in a document can be made exactly when the ways to the listed
places, and the URLs of all of them, can be read.  Then each is the listing of the places in
ascending order, for every permutation of the writes. -/
theorem listings_ascend {root listing : Path} {writes : List Write} (hlisting : listing.IsNormal)
    (hnormal : ∀ w ∈ writes, w.path.IsNormal) (hdistinct : (writes.map Write.path).Nodup) :
    ((∀ entry ∈ writes.filterMap (entryOf? listing), CanSort entry.path) ↔
        ∃ entries, entries.Perm (writes.filterMap (entryOf? listing)) ∧
          (entries.map IndexEntry.path).Pairwise Precedes ∧
          ∀ others, others.Perm writes → createIndex listing others = .ok (indexBody entries)) ∧
      ((∀ w ∈ writes, CanSort (contentsUrl listing w.path)) ↔
        ∃ paths : List Path, paths.Perm (writes.map Write.path) ∧
          (paths.map (contentsUrl listing)).Pairwise Precedes ∧
          ∀ others, others.Perm writes → createContents root listing others =
            .ok (.list false none false (paths.map (contentsItem root listing)))) := by
  have hparent : listing.parent.IsNormal := Path.isNormal_parent hlisting
  have hentries := nodup_map_path_entries hparent hnormal hdistinct
  have hurls := nodup_map_contentsUrl hparent hnormal hdistinct
  refine ⟨⟨fun hread => ?_, ?_⟩, ⟨fun hread => ?_, ?_⟩⟩
  · obtain ⟨entries, hperm, hascend, hsorts⟩ := (exists_ascending_iff hentries).mp hread
    refine ⟨entries, hperm, hascend, fun others hothers => ?_⟩
    exact map_eq_ok_iff.mpr ⟨entries, hsorts _ (hothers.filterMap _), rfl⟩
  · rintro ⟨entries, -, -, hindexes⟩
    obtain ⟨_, hsorted, -⟩ := map_eq_ok_iff.mp (hindexes writes (.refl _))
    exact canSort_of_naturalSort_eq_ok hsorted
  · obtain ⟨paths, hperm, hascend, hsorts⟩ := (exists_ascending_iff hurls).mp <|
      List.forall_mem_map.mpr hread
    refine ⟨paths, hperm, hascend, fun others hothers => ?_⟩
    exact createContents_eq_ok_iff.mpr ⟨paths, hsorts _ (hothers.map _), rfl⟩
  · rintro ⟨paths, -, -, hcontents⟩
    obtain ⟨_, hsorted, -⟩ := createContents_eq_ok_iff.mp (hcontents writes (.refl _))
    exact fun w hw => canSort_of_naturalSort_eq_ok hsorted w.path (List.mem_map_of_mem hw)

/-- Writes of which some have names that differ in case and leading zeros only. -/
def alikeWrites : List Write :=
  ["/n/e 2.md", "/n/e 02.md", "/n/E 2.md", "/n/sub/index.md", "/n/e 10.md", "/n/index.md"].map
    fun path => ⟨.ofString path, "# [ ] x\n", .root [.heading .one [.text "[ ] x"]], none⟩

/-- They are listed in one order. -/
theorem listings_ascend_alikeWrites :
    (∃ body, ∀ others, others.Perm alikeWrites →
        createIndex (.ofString "/n/index.md") others = .ok body) ∧
      ∃ contents, ∀ others, others.Perm alikeWrites →
        createContents (.ofString "/n") (.ofString "/n/index.md") others = .ok contents := by
  have hlistings := @listings_ascend (.ofString "/n") (.ofString "/n/index.md") alikeWrites
    (by decide +kernel) (by decide +kernel) (by decide +kernel)
  obtain ⟨entries, -, -, hindex⟩ := hlistings.1.mp (by decide +kernel)
  obtain ⟨paths, -, -, hcontents⟩ := hlistings.2.mp (by decide +kernel)
  exact ⟨⟨indexBody entries, hindex⟩,
    .list false none false (paths.map (contentsItem _ _)), hcontents⟩

end TaskNotes
