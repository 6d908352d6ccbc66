/-
# What listings depend on

Names that are told apart are put in one order, however they were ordered before
(`naturalSort_of_perm`).  So an index depends only on where something is written and on the box of
each title (`createIndex_of_perm`), and a table of contents only on where something is written
(`createContents_of_perm`), and the order of the writes does not matter to either.

Sorting is by keys, and keys of different names differ, since a key holds the name itself in its
last part.  So the order of the items before sorting cannot be seen in the result.  For entries
this needs that places are told apart by the ways to them, which holds for normal paths.

That an index or a table of contents can be made at all is a hypothesis here, for a name may hold a
numeral that cannot be read.
-/
import TaskNotes.Plan.Contents
import TaskNotes.Proofs.Percent
import TaskNotes.Proofs.Resolve
import TaskNotes.Proofs.Success
import Mathlib.Data.List.Nodup
import Mathlib.Data.List.Perm.Basic

namespace TaskNotes

/-! ## 1. Natural order

The order of keys is lexicographic in each of its parts, and transitivity is inferred once the
comparison of chunks is written in this way. -/

/-- A chunk as numbers and texts are compared: numbers first. -/
def Chunk.parts : Chunk → Nat × Nat × List Char
  | .number value => (0, value, [])
  | .text folded => (1, 0, folded)

theorem Chunk.compare_eq (a b : Chunk) :
    compare a b = compareLex (compareOn fun c : Chunk => c.parts.1)
      (compareLex (compareOn fun c : Chunk => c.parts.2.1)
        (compareOn fun c : Chunk => c.parts.2.2)) a b := by
  cases a with
  | number v =>
    cases b with
    | number w => exact Ordering.then_eq.symm
    | text g => rfl
  | text f =>
    cases b with
    | number w => rfl
    | text g => rfl

instance : Std.TransOrd Chunk := by
  have h : (compare : Chunk → Chunk → Ordering) = _ := funext₂ Chunk.compare_eq
  unfold Std.TransOrd
  rw [h]
  infer_instance

instance : Std.TransOrd NaturalKey :=
  inferInstanceAs (Std.TransCmp (compareLex (compareOn NaturalKey.chunks)
    (compareLex (compareOn NaturalKey.folded) (compareOn NaturalKey.raw))))

/-- Keys that are ordered the same belong to one name. -/
theorem NaturalKey.raw_eq_of_compare_eq {a b : NaturalKey} (h : compare a b = .eq) :
    a.raw = b.raw := by
  have h : (Ord.compare a.chunks b.chunks).then
      ((Ord.compare a.folded b.folded).then (Ord.compare a.raw b.raw)) = .eq := h
  rw [Ordering.then_eq_eq, Ordering.then_eq_eq] at h
  exact Std.LawfulEqOrd.eq_of_compare h.2.2

section

variable {α : Type} {name : α → List Char}

/-- What is sorted: an item behind its key. -/
def withKey (name : α → List Char) (item : α) : Except NumeralError (NaturalKey × α) := do
  let key ← naturalKey (name item)
  pure (key, item)

theorem of_withKey {item : α} {pair : NaturalKey × α} (h : withKey name item = .ok pair) :
    pair.2 = item ∧ pair.1.raw = name item := by
  obtain ⟨key, hkey, h⟩ := bind_eq_ok_iff.mp h
  obtain rfl := pure_eq_ok_iff.mp h
  obtain ⟨chunks, -, hkey⟩ := bind_eq_ok_iff.mp hkey
  obtain rfl := pure_eq_ok_iff.mp hkey
  exact ⟨rfl, rfl⟩

theorem pairwise_mergeSort_keys (keyed : List (NaturalKey × α)) :
    (keyed.mergeSort fun a b => (compare a.1 b.1).isLE).Pairwise
      fun a b => (compare a.1 b.1).isLE = true := by
  refine List.pairwise_mergeSort ?_ ?_ keyed
  · intro a b c hab hbc
    exact Std.TransCmp.isLE_trans hab hbc
  · intro a b
    have hswap : compare b.1 a.1 = (compare a.1 b.1).swap := Std.OrientedCmp.eq_swap
    rw [hswap]
    cases compare a.1 b.1 <;> rfl

/-- **Names that are told apart are put in one order.** -/
theorem naturalSort_of_perm {items others sorted : List α}
    (hinjective : ∀ a ∈ items, ∀ b ∈ items, name a = name b → a = b)
    (hperm : others.Perm items) (h : naturalSort name items = .ok sorted) :
    naturalSort name others = .ok sorted := by
  obtain ⟨keyed, hkeyed, h⟩ := bind_eq_ok_iff.mp h
  obtain rfl := pure_eq_ok_iff.mp h
  have hpairs : List.Forall₂ (fun a pair => withKey name a = .ok pair) items keyed :=
    mapM_eq_ok_iff.mp hkeyed
  obtain ⟨keyed', hpairs', hperm'⟩ := List.perm_comp_forall₂ hperm hpairs
  refine bind_eq_ok_iff.mpr ⟨keyed', mapM_eq_ok_iff.mpr hpairs', ?_⟩
  have hmem : ∀ pair ∈ keyed, pair.2 ∈ items ∧ withKey name pair.2 = .ok pair := by
    intro pair hpair
    obtain ⟨item, hitem, hkey⟩ := exists_of_mem_forall₂ hpairs hpair
    obtain ⟨rfl, -⟩ := of_withKey hkey
    exact ⟨hitem, hkey⟩
  have hsorted : keyed'.mergeSort (fun a b => (compare a.1 b.1).isLE) =
      keyed.mergeSort fun a b => (compare a.1 b.1).isLE := by
    refine List.Perm.eq_of_pairwise ?_ (pairwise_mergeSort_keys keyed')
      (pairwise_mergeSort_keys keyed) ?_
    · intro a b ha hb hab hba
      obtain ⟨haitem, hakey⟩ := hmem a (hperm'.mem_iff.mp (List.mem_mergeSort.mp ha))
      obtain ⟨hbitem, hbkey⟩ := hmem b (List.mem_mergeSort.mp hb)
      have heq : compare a.1 b.1 = .eq :=
        @Std.OrientedCmp.isLE_antisymm NaturalKey compare _ a.1 b.1 hab hba
      have hname : name a.2 = name b.2 := by
        rw [← (of_withKey hakey).2, NaturalKey.raw_eq_of_compare_eq heq, (of_withKey hbkey).2]
      rw [hinjective _ haitem _ hbitem hname, hbkey] at hakey
      exact (Except.ok.inj hakey).symm
    · exact ((List.mergeSort_perm _ _).trans hperm').trans (List.mergeSort_perm _ _).symm
  rw [hsorted]
  rfl

end

/-! ## 2. Ways to places -/

section

variable {directory p q : Path}

/-- Places are told apart by the ways to them. -/
theorem relativeTo_toList_injOn (hdirectory : directory.IsNormal) (hp : p.IsNormal)
    (hq : q.IsNormal)
    (h : (p.relativeTo directory).toList = (q.relativeTo directory).toList) : p = q := by
  rw [← Path.resolve_relativeTo hp hdirectory, h, Path.resolve_relativeTo hq hdirectory]

theorem encodePath_injective {path other : List Char} (h : encodePath path = encodePath other) :
    path = other := by
  have hpath := decodeUrl_encodePath path
  rw [h, decodeUrl_encodePath other] at hpath
  exact (Except.ok.inj hpath).symm

end

/-! ## 3. Indexes

An entry is made from the place of a write and the box of its title, and from nothing else of its
document. -/

/-- The box of the title of a document. -/
def Node.titleBox? (tree : Node) : Option BoxState := tree.titleHeading?.bind Node.box?

/-- What an index shows of a write: its place, and the box of its title. -/
def Write.listed (w : Write) : Path × Option BoxState := (w.path, w.tree.titleBox?)

/-- The entry of a place in an index, given the box of the title there. -/
def entryAt? (index : Path) (place : Path × Option BoxState) : Option IndexEntry :=
  let relative := place.1.relativeTo index.parent
  if place.1 = index ∨ !isListed relative then none
  else
    let path := relative.toList
    let kind := match place.2 with
      | some state => EntryKind.task state
      | none => if ('/' :: indexName).isSuffixOf path then .directory else .file
    some ⟨kind, entryName path, path⟩

theorem path_of_entryAt? {index : Path} {place : Path × Option BoxState} {entry : IndexEntry}
    (h : entryAt? index place = some entry) :
    entry.path = (place.1.relativeTo index.parent).toList := by
  simp only [entryAt?] at h
  split at h
  · cases h
  · rw [← Option.some.inj h]

/-- Entries are named by the ways to what they list. -/
theorem path_of_entryOf? {index : Path} {w : Write} {entry : IndexEntry}
    (h : entryOf? index w = some entry) :
    entry.path = (w.path.relativeTo index.parent).toList :=
  @path_of_entryAt? index w.listed entry h

/-- **An index depends on the places of the writes and the boxes of their titles**, and not on the
order of the writes. -/
theorem createIndex_of_perm {index : Path} {writes others : List Write} {body : List Node}
    (hindex : index.parent.IsNormal) (hnormal : ∀ w ∈ writes, w.path.IsNormal)
    (hdistinct : (writes.map Write.path).Nodup)
    (hperm : (others.map Write.listed).Perm (writes.map Write.listed))
    (h : createIndex index writes = .ok body) : createIndex index others = .ok body := by
  have hentries (ws : List Write) :
      ws.filterMap (entryOf? index) = (ws.map Write.listed).filterMap (entryAt? index) := by
    rw [List.filterMap_map]
    rfl
  obtain ⟨entries, hsorted, rfl⟩ := map_eq_ok_iff.mp h
  refine map_eq_ok_iff.mpr ⟨entries, ?_, rfl⟩
  rw [indexEntries, hentries] at hsorted ⊢
  refine naturalSort_of_perm ?_ (hperm.filterMap _) hsorted
  intro a ha b hb hname
  obtain ⟨_, hplace, ha⟩ := List.mem_filterMap.mp ha
  obtain ⟨_, hplace', hb⟩ := List.mem_filterMap.mp hb
  obtain ⟨v, hv, rfl⟩ := List.mem_map.mp hplace
  obtain ⟨w, hw, rfl⟩ := List.mem_map.mp hplace'
  rw [path_of_entryAt? ha, path_of_entryAt? hb] at hname
  have hpath : v.path = w.path := relativeTo_toList_injOn hindex (hnormal v hv) (hnormal w hw) hname
  rw [List.inj_on_of_nodup_map hdistinct hv hw hpath, hb] at ha
  exact (Option.some.inj ha).symm

/-! ## 4. Tables of contents -/

/-- **A table of contents depends on the places of the writes**, and not on their order. -/
theorem createContents_of_perm {root toc : Path} {writes others : List Write} {contents : Node}
    (htoc : toc.parent.IsNormal) (hnormal : ∀ w ∈ writes, w.path.IsNormal)
    (hperm : (others.map Write.path).Perm (writes.map Write.path))
    (h : createContents root toc writes = .ok contents) :
    createContents root toc others = .ok contents := by
  obtain ⟨paths, hsorted, h⟩ := bind_eq_ok_iff.mp h
  refine bind_eq_ok_iff.mpr ⟨paths, naturalSort_of_perm ?_ hperm hsorted, h⟩
  intro p hp q hq hname
  obtain ⟨v, hv, rfl⟩ := List.mem_map.mp hp
  obtain ⟨w, hw, rfl⟩ := List.mem_map.mp hq
  exact relativeTo_toList_injOn htoc (hnormal v hv) (hnormal w hw) (encodePath_injective hname)

end TaskNotes
