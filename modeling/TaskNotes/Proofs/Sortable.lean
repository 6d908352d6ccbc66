/-
# When documents can be placed

After numbering, a plan can only be refused while names are put in order, because a name holds a
numeral that is too long to be read.  Names are ordered in three places: the directories that are
given an index, the entries of an index, and the URLs of a table of contents.  The last two are
paths between places where something is written, so a plan is made whenever all of these can be
read (`exists_settleSteps_eq_ok`), and this can be decided before anything is planned.

What is asked is more than what is needed: an index lists what is beside it, and the condition asks
for the ways between any two places.  It is in this form because places are known before the
listings are, from where the documents go (`exists_settleSteps_of_outputs`).

For one sorting the condition is exact (`exists_naturalSort_eq_ok_iff`): a key is made for every
item before any two are compared.
-/
import TaskNotes.Proofs.Places

namespace TaskNotes

/-! ## 1. Sorting

A name is cut into runs of digits and of other characters, and only a run of digits can be too
long. -/

/-- Whether the numerals in a name can be read. -/
def CanSort (name : List Char) : Prop := (naturalKey name).isOk = true

instance (name : List Char) : Decidable (CanSort name) :=
  inferInstanceAs (Decidable (_ = true))

theorem CanSort.exists_key {name : List Char} (h : CanSort name) :
    ∃ key, naturalKey name = .ok key := by
  cases hkey : naturalKey name with
  | error e => rw [CanSort, hkey] at h; cases h
  | ok key => exact ⟨key, rfl⟩

theorem exists_naturalSort_eq_ok {α : Type} {name : α → List Char} {items : List α}
    (h : ∀ item ∈ items, CanSort (name item)) : ∃ sorted, naturalSort name items = .ok sorted := by
  have hkeyed : ∀ item ∈ items, ∃ pair : NaturalKey × α,
      (do let key ← naturalKey (name item); pure (key, item)) = .ok pair := by
    intro item hitem
    obtain ⟨key, hkey⟩ := (h item hitem).exists_key
    exact ⟨(key, item), bind_eq_ok_iff.mpr ⟨key, hkey, rfl⟩⟩
  obtain ⟨keyed, hkeyed⟩ := exists_mapM_eq_ok hkeyed
  exact ⟨_, bind_eq_ok_iff.mpr ⟨keyed, hkeyed, rfl⟩⟩

theorem canSort_of_naturalSort_eq_ok {α : Type} {name : α → List Char} {items sorted : List α}
    (h : naturalSort name items = .ok sorted) : ∀ item ∈ items, CanSort (name item) := by
  intro item hitem
  obtain ⟨keyed, hkeyed, -⟩ := bind_eq_ok_iff.mp h
  obtain ⟨pair, -, hpair⟩ := exists_of_mem_forall₂ (mapM_eq_ok_iff.mp hkeyed).flip hitem
  obtain ⟨key, hkey, -⟩ := bind_eq_ok_iff.mp hpair
  rw [CanSort, hkey]
  rfl

/-- **Names are put in order iff they can be read.** -/
theorem exists_naturalSort_eq_ok_iff {α : Type} {name : α → List Char} {items : List α} :
    (∃ sorted, naturalSort name items = .ok sorted) ↔ ∀ item ∈ items, CanSort (name item) :=
  ⟨fun h => h.elim fun _ => canSort_of_naturalSort_eq_ok, exists_naturalSort_eq_ok⟩

theorem exists_digitRuns_cons (c : Char) (cs : List Char) :
    ∃ run runs, digitRuns (c :: cs) = (c :: run) :: runs := by
  rw [digitRuns]
  split
  · split <;> exact ⟨_, _, rfl⟩
  · exact ⟨_, _, rfl⟩

/-- Digits are one run up to where they end. -/
theorem digitRuns_append {digits rest : List Char} (hne : digits ≠ [])
    (hdigits : ∀ c ∈ digits, isDigit c = true) (hrest : ∀ c ∈ rest.head?, isDigit c = false) :
    digitRuns (digits ++ rest) = digits :: digitRuns rest := by
  induction digits with
  | nil => exact absurd rfl hne
  | cons c digits ih =>
    have hc : isDigit c = true := hdigits c List.mem_cons_self
    cases digits with
    | nil =>
      cases rest with
      | nil => rfl
      | cons e rest =>
        obtain ⟨run, runs, hruns⟩ := exists_digitRuns_cons e rest
        have he : isDigit c ≠ isDigit e := by rw [hc, hrest e rfl]; exact Bool.false_ne_true.symm
        rw [List.singleton_append, digitRuns, hruns]
        exact if_neg he
    | cons d digits =>
      have hd : isDigit c = isDigit d := by
        rw [hc, hdigits d (List.mem_cons_of_mem _ List.mem_cons_self)]
      have ih := ih (List.cons_ne_nil _ _) fun e he => hdigits e (List.mem_cons_of_mem _ he)
      rw [List.cons_append, digitRuns, ih]
      exact if_pos hd

/-- A name that begins with too many digits cannot be read. -/
theorem not_canSort_of_digits {digits rest : List Char} (hlong : numeralLimit < digits.length)
    (hdigits : ∀ c ∈ digits, isDigit c = true) (hrest : ∀ c ∈ rest.head?, isDigit c = false) :
    ¬ CanSort (digits ++ rest) := by
  intro h
  have hne : digits ≠ [] := List.length_pos_iff.mp (Nat.zero_lt_of_lt hlong)
  obtain ⟨key, hkey⟩ := h.exists_key
  obtain ⟨chunks, hchunks, -⟩ := bind_eq_ok_iff.mp hkey
  rw [digitRuns_append hne hdigits hrest] at hchunks
  obtain ⟨chunk, -, hchunk⟩ :=
    exists_of_mem_forall₂ (mapM_eq_ok_iff.mp hchunks).flip List.mem_cons_self
  cases digits with
  | nil => exact hne rfl
  | cons c digits =>
    rw [chunkOf, if_pos (hdigits c List.mem_cons_self), readNumeral,
      if_neg (Nat.not_le_of_lt hlong)] at hchunk
    cases hchunk

/-! ## 2. Filling regions

A region of each kind is filled in any document, so every place may turn up as the one that lists
and as one that is listed. -/

/-- Whether the ways from one place to another can be put in order, as entries of an index and as
URLs of a table of contents. -/
def CanList (places : List Path) : Prop :=
  ∀ index ∈ places, ∀ place ∈ places,
    CanSort (place.relativeTo index.parent).toList ∧ CanSort (contentsUrl index place)

instance (places : List Path) : Decidable (CanList places) :=
  inferInstanceAs (Decidable (∀ index ∈ places, ∀ place ∈ places, _))

section

variable {formatted : Bool} {root : Path} {commands : List Command}

theorem exists_refillRegion_eq_ok {name : String}
    {body : Path → Except NumeralError (List Node)}
    (h : ∀ w ∈ writesOf commands, ∃ nodes, body w.path = .ok nodes) :
    ∃ out, refillRegion formatted name body commands = .ok out := by
  refine exists_mapM_eq_ok ?_
  intro c hc
  cases c with
  | delete path => exact ⟨_, rfl⟩
  | write w =>
    obtain ⟨nodes, hnodes⟩ := h w (mem_writesOf.mpr hc)
    simp only
    split
    · exact ⟨_, bind_eq_ok_iff.mpr ⟨nodes, hnodes, rfl⟩⟩
    · exact ⟨_, rfl⟩

/-- An index is made if the ways to what it may list can be read. -/
theorem exists_indexEntries_eq_ok (index : Path) {writes : List Write}
    (h : ∀ w ∈ writes, CanSort (w.path.relativeTo index.parent).toList) :
    ∃ entries, indexEntries index writes = .ok entries := by
  refine exists_naturalSort_eq_ok fun entry hentry => ?_
  obtain ⟨w, hw, hentry⟩ := List.mem_filterMap.mp hentry
  simp only [entryOf?] at hentry
  split at hentry
  · cases hentry
  · obtain rfl := Option.some.inj hentry
    exact h w hw

theorem exists_refillIndexes_eq_ok (h : CanList ((writesOf commands).map Write.path)) :
    ∃ out, refillIndexes formatted commands = .ok out := by
  refine exists_refillRegion_eq_ok fun w hw => ?_
  obtain ⟨entries, hentries⟩ := exists_indexEntries_eq_ok w.path fun v hv =>
    (h _ (List.mem_map_of_mem hw) _ (List.mem_map_of_mem hv)).1
  exact ⟨_, map_eq_ok_iff.mpr ⟨entries, hentries, rfl⟩⟩

/-- A table of contents is made if its URLs can be read. -/
theorem exists_createContents_eq_ok (root toc : Path) {writes : List Write}
    (h : ∀ w ∈ writes, CanSort (contentsUrl toc w.path)) :
    ∃ contents, createContents root toc writes = .ok contents := by
  obtain ⟨paths, hpaths⟩ := exists_naturalSort_eq_ok fun p hp => by
    obtain ⟨w, hw, rfl⟩ := List.mem_map.mp hp
    exact h w hw
  exact ⟨_, bind_eq_ok_iff.mpr ⟨paths, hpaths, rfl⟩⟩

theorem exists_refillContents_eq_ok (h : CanList ((writesOf commands).map Write.path)) :
    ∃ out, refillContents formatted root commands = .ok out := by
  refine exists_refillRegion_eq_ok fun w hw => ?_
  obtain ⟨contents, hcontents⟩ := exists_createContents_eq_ok root w.path fun v hv =>
    (h w.path (List.mem_map_of_mem hw) v.path (List.mem_map_of_mem hv)).2
  exact ⟨_, map_eq_ok_iff.mpr ⟨contents, hcontents, rfl⟩⟩

end

/-! ## 3. Plans

Besides the places that documents go to there are those of the added indexes. -/

theorem CanList.mono {places others : List Path} (h : CanList places) (hsubset : others ⊆ places) :
    CanList others :=
  fun index hindex place hplace => h index (hsubset hindex) place (hsubset hplace)

/-- **A plan is made if the names in it can be read.** -/
theorem exists_settleSteps_eq_ok {formatted : Bool} {root : Path} {docs : List Document}
    (hdirectories : ∀ d ∈ missingIndexes root (mergedCommands formatted root docs),
      CanSort d.toList)
    (hplaces : CanList ((writesOf (mergedCommands formatted root docs)).map Write.path ++
      (missingIndexes root (mergedCommands formatted root docs)).map fun d => d.child indexName)) :
    ∃ commands, settleSteps ⟨formatted, true⟩ root (stepsOf formatted root docs) =
      .ok commands := by
  obtain ⟨added, hsort⟩ := exists_naturalSort_eq_ok hdirectories
  have hadd : addMissingIndexes root (mergedCommands formatted root docs) =
      .ok (mergedCommands formatted root docs ++ added.map fun d =>
        .write (.ofText (d.child indexName) (newIndexContent d))) :=
    bind_eq_ok_iff.mpr ⟨added, hsort, rfl⟩
  have hwritten : CanList ((writesOf (mergedCommands formatted root docs ++ added.map fun d =>
      .write (.ofText (d.child indexName) (newIndexContent d)))).map Write.path) := by
    rw [writesOf_append, writesOf_map_write, List.map_append, List.map_map]
    exact hplaces.mono (((naturalSort_perm hsort).map _).append_left _).subset
  obtain ⟨indexed, hindexed⟩ : ∃ out, refillIndexes formatted _ = .ok out :=
    exists_refillIndexes_eq_ok hwritten
  have hkept : CanList ((writesOf indexed).map Write.path) := by
    rw [(samePlaces_of_refillRegion hindexed).map_path_writesOf]
    exact hwritten
  obtain ⟨commands, hcommands⟩ : ∃ out, refillContents formatted root indexed = .ok out :=
    exists_refillContents_eq_ok hkept
  refine ⟨commands, ?_⟩
  exact bind_eq_ok_iff.mpr ⟨_, hadd, bind_eq_ok_iff.mpr ⟨indexed, hindexed, hcommands⟩⟩

/-- The directories from a root down in which a document goes. -/
def Document.directories (root : Path) (d : Document) : List Path :=
  (d.output root).parents.filter fun directory => directory.isWithin root

/-- Whether the names of a plan can be read is seen from where its documents go. -/
theorem exists_settleSteps_of_outputs {formatted : Bool} {root : Path} {docs : List Document}
    (hdirectories : ∀ directory ∈ docs.flatMap (Document.directories root),
      CanSort directory.toList)
    (hplaces : CanList (docs.map (Document.output root) ++
      (docs.flatMap (Document.directories root)).map fun d => d.child indexName)) :
    ∃ commands, settleSteps ⟨formatted, true⟩ root (stepsOf formatted root docs) =
      .ok commands := by
  have hmissing : ∀ directory ∈ missingIndexes root (mergedCommands formatted root docs),
      directory ∈ docs.flatMap (Document.directories root) := by
    intro directory hdirectory
    obtain ⟨⟨d, hd, hparents⟩, hwithin, -⟩ :=
      lacksIndex_merged_iff.mp (mem_missingIndexes_iff.mp hdirectory)
    exact List.mem_flatMap.mpr ⟨d, hd, List.mem_filter.mpr ⟨hparents, hwithin⟩⟩
  refine exists_settleSteps_eq_ok (fun d hd => hdirectories d (hmissing d hd))
    (hplaces.mono fun path hpath => ?_)
  rcases List.mem_append.mp hpath with hpath | hpath
  · obtain ⟨d, hd, rfl⟩ := mem_map_path_writesOf_merged_iff.mp hpath
    exact List.mem_append_left _ (List.mem_map_of_mem hd)
  · obtain ⟨directory, hdirectory, rfl⟩ := List.mem_map.mp hpath
    exact List.mem_append_right _ (List.mem_map_of_mem (hmissing directory hdirectory))

end TaskNotes
