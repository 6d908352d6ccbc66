/-
# Dry runs

A run looks at the disk until it has a plan, and only then changes it.  So whatever stops it before
that (`stopsEarly_iff`) leaves the disk as it was, and a dry run, which is stopped there on
purpose, tells what a real one does: the same commands, tasks and new identifiers (`planRun_dry`).

If a real run succeeds, its commands have been applied in some schedule in which nothing has failed
(`Succeeds`).  When they lead to different places, none of them on the way to another, every
written path then holds its content and every deleted one is absent (`dry_run_predicts`).

The disk may have links, files of several names, and entries without a right to be read, written or
searched.

* A missing right stops a run early if it is in the way of looking at a document, and otherwise it
  is a failure to write.  Neither needs a hypothesis.
* A link makes two paths lead to one file, and then the second write is what both of them hold.  So
  the last part asks the disk whether commands are kept apart (`Disk.KeepsApart`).  On a disk
  without links it is the paths that are asked, as the same theorem says: they are to be pairwise
  distinct, and none a directory on the way to another (`AreApart`).

The path of the directory is resolved first, and what is listed below it are locations of entries.
So the paths of commands are without `..`, and without links as far as the directory goes; the
documents themselves may still be links.
-/
import TaskNotes.Proofs.FixedPoint
import TaskNotes.Proofs.KeptPlaces
import TaskNotes.Proofs.ListedPlaces

namespace TaskNotes

/-! ## 1. What a run gives -/

/-- What a run gives, and the disk as it leaves it. -/
def RunOptions.outcome (options : RunOptions) (directory : Path) (d : Disk) :
    Except RunError RunResult × Disk :=
  (ExceptT.run (runDirectory options directory)).run d

/-- What becomes of a plan: the commands are applied if they are to be. -/
def RunOptions.carryOut (options : RunOptions) (d : Disk) :
    Except RunError RunResult → Except RunError RunResult × Disk
  | .error e => (.error e, d)
  | .ok r =>
    if r.applied then
      match (applyCommands options.atOnce r.commands).outcome d with
      | (.ok (), after) => (.ok r, after)
      | (.error e, after) => (.error (.writing e), after)
    else (.ok r, d)

section

variable {options : RunOptions} {directory root : Path} {d after : Disk} {r : RunResult}

theorem run_adapt_bind_pure (access : Access Unit) (r : RunResult) (d : Disk) :
    (ExceptT.run (ExceptT.adapt RunError.writing access >>=
      fun _ => (pure r : ExceptT RunError (StateM Disk) RunResult))).run d =
    match access.outcome d with
    | (.ok (), after) => (.ok r, after)
    | (.error e, after) => (.error (.writing e), after) := by
  have hadapt : (ExceptT.adapt RunError.writing access).run.run d =
      (((ExceptT.run access).run d).1.mapError .writing, ((ExceptT.run access).run d).2) := rfl
  simp only [Access.outcome, ExceptT.run_bind, StateT.run_bind]
  rw [hadapt]
  rcases (ExceptT.run access).run d with ⟨_ | _, after⟩ <;> rfl

/-- **A run plans, and then carries the plan out.** -/
theorem outcome_eq_carryOut (options : RunOptions) (directory : Path) (d : Disk) :
    options.outcome directory d = options.carryOut d (planRun options directory d) := by
  have hplan : options.outcome directory d = (ExceptT.run (do
      let r ← (liftM (planRun options directory d) : ExceptT RunError (StateM Disk) RunResult)
      if r.applied then
        ExceptT.adapt .writing (applyCommands options.atOnce r.commands)
      pure r)).run d := rfl
  rw [hplan]
  cases planRun options directory d with
  | error e => rfl
  | ok r =>
    change (ExceptT.run (if r.applied then ExceptT.adapt RunError.writing
      (applyCommands options.atOnce r.commands) >>= fun _ => pure r else pure r :
        ExceptT RunError (StateM Disk) RunResult)).run d = _
    rw [RunOptions.carryOut]
    split
    · exact run_adapt_bind_pure _ _ _
    · rfl

/-! ## 2. Plans of runs

`planRun` is where a run does all of its looking.  It takes a disk and returns no disk, so nothing
needs to be proved about what it leaves unchanged. -/

/-- Whether a run is to be dry only shows in what it says about itself. -/
theorem planRun_dry (options : RunOptions) (directory : Path) (d : Disk) (dry : Bool) :
    planRun { options with dry := dry } directory d =
      (planRun options directory d).map fun r => { r with applied := !dry } := by
  simp only [planRun, bind, Except.bind]
  cases d.resolve directory with
  | error e => rfl
  | ok root =>
    simp only [Except.mapError]
    cases readSources d root with
    | error e => rfl
    | ok sources =>
      simp only
      cases planCommands options.plan options.project root sources with
      | error e => rfl
      | ok planned =>
        obtain ⟨planned, allocator⟩ := planned
        simp only
        cases tasksOfCommands options.project planned with
        | error e => rfl
        | ok tasks => cases changingCommands d planned <;> rfl

/-- What is read are the listed documents, one after the other. -/
theorem readSources_eq_ok_iff {sources : List Source} :
    readSources d root = .ok sources ↔
      ∃ paths sorted found, d.documents root = .ok paths ∧
        naturalSort Path.toList paths = .ok sorted ∧
        List.Forall₂ (fun path source? => readSource? d path = .ok source?) sorted found ∧
        found.filterMap id = sources := by
  constructor
  · intro h
    obtain ⟨paths, hpaths, h⟩ := bind_eq_ok_iff.mp h
    obtain ⟨sorted, hsorted, h⟩ := bind_eq_ok_iff.mp h
    obtain ⟨found, hfound, h⟩ := bind_eq_ok_iff.mp h
    exact ⟨paths, sorted, found, mapError_eq_ok_iff.mp hpaths,
      ofNumeral_eq_ok_iff.mp (mapError_eq_ok_iff.mp hsorted), mapM_eq_ok_iff.mp hfound,
      pure_eq_ok_iff.mp h⟩
  · rintro ⟨paths, sorted, found, hpaths, hsorted, hfound, hsources⟩
    refine bind_eq_ok_iff.mpr ⟨paths, mapError_eq_ok_iff.mpr hpaths, ?_⟩
    refine bind_eq_ok_iff.mpr ⟨sorted, ?_, ?_⟩
    · exact mapError_eq_ok_iff.mpr (ofNumeral_eq_ok_iff.mpr hsorted)
    · exact bind_eq_ok_iff.mpr ⟨found, mapM_eq_ok_iff.mpr hfound, pure_eq_ok_iff.mpr hsources⟩

/-- What a run comes by on its way to a result: the documents it reads, and the commands it plans
for them before it leaves some of them out. -/
structure Planned (options : RunOptions) (directory root : Path) (d : Disk)
    (sources : List Source) (planned : List Command) (r : RunResult) : Prop where
  resolved : d.resolve directory = .ok root
  read : readSources d root = .ok sources
  plan : ∃ allocator,
    planCommands options.plan options.project root sources = .ok (planned, allocator)
  recorded : tasksOfCommands options.project planned = .ok r.tasks
  compared : changingCommands d planned = .ok r.commands
  applied : r.applied = !options.dry

theorem exists_planned (h : planRun options directory d = .ok r) :
    ∃ root sources planned, Planned options directory root d sources planned r := by
  obtain ⟨root, hroot, h⟩ := bind_eq_ok_iff.mp h
  obtain ⟨sources, hsources, h⟩ := bind_eq_ok_iff.mp h
  obtain ⟨⟨planned, allocator⟩, hplan, h⟩ := bind_eq_ok_iff.mp h
  obtain ⟨tasks, htasks, h⟩ := bind_eq_ok_iff.mp h
  obtain ⟨commands, hcommands, h⟩ := bind_eq_ok_iff.mp h
  obtain rfl := pure_eq_ok_iff.mp h
  exact ⟨root, sources, planned, mapError_eq_ok_iff.mp hroot, hsources,
    ⟨allocator, mapError_eq_ok_iff.mp hplan⟩, mapError_eq_ok_iff.mp htasks,
    mapError_eq_ok_iff.mp hcommands, rfl⟩

/-! ## 3. What stops a run early

Everything that a run does before it applies commands can fail, each in its own way.  The cases
follow the order in which a run comes by them, and each says what has gone well before. -/

/-- Something goes wrong before commands are applied: the path of the directory cannot be resolved,
the directory cannot be listed or its paths cannot be put in order, a document cannot be read, there
is no plan or no list of its tasks, or it cannot be told of a command whether it changes
something. -/
inductive StopsEarly (options : RunOptions) (directory : Path) (d : Disk) : Prop
  | resolving {e : FileError} (h : d.resolve directory = .error e)
  | listing {root : Path} {e : FileError} (hroot : d.resolve directory = .ok root)
      (h : d.documents root = .error e)
  | sorting {root : Path} {paths : List Path} {e : NumeralError}
      (hroot : d.resolve directory = .ok root) (hpaths : d.documents root = .ok paths)
      (h : naturalSort Path.toList paths = .error e)
  | reading {root : Path} {paths : List Path} {path : Path} {e : Disk.ReadError}
      (hroot : d.resolve directory = .ok root) (hpaths : d.documents root = .ok paths)
      (hpath : path ∈ paths) (h : d.readText? path = .error e)
  | planning {root : Path} {sources : List Source} {e : NumberingError}
      (hroot : d.resolve directory = .ok root) (hsources : readSources d root = .ok sources)
      (h : planCommands options.plan options.project root sources = .error e)
  | recording {root : Path} {sources : List Source} {planned : List Command}
      {allocator : Allocator} {e : NumberingError} (hroot : d.resolve directory = .ok root)
      (hsources : readSources d root = .ok sources)
      (hplan : planCommands options.plan options.project root sources = .ok (planned, allocator))
      (h : tasksOfCommands options.project planned = .error e)
  | comparing {root : Path} {sources : List Source} {planned : List Command}
      {allocator : Allocator} {c : Command} {e : Disk.ReadError}
      (hroot : d.resolve directory = .ok root) (hsources : readSources d root = .ok sources)
      (hplan : planCommands options.plan options.project root sources = .ok (planned, allocator))
      (hc : c ∈ planned) (h : c.changes d = .error e)

/-- **A run that is stopped early has no result.** -/
theorem StopsEarly.planRun_ne_ok (h : StopsEarly options directory d) (r : RunResult) :
    planRun options directory d ≠ .ok r := by
  intro hplanned
  obtain ⟨root, sources, planned, hresolved, hread, ⟨allocator, hplan⟩, hrecorded, hcompared, -⟩ :=
    exists_planned hplanned
  obtain ⟨paths, sorted, found, hpaths, hsorted, hfound, -⟩ := readSources_eq_ok_iff.mp hread
  -- All cases speak of the directory that the path has been resolved to.
  have hsame {other : Path} (h : d.resolve directory = .ok other) : other = root :=
    Except.ok.inj (h.symm.trans hresolved)
  cases h with
  | resolving h => simp [h] at hresolved
  | listing hroot h =>
    obtain rfl := hsame hroot
    simp [h] at hpaths
  | sorting hroot hlisted h =>
    obtain rfl := hsame hroot
    obtain rfl : _ = paths := Except.ok.inj (hlisted.symm.trans hpaths)
    simp [h] at hsorted
  | reading hroot hlisted hpath h =>
    obtain rfl := hsame hroot
    obtain rfl : _ = paths := Except.ok.inj (hlisted.symm.trans hpaths)
    have hmem := (naturalSort_perm hsorted).mem_iff.mpr hpath
    obtain ⟨source?, -, hsource⟩ := exists_of_mem_forall₂ hfound.flip hmem
    simp [readSource?, h] at hsource
  | planning hroot hsources h =>
    obtain rfl := hsame hroot
    obtain rfl : _ = sources := Except.ok.inj (hsources.symm.trans hread)
    simp [h] at hplan
  | recording hroot hsources hplan' h =>
    obtain rfl := hsame hroot
    obtain rfl : _ = sources := Except.ok.inj (hsources.symm.trans hread)
    obtain rfl := (Prod.mk.inj (Except.ok.inj (hplan'.symm.trans hplan))).1
    simp [h] at hrecorded
  | comparing hroot hsources hplan' hc h =>
    obtain rfl := hsame hroot
    obtain rfl : _ = sources := Except.ok.inj (hsources.symm.trans hread)
    obtain rfl := (Prod.mk.inj (Except.ok.inj (hplan'.symm.trans hplan))).1
    have hchanges := (eq_filter_of_changingCommands hcompared).1 _ hc
    simp [h] at hchanges

/-- **A run that is not stopped early has a result.** -/
theorem exists_planRun_eq_ok (h : ¬ StopsEarly options directory d) :
    ∃ r, planRun options directory d = .ok r := by
  obtain ⟨root, hroot⟩ := exists_eq_ok_of_ne_error fun e he => h (.resolving he)
  obtain ⟨paths, hpaths⟩ := exists_eq_ok_of_ne_error fun e he => h (.listing hroot he)
  obtain ⟨sorted, hsorted⟩ := exists_eq_ok_of_ne_error fun e he => h (.sorting hroot hpaths he)
  have hread : ∀ path ∈ sorted, ∃ source?, readSource? d path = .ok source? := by
    intro path hpath
    have hlisted : path ∈ paths := (naturalSort_perm hsorted).mem_iff.mp hpath
    obtain ⟨text, htext⟩ :=
      exists_eq_ok_of_ne_error fun e he => h (.reading hroot hpaths hlisted he)
    exact ⟨_, by rw [readSource?, htext]⟩
  obtain ⟨found, hfound⟩ := exists_mapM_eq_ok hread
  have hsources : readSources d root = .ok (found.filterMap id) :=
    readSources_eq_ok_iff.mpr
      ⟨paths, sorted, found, hpaths, hsorted, mapM_eq_ok_iff.mp hfound, rfl⟩
  obtain ⟨⟨planned, allocator⟩, hplan⟩ :=
    exists_eq_ok_of_ne_error fun e he => h (.planning hroot hsources he)
  obtain ⟨tasks, htasks⟩ :=
    exists_eq_ok_of_ne_error fun e he => h (.recording hroot hsources hplan he)
  obtain ⟨commands, hcommands⟩ := exists_changingCommands_eq_ok fun c hc =>
    exists_eq_ok_of_ne_error fun e he => h (.comparing hroot hsources hplan hc he)
  refine ⟨⟨commands, tasks, allocator.allocated, !options.dry⟩, ?_⟩
  refine bind_eq_ok_iff.mpr ⟨root, mapError_eq_ok_iff.mpr hroot, ?_⟩
  refine bind_eq_ok_iff.mpr ⟨_, hsources, ?_⟩
  refine bind_eq_ok_iff.mpr ⟨_, mapError_eq_ok_iff.mpr hplan, ?_⟩
  refine bind_eq_ok_iff.mpr ⟨tasks, mapError_eq_ok_iff.mpr htasks, ?_⟩
  exact bind_eq_ok_iff.mpr ⟨commands, mapError_eq_ok_iff.mpr hcommands, rfl⟩

theorem stopsEarly_iff :
    StopsEarly options directory d ↔ ∃ e, planRun options directory d = .error e := by
  constructor
  · intro h
    cases hplan : planRun options directory d with
    | error e => exact ⟨e, rfl⟩
    | ok r => exact absurd hplan (h.planRun_ne_ok r)
  · rintro ⟨e, he⟩
    by_contra h
    obtain ⟨r, hr⟩ := exists_planRun_eq_ok h
    rw [he] at hr
    cases hr

end

/-! ## 4. Places of commands

The documents that are listed have paths without links and `..`, because they are the locations of
entries; and what is planned for them has such paths, too. -/

/-- Whether the names on a disk are those of entries: none is empty, `.` or `..`. -/
def Disk.HasProperNames (d : Disk) : Prop := ∀ e ∈ d.entries, ∀ name ∈ e.1, IsProper name

instance (d : Disk) : Decidable d.HasProperNames :=
  inferInstanceAs (Decidable (∀ e ∈ d.entries, ∀ name ∈ e.1, _))

/-- Whether a path is that of something below the root. -/
def Path.IsOfEntry (path : Path) : Prop := path.IsNormal ∧ path.names ≠ []

section

variable {options : RunOptions} {directory root path : Path} {d after : Disk} {r : RunResult}

theorem Disk.eq_pathOf_of_filePath? {location : Location}
    (h : d.filePath? location = .ok (some path)) : path = pathOf location := by
  rw [filePath?] at h
  split at h
  · cases h
  · cases h
  next entry _ =>
    cases hdirectory : entry.isDirectory with
    | true => simp [hdirectory] at h
    | false => simpa [hdirectory] using h.symm

/-- Documents are at locations of entries. -/
theorem Disk.exists_of_mem_documentsBelow {top : Location} {paths : List Path}
    (h : d.documentsBelow top = .ok paths) (hpath : path ∈ paths) :
    ∃ e ∈ d.entries, top.isAbove e.1 = true ∧ path = pathOf e.1 := by
  obtain ⟨found, hfound, h⟩ := bind_eq_ok_iff.mp h
  obtain rfl := pure_eq_ok_iff.mp h
  obtain ⟨path?, hpath?, rfl⟩ := List.mem_filterMap.mp hpath
  obtain ⟨location, hlocation, hfile⟩ := exists_of_mem_forall₂ (mapM_eq_ok_iff.mp hfound) hpath?
  rw [List.mem_mergeSort, List.mem_filter, List.mem_map, Bool.and_eq_true] at hlocation
  obtain ⟨⟨e, he, rfl⟩, -, hlisted⟩ := hlocation
  rw [isListedBelow, Bool.and_eq_true] at hlisted
  exact ⟨e, he, hlisted.1, eq_pathOf_of_filePath? hfile⟩

theorem Disk.HasProperNames.isOfEntry_of_mem_documents (hd : d.HasProperNames) {paths : List Path}
    (h : d.documents root = .ok paths) (hpath : path ∈ paths) : path.IsOfEntry := by
  rw [Disk.documents] at h
  split at h
  · obtain ⟨e, he, habove, rfl⟩ := Disk.exists_of_mem_documentsBelow h hpath
    exact ⟨⟨rfl, hd e he⟩, Location.ne_nil_of_isAbove habove⟩
  · split at h
    · cases h
      cases hpath
    · cases h

theorem path_of_readSource? {s : Source} (h : readSource? d path = .ok (some s)) :
    s.path = path := by
  rw [readSource?] at h
  cases hread : d.readText? path with
  | error e => simp [hread] at h
  | ok text? =>
    rw [hread] at h
    obtain ⟨text, -, rfl⟩ := Option.map_eq_some_iff.mp (Except.ok.inj h)
    rfl

theorem Disk.HasProperNames.isOfEntry_of_mem_sources (hd : d.HasProperNames)
    {sources : List Source} (h : readSources d root = .ok sources) {s : Source}
    (hs : s ∈ sources) : s.path.IsOfEntry := by
  obtain ⟨paths, sorted, found, hpaths, hsorted, hfound, rfl⟩ := readSources_eq_ok_iff.mp h
  obtain ⟨source?, hsource, rfl⟩ := List.mem_filterMap.mp hs
  obtain ⟨path, hpath, hread⟩ := exists_of_mem_forall₂ hfound hsource
  rw [path_of_readSource? hread]
  exact hd.isOfEntry_of_mem_documents hpaths ((naturalSort_perm hsorted).mem_iff.mp hpath)

/-- What is planned for documents at normal paths is at normal paths, and what is deleted is one of
the documents. -/
theorem isNormal_of_mem_planCommands {options : PlanOptions} {name : String}
    {sources : List Source} {commands : List Command} {allocator : Allocator}
    (h : planCommands options name root sources = .ok (commands, allocator))
    (hentries : ∀ s ∈ sources, s.path.IsOfEntry) {c : Command} (hc : c ∈ commands) :
    c.path.IsNormal ∧ (c.isDelete = true → c.location ≠ []) := by
  obtain ⟨docs, hdocs, hsettle⟩ := planCommands_eq_ok_iff.mp h
  have hentries : ∀ d ∈ docs, d.path.IsOfEntry :=
    forall_path_of_map_path_eq (map_path_of_numberSources hdocs) Path.IsOfEntry hentries
  cases c with
  | write w =>
    exact ⟨isNormal_of_write_mem_settled hsettle (fun d hd => (hentries d hd).1) w
      (mem_writesOf.mpr hc), fun h => by cases h⟩
  | delete path =>
    obtain ⟨document, hdocument, rfl, -, -⟩ := (delete_mem_settled_iff hsettle).mp hc
    exact ⟨(hentries document hdocument).1, fun _ => (hentries document hdocument).2⟩

/-- The commands of a run that has a plan. -/
theorem Disk.HasProperNames.isNormal_of_planRun (hd : d.HasProperNames)
    (h : planRun options directory d = .ok r) {c : Command} (hc : c ∈ r.commands) :
    c.path.IsNormal ∧ (c.isDelete = true → c.location ≠ []) := by
  obtain ⟨root, sources, planned, hplanned⟩ := exists_planned h
  obtain ⟨allocator, hplan⟩ := hplanned.plan
  obtain ⟨-, hcommands⟩ := eq_filter_of_changingCommands hplanned.compared
  rw [hcommands] at hc
  exact isNormal_of_mem_planCommands hplan
    (fun s hs => hd.isOfEntry_of_mem_sources hplanned.read hs) (List.mem_filter.mp hc).1

/-- What a run deletes has been found before. -/
theorem exists_find_of_planRun (h : planRun options directory d = .ok r)
    (hpath : .delete path ∈ r.commands) : ∃ entry, d.find path = .ok entry := by
  obtain ⟨root, sources, planned, hplanned⟩ := exists_planned h
  obtain ⟨hchanges, hcommands⟩ := eq_filter_of_changingCommands hplanned.compared
  rw [hcommands] at hpath
  obtain ⟨hmem, hkept⟩ := List.mem_filter.mp hpath
  have hexists := Command.exists?_of_changes_delete (hchanges _ hmem)
  rw [hkept] at hexists
  exact Disk.find_of_exists?_true hexists

/-- Pairwise distinct paths, none of which is a directory on the way to another. -/
structure AreApart (paths : List Path) : Prop where
  nodup : paths.Nodup
  free : ∀ p ∈ paths, ∀ q ∈ paths, p ∉ q.parents

/-- Paths below the root are told apart by their names. -/
theorem Path.IsNormal.eq_of_names_eq {p q : Path} (hp : p.IsNormal) (hq : q.IsNormal)
    (h : p.names = q.names) : p = q :=
  Path.eq_of_names_eq (hp.anchor_eq.trans hq.anchor_eq.symm) h

/-- Commands at distinct paths are at distinct places. -/
theorem AreApart.separate {commands : List Command} (h : AreApart (commands.map Command.path))
    (hnormal : ∀ c ∈ commands, c.path.IsNormal) : Separate commands where
  direct := fun c hc hmem => ((hnormal c hc).isProper _ hmem).2 rfl
  nodup := by
    refine List.Nodup.map_on (fun b hb c hc hlocation => ?_) (List.Nodup.of_map _ h.nodup)
    exact List.inj_on_of_nodup_map h.nodup hb hc
      ((hnormal b hb).eq_of_names_eq (hnormal c hc) hlocation)
  free := by
    intro b hb c hc
    rw [Bool.eq_false_iff]
    intro habove
    obtain ⟨n, hn, htake⟩ := Location.isAbove_iff_take.mp habove
    have hparent : { c.path with names := c.path.names.take n } ∈ c.path.parents :=
      Path.mem_parents_iff.mpr ⟨n, hn, rfl⟩
    refine h.free _ (List.mem_map_of_mem hb) _ (List.mem_map_of_mem hc) ?_
    rwa [(hnormal b hb).eq_of_names_eq
      (Path.isNormal_of_mem_parents (hnormal c hc) hparent) htake.symm]

/-- **Without links the paths of a run say whether its commands are kept apart.** -/
theorem Disk.HasProperNames.keepsApart (hd : d.HasProperNames) (hfree : d.IsLinkFree)
    (hplan : planRun options directory d = .ok r)
    (hpaths : AreApart (r.commands.map Command.path)) : d.KeepsApart r.commands :=
  hfree.keepsApart (hpaths.separate fun _ hc => (hd.isNormal_of_planRun hplan hc).1)
    fun _ hc => (hd.isNormal_of_planRun hplan hc).2

/-! ## 5. Runs that succeed

A real run applies its commands in one schedule of many.  What is proved about the disk afterwards
is proved for all schedules in which nothing fails, and the run is shown to be one of them
(`succeeds_of_outcome`). -/

/-- A run that is not dry and succeeds: it has a plan, and the commands are applied in some schedule
in which nothing fails. -/
structure Succeeds (options : RunOptions) (directory : Path) (d : Disk) (r : RunResult)
    (after : Disk) : Prop where
  plan : planRun { options with dry := false } directory d = .ok r
  schedule : ∃ slots s, Relation.ReflTransGen (ApplyStep slots) (.start d r.commands) s ∧
    s.IsDone ∧ s.failures = [] ∧ s.disk = after

/-- Whether a disk is as a result says: every written path leads to a file with its content, and
every deleted one leads nowhere. -/
structure RunResult.HoldsOn (r : RunResult) (after : Disk) : Prop where
  written : ∀ w ∈ r.writes, ∃ entry, after.find w.path = .ok entry ∧
    after.bytesOf? entry = some (utf8 w.content.toList)
  deleted : ∀ c ∈ r.deletes, after.find c.path = .error .notFound

/-- A dry run gives its plan and nothing else. -/
theorem outcome_of_dry (hdry : options.dry = true) :
    options.outcome directory d = (planRun options directory d, d) := by
  rw [outcome_eq_carryOut]
  cases hplan : planRun options directory d with
  | error e => rfl
  | ok r =>
    obtain ⟨_, _, _, hplanned⟩ := exists_planned hplan
    have happlied : r.applied = false := by rw [hplanned.applied, hdry, Bool.not_true]
    rw [RunOptions.carryOut, happlied, if_neg Bool.false_ne_true]

/-- A run that is not dry and has a plan applies its commands. -/
theorem outcome_of_not_dry (hdry : options.dry = false)
    (hplan : planRun options directory d = .ok r) : options.outcome directory d =
      match (applyCommands options.atOnce r.commands).outcome d with
      | (.ok (), after) => (.ok r, after)
      | (.error e, after) => (.error (.writing e), after) := by
  obtain ⟨_, _, _, hplanned⟩ := exists_planned hplan
  have happlied : r.applied = true := by rw [hplanned.applied, hdry, Bool.not_false]
  rw [outcome_eq_carryOut, hplan, RunOptions.carryOut, if_pos happlied]

/-- **A run that fails** has been stopped early, with the disk as it was, or could not write. -/
theorem stopsEarly_or_of_outcome_error {e : RunError}
    (h : options.outcome directory d = (.error e, after)) :
    (StopsEarly options directory d ∧ after = d) ∨ ∃ f, e = .writing f := by
  cases hplan : planRun options directory d with
  | error e' =>
    rw [outcome_eq_carryOut, hplan] at h
    exact .inl ⟨stopsEarly_iff.mpr ⟨e', hplan⟩, (Prod.mk.inj h).2.symm⟩
  | ok r =>
    cases hdry : options.dry with
    | true =>
      rw [outcome_of_dry hdry, hplan] at h
      cases (Prod.mk.inj h).1
    | false =>
      rw [outcome_of_not_dry hdry hplan] at h
      split at h
      · simp at h
      next f last happly => exact .inr ⟨f, (Except.error.inj (Prod.mk.inj h).1).symm⟩

/-- Applying the commands one after the other is one way to succeed. -/
theorem succeeds_of_outcome
    (h : { options with dry := false }.outcome directory d = (.ok r, after)) :
    Succeeds options directory d r after := by
  cases hplan : planRun { options with dry := false } directory d with
  | error e =>
    rw [outcome_eq_carryOut, hplan] at h
    cases h
  | ok result =>
    rw [outcome_of_not_dry rfl hplan] at h
    split at h
    next last happly =>
      obtain ⟨rfl, rfl⟩ : result = r ∧ last = after := by simpa using h
      exact ⟨hplan, 1, _, run_of_applyCommands (Nat.le_refl 1) (List.forall_mem_nil _) happly,
        isDone_map_ended _ _ _, rfl, rfl⟩
    · simp at h

/-- **A dry run gives what a real one does**, but for saying that nothing was applied. -/
theorem Succeeds.outcome_dry (h : Succeeds options directory d r after) :
    { options with dry := true }.outcome directory d = (.ok { r with applied := false }, d) := by
  have hplan := planRun_dry { options with dry := false } directory d true
  rw [h.plan] at hplan
  rw [outcome_of_dry rfl, hplan]
  rfl

/-- **What a run that succeeds has done is found on the disk**, if its commands are kept apart. -/
theorem Succeeds.holdsOn (h : Succeeds options directory d r after) (hd : d.HasProperNames)
    (hapart : d.KeepsApart r.commands) : r.HoldsOn after := by
  obtain ⟨slots, s, hrun, hdone, hclean, rfl⟩ := h.schedule
  have hdirect (c : Command) (hc : c ∈ r.commands) : parentName ∉ c.location :=
    fun hmem => ((hd.isNormal_of_planRun h.plan hc).1.isProper _ hmem).2 rfl
  obtain ⟨hwritten, hdeleted⟩ := find_of_clean_run hapart hdirect
    (fun path hpath => exists_find_of_planRun h.plan hpath) hrun hdone hclean
  refine ⟨fun w hw => hwritten w (mem_writesOf.mp hw), fun c hc => ?_⟩
  obtain ⟨hmem, hdelete⟩ := List.mem_filter.mp hc
  cases c with
  | write w => cases hdelete
  | delete path => exact hdeleted path hmem

end

/-! ## 6. Dry runs and real ones -/

/-- The text of a document. -/
def titledText : Bytes := utf8 "# Plan\n\n- [ ] x\n".toList

/-- A disk with a document that is not named as it is titled. -/
def titledNotes : Disk where
  entries := [([['n'], ['s'], "a.md".toList], .file titledText), ([['n'], ['s']], .directory),
    ([['n']], .directory)]

/-- A disk with a document that is no text. -/
def brokenNotes : Disk := titledNotes.put [['n'], ['s'], "a.md".toList] (.file [0xFF])

/-- A disk with a document that may not be read. -/
def lockedNotes : Disk :=
  titledNotes.put [['n'], ['s'], "a.md".toList] (.without .read (.file titledText))

/-- A disk with a document that is a link to a file elsewhere, and a link to its directory. -/
def linkedNotes : Disk where
  entries := [([['n'], ['s'], "a.md".toList], .link (.ofString "../../k/x")),
    ([['n'], ['s']], .directory), ([['n']], .directory), ([['w']], .link (.ofString "n")),
    ([['k'], ['x']], .file titledText), ([['k']], .directory)]

/-- A run that is not dry and adds no indexes. -/
def plainRun : RunOptions := ⟨"TODO", ⟨true, false⟩, 2, false⟩

/-- A document that cannot be read stops a run. -/
theorem stopsEarly_of_readText? {d : Disk} {e : Disk.ReadError}
    (hroot : d.resolve (.ofString "/n") = .ok (.ofString "/n"))
    (hpaths : d.documents (.ofString "/n") = .ok [.ofString "/n/s/a.md"])
    (hread : d.readText? (.ofString "/n/s/a.md") = .error e) :
    StopsEarly plainRun (.ofString "/n") d :=
  .reading hroot hpaths (List.mem_singleton_self _) hread

theorem stopsEarly_brokenNotes : StopsEarly plainRun (.ofString "/n") brokenNotes :=
  stopsEarly_of_readText? (e := .encoding ⟨0xFF, 0, 1, .invalidStart⟩) (by decide +kernel)
    (by decide +kernel) (by decide +kernel)

theorem stopsEarly_lockedNotes : StopsEarly plainRun (.ofString "/n") lockedNotes :=
  stopsEarly_of_readText? (e := .file .permissionDenied) (by decide +kernel) (by decide +kernel)
    (by decide +kernel)

end TaskNotes
