/-
# Schedules without failures

`Proofs/Schedules` starts from commands that can be applied.  Here a schedule is given in which
nothing has failed, of whatever commands and on whatever disk, and this tells something of them.

* What holds of the disk in such a schedule, and what holds of a command once it has been applied,
  is proved by looking at one access that succeeds (`clean_run_induction`).  The commands are
  different, so none of them is applied twice.
* On a plain disk every access that succeeds leaves directories where they are, so a command that
  has ended fits the disk it was applied to: the names of a written path are short, and no directory
  was deleted (`fits_of_run`).
* Commands that do nothing can be left out (`run_only`).
* Applying commands one after the other is a schedule (`run_of_applyCommands`).

The direction is the opposite of that in `Proofs/Schedules`, where the outcome of every access is
foretold.  Here nothing is known of the commands beforehand: they may write through links, or be
about one place.  What is known is that no access has failed, and an access that has not failed
tells what must have been there when it was made.  Reading is done before anything is applied and
can be foretold; rights and directories in the way can not.
-/
import TaskNotes.Proofs.Schedules
import TaskNotes.Proofs.DiskViews

namespace TaskNotes

/-! ## 1. One access after the other

Two things are carried along a schedule: what holds of the disk, and what holds of each command
whose last access has been made.  Other commands go on making accesses after that, so the second
must be kept by them as well.  `Advances` says both of one access, and the induction over the
schedule is done once for all such pairs. -/

section

variable {d : Disk} {commands : List Command} {atOnce : Nat} {s next : Applying}

/-- Failures are never taken back. -/
theorem failures_eq_nil_of_step (hstep : ApplyStep atOnce s next) (h : next.failures = []) :
    s.failures = [] := by
  cases hstep with
  | fail haccess houtcome => simp at h
  | begin hslot => exact h
  | access haccess houtcome => exact h
  | finish haccess => exact h

theorem map_command_of_step (hstep : ApplyStep atOnce s next) :
    next.jobs.map Job.command = s.jobs.map Job.command := by
  cases hstep <;> simp

theorem map_command_of_run
    (hrun : Relation.ReflTransGen (ApplyStep atOnce) (.start d commands) s) :
    s.jobs.map Job.command = commands := by
  induction hrun with
  | refl => exact (follows_start d commands).map_command
  | tail _ hstep ih => exact (map_command_of_step hstep).trans ih

theorem command_mem_of_run
    (hrun : Relation.ReflTransGen (ApplyStep atOnce) (.start d commands) s) {job : Job}
    (hjob : job ∈ s.jobs) : job.command ∈ commands := by
  rw [← map_command_of_run hrun]
  exact List.mem_map_of_mem hjob

/-- What an access that succeeds does to what holds of a disk and of the commands that have been
applied to it. -/
structure Advances (commands : List Command) (holds : Disk → Prop)
    (applied : Command → Disk → Prop) (c : Command) (made : Nat) (disk disk' : Disk) : Prop where
  holds : holds disk'
  others : ∀ b ∈ commands, b ≠ c → applied b disk → applied b disk'
  last : c.accesses.length ≤ made + 1 → applied c disk'

variable (holds : Disk → Prop) (applied : Command → Disk → Prop)

/-- **What holds in a schedule without failures**, if every access that succeeds advances it. -/
theorem clean_run_induction (hnodup : commands.Nodup) (hstart : holds d)
    (hadvances : ∀ c ∈ commands, ∀ made access disk disk', c.accesses[made]? = some access →
      access.outcome disk = (.ok (), disk') → holds disk →
        Advances commands holds applied c made disk disk')
    (hrun : Relation.ReflTransGen (ApplyStep atOnce) (.start d commands) s)
    (hclean : s.failures = []) :
    holds s.disk ∧ ∀ job ∈ s.jobs, job.IsApplied → applied job.command s.disk := by
  induction hrun with
  | refl =>
    refine ⟨hstart, fun job hjob hdone => ?_⟩
    obtain ⟨c, -, rfl⟩ := List.mem_map.mp hjob
    exact absurd hdone (Nat.not_le_of_lt (length_accesses_pos c))
  | @tail s next hrun hstep ih =>
    obtain ⟨hholds, happlied⟩ := ih (failures_eq_nil_of_step hstep hclean)
    have hmap := map_command_of_run hrun
    cases hstep with
    | @begin before after c disk failures hslot =>
      refine ⟨hholds, fun job hjob hdone => ?_⟩
      rcases mem_update hjob with rfl | hjob
      · exact absurd hdone (Nat.not_le_of_lt (length_accesses_pos c))
      · exact happlied job hjob hdone
    | @access before after c made disk disk' failures access haccess houtcome =>
      have hc : c ∈ commands := command_mem_of_run hrun List.mem_append_cons_self
      have hnext := hadvances c hc made access disk disk' haccess houtcome hholds
      refine ⟨hnext.holds, fun job hjob hdone => ?_⟩
      -- The other jobs have other commands.
      rw [← hmap, List.map_append, List.map_cons] at hnodup
      have hother (hjob : job ∈ before ∨ job ∈ after) : applied job.command disk' := by
        have hmem : job ∈ before ++ ⟨c, .underWay made⟩ :: after := by
          rcases hjob with hjob | hjob
          · exact List.mem_append_left _ hjob
          · exact List.mem_append_right _ (List.mem_cons_of_mem _ hjob)
        refine hnext.others _ (command_mem_of_run hrun hmem) ?_ (happlied job hmem hdone)
        intro heq
        rw [List.nodup_middle, List.nodup_cons, ← List.map_append] at hnodup
        exact hnodup.1 (List.mem_map.mpr ⟨job, List.mem_append.mpr hjob, heq⟩)
      rcases List.mem_append.mp hjob with hjob | hjob
      · exact hother (.inl hjob)
      · rcases List.mem_cons.mp hjob with rfl | hjob
        · exact hnext.last hdone
        · exact hother (.inr hjob)
    | fail haccess houtcome => simp at hclean
    | @finish before after c made disk failures haccess =>
      refine ⟨hholds, fun job hjob hdone => ?_⟩
      rcases mem_update hjob with rfl | hjob
      · exact happlied ⟨c, .underWay made⟩ List.mem_append_cons_self
          (List.getElem?_eq_none_iff.mp haccess)
      · exact happlied job hjob hdone

/-- When all commands of a schedule have ended without a failure, all have been applied. -/
theorem applied_of_clean_run (hnodup : commands.Nodup) (hstart : holds d)
    (hadvances : ∀ c ∈ commands, ∀ made access disk disk', c.accesses[made]? = some access →
      access.outcome disk = (.ok (), disk') → holds disk →
        Advances commands holds applied c made disk disk')
    (hrun : Relation.ReflTransGen (ApplyStep atOnce) (.start d commands) s) (hdone : s.IsDone)
    (hclean : s.failures = []) : holds s.disk ∧ ∀ c ∈ commands, applied c s.disk := by
  obtain ⟨hholds, happlied⟩ := clean_run_induction holds applied hnodup hstart hadvances hrun hclean
  refine ⟨hholds, fun c hc => ?_⟩
  rw [← map_command_of_run hrun] at hc
  obtain ⟨⟨c, stage⟩, hjob, rfl⟩ := List.mem_map.mp hc
  obtain rfl : stage = .ended := hdone _ hjob
  exact happlied _ hjob (Nat.le_refl _)

end

/-! ## 2. Accesses to plain disks

On a disk without links an access changes the location that its path names, and no other.  Each
lemma reads the success of an access backwards: nothing was in the way, so this is how the disk was
and how it has become. -/

namespace Disk

open Access

variable {d after : Disk} {location : Location} {path : Path} {bytes : Bytes} {entry : Entry}

theorem IsPlain.put (hplain : d.IsPlain) (hne : location ≠ []) (hentry : entry.isPlain = true) :
    (d.put location entry).IsPlain := by
  intro other found hfound
  rw [entryAt?_put hne] at hfound
  split at hfound
  · obtain rfl : entry = found := Option.some.inj hfound
    exact hentry
  · exact hplain other found hfound

theorem IsPlain.erase (hplain : d.IsPlain) (hne : location ≠ []) : (d.erase location).IsPlain := by
  intro other found hfound
  rw [entryAt?_erase hne] at hfound
  split at hfound
  · cases hfound
  · exact hplain other found hfound

/-- Making directories changes nothing that is there. -/
theorem entryAt?_of_makeDirectories {other : Location}
    (h : (makeDirectories path).outcome d = (.ok (), after))
    (hentry : d.entryAt? other = some entry) : after.entryAt? other = some entry := by
  refine makeFrom_induction (motive := fun d => d.entryAt? other = some entry)
    (fun d names name location hentry _ _ _ hnone => ?_) h hentry
  have hne : location ++ [name] ≠ [] := List.append_ne_nil_of_right_ne_nil _ (List.cons_ne_nil _ _)
  rw [entryAt?_put hne, if_neg]
  · exact hentry
  · rintro rfl
    simp [hentry] at hnone

theorem IsPlain.of_makeDirectories (hplain : d.IsPlain)
    (h : (makeDirectories path).outcome d = (.ok (), after)) : after.IsPlain :=
  makeFrom_induction (motive := IsPlain) (fun _ _ _ _ hplain _ _ _ _ =>
    hplain.put (List.append_ne_nil_of_right_ne_nil _ (List.cons_ne_nil _ _)) rfl) h hplain

section

variable (hplain : d.IsPlain) (hdirect : parentName ∉ path.names)

include hplain hdirect

/-- A file that could be written is now what is at its path, where no directory was. -/
theorem IsPlain.outcome_putFile_eq_ok (h : (putFile path bytes).outcome d = (.ok (), after)) :
    d.entryAt? path.names ≠ some .directory ∧ (∀ name ∈ path.names, isTooLong name = false) ∧
      after = d.put path.names (.file bytes) := by
  obtain ⟨location, hspot, hafter⟩ := Disk.outcome_putFile_eq_ok h
  obtain ⟨rfl, hshort⟩ := hplain.eq_append_of_followLinks hdirect hspot
  rw [List.nil_append] at hafter
  rcases hafter with ⟨hnone, rfl⟩ | ⟨entry, hentry, hdirectory, hafter⟩
  · exact ⟨by simp [hnone], hshort, rfl⟩
  · have hentryPlain := hplain _ _ hentry
    cases entry with
    | directory => cases hdirectory
    | file old =>
      obtain ⟨number, hnumber, -⟩ | ⟨-, rfl⟩ := hafter
      · cases hnumber
      · exact ⟨by simp [hentry], hshort, rfl⟩
    | _ => cases hentryPlain

/-- A delete that succeeded found nothing, or took away a file. -/
theorem IsPlain.outcome_deleteFile_eq_ok {value : Bool}
    (h : (deleteFile path).outcome d = (.ok value, after)) :
    after = d ∨ ∃ bytes, d.entryAt? path.names = some (.file bytes) ∧
      after = d.erase path.names := by
  rcases Disk.outcome_deleteFile_eq_ok h with ⟨-, rfl⟩ | ⟨location, hfollow, hne, -, hafter⟩
  · exact .inl rfl
  · have hdirect' : parentName ∉ path.parent.names :=
      fun hmem => hdirect ((List.dropLast_sublist _).mem hmem)
    obtain ⟨rfl, -⟩ := hplain.eq_append_of_followLinks hdirect' hfollow
    rcases hafter with ⟨-, rfl⟩ | ⟨entry, hlook, hdirectory, rfl⟩
    · exact .inl rfl
    · obtain ⟨-, -, hentry⟩ := lookIn_eq_ok_iff.mp hlook
      rw [List.nil_append, Path.parent_names_append_name hne] at hentry ⊢
      obtain ⟨bytes, hbytes⟩ := (hplain.none_or_file fun h => by
        rw [h] at hentry
        cases hentry
        cases hdirectory).resolve_left (by simp [hentry])
      exact .inr ⟨bytes, hbytes, rfl⟩

omit hplain in
/-- A directory is not deleted. -/
theorem outcome_deleteFile_ne_ok {value : Bool}
    (hdirectories : ∀ above : Location, above.isAbove path.names = true →
      d.entryAt? above = some .directory)
    (hentry : d.entryAt? path.names = some .directory) :
    (deleteFile path).outcome d ≠ (.ok value, after) := by
  intro h
  have hparent : d.entryAt? path.parent.names = some .directory := by
    by_cases hne : path.names = []
    · rw [Path.parent, hne]
      exact d.entryAt?_nil
    · exact hdirectories _ (Location.dropLast_isAbove hne)
  have hfound : d.follow [] path.parent.names = .ok path.parent.names ∨
      d.follow [] path.parent.names = .error .nameTooLong :=
    follow_of_above (fun hmem => hdirect ((List.dropLast_sublist _).mem hmem))
      (fun above habove => hdirectories above (Location.isAbove_dropLast habove)) hparent rfl
  rcases Disk.outcome_deleteFile_eq_ok h with ⟨hfollow, -⟩ | ⟨location, hfollow, hne, -, hafter⟩
  · simp [hfollow] at hfound
  · obtain rfl : location = path.parent.names := by simpa [hfollow] using hfound
    -- The directory would have been met.
    have hlook {next : Option Entry} (h : d.lookIn path.parent.names path.name = .ok next) :
        next = some .directory := by
      rw [← (lookIn_eq_ok_iff.mp h).2.2, Path.parent_names_append_name hne, hentry]
    rcases hafter with ⟨hnone, -⟩ | ⟨entry, hsome, hdirectory, -⟩
    · cases hlook hnone
    · obtain rfl : entry = .directory := Option.some.inj (hlook hsome)
      cases hdirectory

end

/-- Whether directories stay where they are. -/
def KeepsDirectories (d after : Disk) : Prop :=
  ∀ location, d.entryAt? location = some .directory → after.entryAt? location = some .directory

theorem KeepsDirectories.trans {last : Disk} (h : d.KeepsDirectories after)
    (hlast : after.KeepsDirectories last) : d.KeepsDirectories last :=
  fun location hentry => hlast location (h location hentry)

/-- Directories stay if only one place changes where none is. -/
theorem keepsDirectories_of_forall_ne (hentry : d.entryAt? location ≠ some .directory)
    (hother : ∀ other, other ≠ location → after.entryAt? other = d.entryAt? other) :
    d.KeepsDirectories after := by
  intro other hdirectory
  rw [hother other fun heq => hentry (heq ▸ hdirectory)]
  exact hdirectory

end Disk

/-! ## 3. Commands that have ended -/

section

open Access Disk

variable {c : Command} {access : Access Unit} {made : Nat} {d disk disk' : Disk}

/-- **An access that succeeds leaves a disk plain and its directories** where they are. -/
theorem Command.keepsDirectories (hplain : disk.IsPlain) (hdirect : parentName ∉ c.location)
    (haccess : c.accesses[made]? = some access) (h : access.outcome disk = (.ok (), disk')) :
    disk'.IsPlain ∧ disk.KeepsDirectories disk' := by
  cases c with
  | write w =>
    rcases made with - | - | made
    · cases haccess
      exact ⟨hplain.of_makeDirectories h, fun location => entryAt?_of_makeDirectories h⟩
    · cases haccess
      obtain ⟨hentry, -, rfl⟩ := hplain.outcome_putFile_eq_ok hdirect h
      have hne : w.path.names ≠ [] := ne_nil_of_entryAt?_ne hentry
      exact ⟨hplain.put hne rfl, keepsDirectories_of_forall_ne hentry fun other hother =>
        (entryAt?_put hne).trans (if_neg hother)⟩
    · cases haccess
  | delete path =>
    rcases made with - | made
    · cases haccess
      obtain ⟨value, between, hdelete, hrest⟩ := outcome_bind_eq_ok h
      cases hrest
      rcases hplain.outcome_deleteFile_eq_ok hdirect hdelete with rfl | ⟨bytes, hfile, rfl⟩
      · exact ⟨hplain, fun _ => id⟩
      · have hentry : disk.entryAt? path.names ≠ some .directory := by
          intro hdirectory
          cases hdirectory.symm.trans hfile
        have hne : path.names ≠ [] := ne_nil_of_entryAt?_ne hentry
        exact ⟨hplain.erase hne, keepsDirectories_of_forall_ne hentry fun other hother =>
          (entryAt?_erase hne).trans (if_neg hother)⟩
    · cases haccess

/-- Whether a command can be carried out as far as names and directories go: what is written has
short names, and what is deleted is no directory. -/
def Command.Fits (d : Disk) : Command → Prop
  | .write w => ∀ name ∈ w.path.names, isTooLong name = false
  | .delete path => d.entryAt? path.names ≠ some .directory

/-- **A command whose last access succeeds fits the disk** from which directories have been kept. -/
theorem Command.fits_of_last (htree : d.IsTree) (hplain : disk.IsPlain)
    (hkeeps : d.KeepsDirectories disk) (hdirect : parentName ∉ c.location)
    (haccess : c.accesses[made]? = some access) (h : access.outcome disk = (.ok (), disk'))
    (hlast : c.accesses.length ≤ made + 1) : c.Fits d := by
  cases c with
  | write w =>
    rcases made with - | - | made
    · exact absurd hlast (Nat.not_succ_le_self 1)
    · cases haccess
      exact (hplain.outcome_putFile_eq_ok hdirect h).2.1
    · cases haccess
  | delete path =>
    rcases made with - | made
    · cases haccess
      obtain ⟨value, between, hdelete, -⟩ := outcome_bind_eq_ok h
      intro hentry
      -- A directory would still be there, with directories above it, and would be found.
      exact outcome_deleteFile_ne_ok hdirect
        (fun above habove => hkeeps _ (htree.directories _ _ hentry above habove))
        (hkeeps _ hentry) hdelete
    · cases haccess

variable {commands : List Command} {atOnce : Nat} {s : Applying}

/-- **When all commands of a schedule have ended without a failure, they fit the disk.** -/
theorem fits_of_run (htree : d.IsTree) (hnodup : commands.Nodup)
    (hdirect : ∀ c ∈ commands, parentName ∉ c.location)
    (hrun : Relation.ReflTransGen (ApplyStep atOnce) (.start d commands) s) (hdone : s.IsDone)
    (hclean : s.failures = []) {c : Command} (hc : c ∈ commands) : c.Fits d := by
  refine (applied_of_clean_run (fun disk => disk.IsPlain ∧ d.KeepsDirectories disk)
    (fun c _ => c.Fits d) hnodup ⟨htree.plain, fun _ => id⟩ ?_ hrun hdone hclean).2 c hc
  rintro c hc made access disk disk' haccess houtcome ⟨hplain, hkeeps⟩
  obtain ⟨hplain', hkeeps'⟩ := Command.keepsDirectories hplain (hdirect c hc) haccess houtcome
  exact ⟨⟨hplain', hkeeps.trans hkeeps'⟩, fun _ _ _ => id,
    Command.fits_of_last htree hplain hkeeps (hdirect c hc) haccess houtcome⟩

end

section

variable {d : Disk} {commands : List Command} {atOnce : Nat} {s next : Applying}

/-! ## 4. Leaving out commands

A command that does nothing still takes a slot and still ends.  So the steps that are about it are
left out of the schedule, and what remains is a schedule of the other commands on the same disks. -/

variable {p : Command → Bool}

/-- The part of a schedule that is about some of its commands. -/
def Applying.only (p : Command → Bool) (s : Applying) : Applying :=
  ⟨s.jobs.filter fun job => p job.command, s.disk, s.failures⟩

theorem only_start (d : Disk) (commands : List Command) (p : Command → Bool) :
    (Applying.start d commands).only p = .start d (commands.filter p) := by
  simp [Applying.only, Applying.start, List.filter_map, Function.comp_def]

theorem Applying.IsDone.only (h : s.IsDone) (p : Command → Bool) : (s.only p).IsDone :=
  fun job hjob => h job (List.mem_filter.mp hjob).1

section

variable {before after : List Job} {c : Command} {stage stage' : Stage} {disk : Disk}
  {failures : List FileError}

/-- How far a command is that is left out does not count. -/
theorem only_of_false (hc : p c = false) :
    Applying.only p ⟨before ++ ⟨c, stage'⟩ :: after, disk, failures⟩ =
      Applying.only p ⟨before ++ ⟨c, stage⟩ :: after, disk, failures⟩ := by
  simp [Applying.only, hc]

theorem only_of_true (hc : p c = true) :
    Applying.only p ⟨before ++ ⟨c, stage⟩ :: after, disk, failures⟩ =
      ⟨(before.filter fun job => p job.command) ++ ⟨c, stage⟩ ::
        after.filter fun job => p job.command, disk, failures⟩ := by
  simp [Applying.only, hc]

end

/-- **A step of a schedule is a step of the part or no step of it**, if accesses of the other
commands do nothing. -/
theorem step_only (hstep : ApplyStep atOnce s next) (hclean : next.failures = [])
    (hidle : ∀ job ∈ s.jobs, p job.command = false → ∀ access ∈ job.command.accesses,
      ∀ disk', access.outcome s.disk = (.ok (), disk') → disk' = s.disk) :
    Relation.ReflTransGen (ApplyStep atOnce) (s.only p) (next.only p) := by
  cases hstep with
  | @begin before after c disk failures hslot =>
    cases hc : p c with
    | false => rw [only_of_false hc]
    | true =>
      have hpart := (List.filter_sublist (l := before) (p := fun job => p job.command)).append
        ((List.filter_sublist (l := after) (p := fun job => p job.command)).cons_cons ⟨c, .waiting⟩)
      rw [only_of_true hc, only_of_true hc]
      exact .single (.begin (Nat.lt_of_le_of_lt hpart.countP_le hslot))
  | @access before after c made disk disk' failures access haccess houtcome =>
    cases hc : p c with
    | false =>
      obtain rfl : disk' = disk := hidle ⟨c, .underWay made⟩ List.mem_append_cons_self hc access
        (List.mem_of_getElem? haccess) disk' houtcome
      rw [only_of_false hc]
    | true =>
      rw [only_of_true hc, only_of_true hc]
      exact .single (.access haccess houtcome)
  | fail haccess houtcome => simp at hclean
  | @finish before after c made disk failures haccess =>
    cases hc : p c with
    | false => rw [only_of_false hc]
    | true =>
      rw [only_of_true hc, only_of_true hc]
      exact .single (.finish haccess)

/-- **Commands that do nothing can be left out of a schedule** in which nothing has failed. -/
theorem run_only (hrun : Relation.ReflTransGen (ApplyStep atOnce) (.start d commands) s)
    (hclean : s.failures = [])
    (hidle : ∀ t, Relation.ReflTransGen (ApplyStep atOnce) (.start d (commands.filter p)) t →
      ∀ c ∈ commands, p c = false → ∀ access ∈ c.accesses,
        ∀ disk', access.outcome t.disk = (.ok (), disk') → disk' = t.disk) :
    Relation.ReflTransGen (ApplyStep atOnce) (.start d (commands.filter p)) (s.only p) := by
  induction hrun with
  | refl => rw [only_start]
  | @tail s next hrun hstep ih =>
    have hpart := ih (failures_eq_nil_of_step hstep hclean)
    exact hpart.trans (step_only hstep hclean fun job hjob =>
      hidle _ hpart job.command (command_mem_of_run hrun hjob))

end

/-! ## 5. One after the other -/

section

variable {disk disk' : Disk} {before after : List Job} {c : Command} {failures : List FileError}
  {atOnce : Nat}

/-- Accesses made in one go are steps of a schedule. -/
theorem run_of_forM {front rest : List (Access Unit)} (haccesses : front ++ rest = c.accesses)
    (h : (rest.forM id : Access Unit).outcome disk = (.ok (), disk')) :
    Relation.ReflTransGen (ApplyStep atOnce)
      ⟨before ++ ⟨c, .underWay front.length⟩ :: after, disk, failures⟩
      ⟨before ++ ⟨c, .ended⟩ :: after, disk', failures⟩ := by
  induction rest generalizing front disk with
  | nil =>
    cases h
    have hlength : c.accesses.length ≤ front.length := by simp [← haccesses]
    exact .single (.finish (List.getElem?_eq_none_iff.mpr hlength))
  | cons access rest ih =>
    obtain ⟨_, between, haccess, hrest⟩ := Access.outcome_bind_eq_ok h
    have hget : c.accesses[front.length]? = some access := by simp [← haccesses]
    refine (Relation.ReflTransGen.single (.access hget haccess)).trans ?_
    have haccesses' : (front ++ [access]) ++ rest = c.accesses := by simp [← haccesses]
    have hfront := ih haccesses' hrest
    rwa [List.length_append] at hfront

theorem outcome_tryCatch_eq_ok {access : Access Unit} {other : FileError → Access Unit}
    (h : (tryCatch access other).outcome disk = (.ok (), disk')) :
    access.outcome disk = (.ok (), disk') ∨
      ∃ e between, (other e).outcome between = (.ok (), disk') := by
  simp only [Access.outcome, ExceptT.run_tryCatch, StateT.run_bind] at h ⊢
  cases hrun : (ExceptT.run access).run disk with
  | mk result between =>
    rw [hrun] at h
    cases result with
    | ok value => exact .inl h
    | error e => exact .inr ⟨e, between, h⟩

theorem run_of_apply (hslots : before.countP Job.isUnderWay + after.countP Job.isUnderWay < atOnce)
    (h : c.apply.outcome disk = (.ok (), disk')) :
    Relation.ReflTransGen (ApplyStep atOnce) ⟨before ++ ⟨c, .waiting⟩ :: after, disk, failures⟩
      ⟨before ++ ⟨c, .ended⟩ :: after, disk', failures⟩ := by
  have hbegin : ApplyStep atOnce ⟨before ++ ⟨c, .waiting⟩ :: after, disk, failures⟩
      ⟨before ++ ⟨c, .underWay 0⟩ :: after, disk, failures⟩ := by
    refine .begin ?_
    rw [List.countP_append, List.countP_cons_of_neg Bool.false_ne_true]
    exact hslots
  exact (Relation.ReflTransGen.single hbegin).trans (run_of_forM (List.nil_append c.accesses) h)

end

theorem isDone_map_ended (commands : List Command) (disk : Disk) (failures : List FileError) :
    Applying.IsDone ⟨[] ++ commands.map (⟨·, .ended⟩), disk, failures⟩ := by
  intro job hjob
  obtain ⟨c, -, rfl⟩ := List.mem_map.mp hjob
  rfl

/-- **Applying commands one after the other is a schedule**, whatever the commands are. -/
theorem run_of_applyCommands {atOnce slots : Nat} (hslots : 1 ≤ slots) {before : List Job}
    (hbefore : ∀ job ∈ before, job.isUnderWay = false) {others : List Command} {disk disk' : Disk}
    (h : (applyCommands atOnce others).outcome disk = (.ok (), disk')) :
    Relation.ReflTransGen (ApplyStep slots) ⟨before ++ others.map (⟨·, .waiting⟩), disk, []⟩
      ⟨before ++ others.map (⟨·, .ended⟩), disk', []⟩ := by
  induction others generalizing before disk with
  | nil =>
    cases h
    exact .refl
  | cons c others ih =>
    obtain ⟨_, between, happly, hrest⟩ := Access.outcome_bind_eq_ok h
    have happly : c.apply.outcome disk = (.ok (), between) := by
      rcases outcome_tryCatch_eq_ok happly with happly | ⟨e, failed, hfailed⟩
      · exact happly
      · -- What is done after a failure ends with that failure.
        obtain ⟨_, _, -, hthrow⟩ := Access.outcome_bind_eq_ok hfailed
        cases hthrow
    have hwaiting : (others.map (⟨·, .waiting⟩)).countP Job.isUnderWay = 0 := by
      simp [List.countP_eq_zero, Job.isUnderWay]
    have hnone : before.countP Job.isUnderWay = 0 := by
      simpa [List.countP_eq_zero] using hbefore
    have hslot : before.countP Job.isUnderWay +
        (others.map (⟨·, .waiting⟩)).countP Job.isUnderWay < slots := by
      rw [hnone, hwaiting]
      exact hslots
    have hfirst : Relation.ReflTransGen (ApplyStep slots)
        ⟨before ++ ⟨c, .waiting⟩ :: others.map (⟨·, .waiting⟩), disk, []⟩
        ⟨before ++ ⟨c, .ended⟩ :: others.map (⟨·, .waiting⟩), between, []⟩ :=
      run_of_apply hslot happly
    have hbefore' : ∀ job ∈ before ++ [⟨c, .ended⟩], job.isUnderWay = false := by
      simp only [List.mem_append, List.mem_singleton]
      rintro job (hjob | rfl)
      · exact hbefore job hjob
      · rfl
    have hothers := ih hbefore' hrest
    rw [List.append_assoc, List.append_assoc] at hothers
    exact hfirst.trans hothers

end TaskNotes
