/-
# Applying commands side by side

Commands are applied side by side: each waits for a slot, is under way while it makes its accesses
to the disk one after the other, and ends.  Between two accesses of one command, any accesses of
others can come.  `ApplyStep` is one step of this, and a schedule is a row of such steps.

If the disk is a tree of directories and files, and the commands are at different places, none
above another or in the place of a directory or below a file, then no schedule fails, none gets
stuck, and all end with the same disk (`apply_any_schedule`).  The reason is `Follows`: at every
moment the disk is told by how far each command is, since a command only changes its own place and
makes directories above it, and a directory that several need does not hinder any of them.

`Applied` says what the disk shows when everything has been done, and it determines that: there is
one answer for each location, so any two schedules end alike.  Between the start and the end the
same is said with the commands that have got so far in place of all (`Follows`).  Each access
succeeds because of what `Follows` says of its own place and of what lies above it; this is the
step lemma, and the run lemma is an induction on the steps.

What is not true on disks with links is that a path tells the place of its command.  There the
question is asked of the disk (`Proofs/KeptPlaces`), and no more than what is left at a clean end
is shown.
-/
import TaskNotes.Proofs.DiskAccess
import TaskNotes.Proofs.Lists
import TaskNotes.Run
import Mathlib.Logic.Relation

namespace TaskNotes

/-! ## 1. Commands and places

The condition is about the paths and the disk before the first step, so it can be checked in
advance. -/

/-- Where a command does something. -/
def Command.location (c : Command) : Location := c.path.names

/-- What a command leaves at its place. -/
def Command.target? : Command → Option Entry
  | .write w => some (.file (utf8 w.content.toList))
  | .delete _ => none

/-- Commands that do not stand in each other's way or in the way of a disk.  A path stands for the
location its names lead to, so none of them leads up. -/
structure Applicable (d : Disk) (commands : List Command) : Prop where
  usable : ∀ c ∈ commands, ∀ name ∈ c.location, Disk.IsUsable name
  nodup : (commands.map Command.location).Nodup
  free : ∀ b ∈ commands, ∀ c ∈ commands, b.location.isAbove c.location = false
  notDirectory : ∀ c ∈ commands, d.entryAt? c.location ≠ some .directory
  notBelowFile : ∀ c ∈ commands, ∀ above : Location, above.isAbove c.location = true →
    ∀ bytes, d.entryAt? above ≠ some (.file bytes)

theorem Applicable.not_isAbove {d : Disk} {commands : List Command} (h : Applicable d commands)
    {b c : Command} (hb : b ∈ commands) (hc : c ∈ commands) :
    ¬ b.location.isAbove c.location = true :=
  Bool.eq_false_iff.mp (h.free b hb c hc)

/-- A disk as it is after all commands have been applied: every written path holds its content in
directories, every deleted path is absent, and nothing else has changed. -/
structure Applied (d : Disk) (commands : List Command) (after : Disk) : Prop where
  written : ∀ w, .write w ∈ commands →
    after.entryAt? w.path.names = some (.file (utf8 w.content.toList))
  deleted : ∀ path, .delete path ∈ commands → after.entryAt? path.names = none
  directories : ∀ w, .write w ∈ commands → ∀ above : Location,
    above.isAbove w.path.names = true → after.entryAt? above = some .directory
  kept : ∀ location : Location, (∀ c ∈ commands, c.location ≠ location) →
    (∀ w, .write w ∈ commands → location.isAbove w.path.names = false) →
      after.entryAt? location = d.entryAt? location

/-! ## 2. Schedules

Which command makes its next access is left open: a step is a relation, and any command that waits
or is under way may take it.  An access that fails ends its command. -/

/-- How far a command is: it waits for a slot, it has one and has made so many of its accesses, or
it has ended. -/
inductive Stage
  | waiting
  | underWay (made : Nat)
  | ended
deriving DecidableEq, Repr

/-- A command, and how far it is. -/
structure Job where
  command : Command
  stage : Stage

namespace Job

/-- How many accesses have been made. -/
def progress (job : Job) : Nat :=
  match job.stage with
  | .waiting => 0
  | .underWay made => made
  | .ended => job.command.accesses.length

/-- Whether a slot is held. -/
def isUnderWay (job : Job) : Bool :=
  match job.stage with
  | .underWay _ => true
  | _ => false

/-- How many steps are left at most. -/
def work (job : Job) : Nat :=
  match job.stage with
  | .waiting => job.command.accesses.length + 2
  | .underWay made => job.command.accesses.length - made + 1
  | .ended => 0

/-- Whether the last access has been made. -/
def IsApplied (job : Job) : Prop := job.command.accesses.length ≤ job.progress

/-- Whether the directories above a file to be written have been made. -/
def HasDirectories (job : Job) : Prop := job.command.isDelete = false ∧ 1 ≤ job.progress

end Job

/-- How many steps jobs have left at most. -/
def workOf : List Job → Nat
  | [] => 0
  | job :: jobs => job.work + workOf jobs

theorem workOf_append (jobs others : List Job) :
    workOf (jobs ++ others) = workOf jobs + workOf others := by
  induction jobs with
  | nil => exact (Nat.zero_add _).symm
  | cons job jobs ih => rw [List.cons_append, workOf, workOf, ih, Nat.add_assoc]

/-- Commands while they are being applied: how far each one is, the disk, and what has failed. -/
structure Applying where
  jobs : List Job
  disk : Disk
  failures : List FileError

namespace Applying

/-- Before the first step. -/
def start (d : Disk) (commands : List Command) : Applying := ⟨commands.map (⟨·, .waiting⟩), d, []⟩

/-- How many slots are taken. -/
def inFlight (s : Applying) : Nat := s.jobs.countP Job.isUnderWay

/-- How many steps are left at most. -/
def work (s : Applying) : Nat := workOf s.jobs

/-- Whether all commands have ended. -/
def IsDone (s : Applying) : Prop := ∀ job ∈ s.jobs, job.stage = .ended

end Applying

/-- One step, with so many slots: a command takes a free slot, makes its next access, fails at it,
or ends when there is none. -/
inductive ApplyStep (atOnce : Nat) : Applying → Applying → Prop
  | begin {before after : List Job} {c : Command} {disk : Disk} {failures : List FileError}
      (hslot : (before ++ ⟨c, .waiting⟩ :: after).countP Job.isUnderWay < atOnce) :
      ApplyStep atOnce ⟨before ++ ⟨c, .waiting⟩ :: after, disk, failures⟩
        ⟨before ++ ⟨c, .underWay 0⟩ :: after, disk, failures⟩
  | access {before after : List Job} {c : Command} {made : Nat} {disk disk' : Disk}
      {failures : List FileError} {access : Access Unit}
      (haccess : c.accesses[made]? = some access) (h : access.outcome disk = (.ok (), disk')) :
      ApplyStep atOnce ⟨before ++ ⟨c, .underWay made⟩ :: after, disk, failures⟩
        ⟨before ++ ⟨c, .underWay (made + 1)⟩ :: after, disk', failures⟩
  | fail {before after : List Job} {c : Command} {made : Nat} {disk disk' : Disk}
      {failures : List FileError} {access : Access Unit} {error : FileError}
      (haccess : c.accesses[made]? = some access)
      (h : access.outcome disk = (.error error, disk')) :
      ApplyStep atOnce ⟨before ++ ⟨c, .underWay made⟩ :: after, disk, failures⟩
        ⟨before ++ ⟨c, .ended⟩ :: after, disk', failures ++ [error]⟩
  | finish {before after : List Job} {c : Command} {made : Nat} {disk : Disk}
      {failures : List FileError} (haccess : c.accesses[made]? = none) :
      ApplyStep atOnce ⟨before ++ ⟨c, .underWay made⟩ :: after, disk, failures⟩
        ⟨before ++ ⟨c, .ended⟩ :: after, disk, failures⟩

/-! ## 3. How the disk follows the jobs

A write has made its directories after its first access, and its file after the second; a delete
has one access.  `IsApplied` and `HasDirectories` count these, and the lemmas for the three
accesses say that the disk keeps up with the count. -/

/-- The disk in the middle of a schedule, told by how far each command is. -/
structure Follows (d : Disk) (commands : List Command) (s : Applying) : Prop where
  map_command : s.jobs.map Job.command = commands
  failures_eq : s.failures = []
  applied : ∀ job ∈ s.jobs, job.IsApplied →
    s.disk.entryAt? job.command.location = job.command.target?
  directories : ∀ job ∈ s.jobs, job.HasDirectories → ∀ above : Location,
    above.isAbove job.command.location = true → s.disk.entryAt? above = some .directory
  kept : ∀ location : Location, (∀ job ∈ s.jobs, job.IsApplied → job.command.location ≠ location) →
    (∀ job ∈ s.jobs, job.HasDirectories → location.isAbove job.command.location = false) →
      s.disk.entryAt? location = d.entryAt? location

/-- In the middle of a schedule there are directories and files. -/
theorem Follows.isPlain {d : Disk} {commands : List Command} {s : Applying}
    (h : Follows d commands s) (hplain : d.IsPlain) : s.disk.IsPlain := by
  intro location entry hentry
  by_cases hplace : ∃ job ∈ s.jobs, job.IsApplied ∧ job.command.location = location
  · obtain ⟨job, hjob, hdone, rfl⟩ := hplace
    have htarget := (h.applied job hjob hdone).symm.trans hentry
    cases hcommand : job.command with
    | write w =>
      rw [hcommand] at htarget
      cases htarget
      rfl
    | delete path =>
      rw [hcommand] at htarget
      cases htarget
  · by_cases habove : ∃ job ∈ s.jobs, job.HasDirectories ∧
        location.isAbove job.command.location = true
    · obtain ⟨job, hjob, hhas, habove⟩ := habove
      obtain rfl : _ = entry :=
        Option.some.inj ((h.directories job hjob hhas location habove).symm.trans hentry)
      rfl
    · rw [h.kept location (fun job hjob hdone heq => hplace ⟨job, hjob, hdone, heq⟩)
        fun job hjob hhas => Bool.eq_false_iff.mpr fun h => habove ⟨job, hjob, hhas, h⟩] at hentry
      exact hplain location entry hentry

theorem length_accesses_pos (c : Command) : 0 < c.accesses.length := by
  cases c <;> exact Nat.succ_pos _

theorem follows_start (d : Disk) (commands : List Command) :
    Follows d commands (.start d commands) := by
  have hprogress : ∀ job ∈ (Applying.start d commands).jobs, job.progress = 0 := by
    intro job hjob
    obtain ⟨c, -, rfl⟩ := List.mem_map.mp hjob
    rfl
  constructor
  case map_command =>
    rw [Applying.start, List.map_map]
    exact List.map_id' commands
  case failures_eq => rfl
  case applied =>
    intro job hjob happlied
    have := length_accesses_pos job.command
    rw [Job.IsApplied, hprogress job hjob] at happlied
    omega
  case directories =>
    intro job hjob hdirectories
    have := hdirectories.2
    rw [hprogress job hjob] at this
    omega
  case kept => exact fun _ _ _ => rfl

section

variable {d disk disk' : Disk} {commands : List Command} {before after : List Job}
  {c : Command} {stage stage' : Stage} {failures : List FileError} {made : Nat}

namespace Follows

variable (h : Follows d commands ⟨before ++ ⟨c, stage⟩ :: after, disk, failures⟩)

include h

theorem mem_commands {job : Job} (hjob : job ∈ before ++ ⟨c, stage⟩ :: after) :
    job.command ∈ commands := by
  rw [← h.map_command]
  exact List.mem_map_of_mem hjob

theorem command_mem : c ∈ commands :=
  h.mem_commands List.mem_append_cons_self

theorem map_command_update : (before ++ ⟨c, stage'⟩ :: after).map Job.command = commands := by
  rw [← h.map_command, List.map_append, List.map_append, List.map_cons, List.map_cons]

/-- Only one job is at a place. -/
theorem eq_of_location_eq (hnodup : (commands.map Command.location).Nodup) {job : Job}
    (hjob : job ∈ before ++ ⟨c, stage⟩ :: after) (hlocation : job.command.location = c.location) :
    job = ⟨c, stage⟩ := by
  rw [← h.map_command, List.map_map] at hnodup
  exact List.inj_on_of_nodup_map hnodup hjob List.mem_append_cons_self hlocation

/-- A step that makes no access leaves the disk to be told as before. -/
theorem restage (happlied : (⟨c, stage'⟩ : Job).IsApplied → (⟨c, stage⟩ : Job).IsApplied)
    (happlied' : (⟨c, stage⟩ : Job).IsApplied → (⟨c, stage'⟩ : Job).IsApplied)
    (hdirectories : (⟨c, stage'⟩ : Job).HasDirectories → (⟨c, stage⟩ : Job).HasDirectories)
    (hdirectories' : (⟨c, stage⟩ : Job).HasDirectories → (⟨c, stage'⟩ : Job).HasDirectories) :
    Follows d commands ⟨before ++ ⟨c, stage'⟩ :: after, disk, failures⟩ := by
  constructor
  case map_command => exact h.map_command_update
  case failures_eq => exact h.failures_eq
  case applied =>
    intro job hjob hdone
    rcases mem_update hjob with rfl | hjob
    · exact h.applied ⟨c, stage⟩ List.mem_append_cons_self (happlied hdone)
    · exact h.applied job hjob hdone
  case directories =>
    intro job hjob hhas
    rcases mem_update hjob with rfl | hjob
    · exact h.directories ⟨c, stage⟩ List.mem_append_cons_self (hdirectories hhas)
    · exact h.directories job hjob hhas
  case kept =>
    intro location hother hbelow
    refine h.kept location (fun job hjob hdone => ?_) fun job hjob hhas => ?_
    · rcases mem_update hjob with rfl | hjob
      · exact hother ⟨c, stage'⟩ List.mem_append_cons_self (happlied' hdone)
      · exact hother job hjob hdone
    · rcases mem_update hjob with rfl | hjob
      · exact hbelow ⟨c, stage'⟩ List.mem_append_cons_self (hdirectories' hhas)
      · exact hbelow job hjob hhas

/-- What lies above the place of a command is as it was, if it has not become a directory. -/
theorem eq_directory_or_eq (happlicable : Applicable d commands) {above : Location}
    (habove : above.isAbove c.location = true) :
    disk.entryAt? above = some .directory ∨ disk.entryAt? above = d.entryAt? above := by
  by_cases hhas : ∃ job ∈ before ++ ⟨c, stage⟩ :: after, job.HasDirectories ∧
      above.isAbove job.command.location = true
  · obtain ⟨job, hjob, hhas, hbelow⟩ := hhas
    exact .inl (h.directories job hjob hhas above hbelow)
  · refine .inr (h.kept above (fun job hjob _ hlocation => ?_) fun job hjob hjobHas => ?_)
    · exact happlicable.not_isAbove (h.mem_commands hjob) h.command_mem (hlocation ▸ habove)
    · exact Bool.eq_false_iff.mpr fun hbelow => hhas ⟨job, hjob, hjobHas, hbelow⟩

/-- Only directories lie above the place of a command. -/
theorem none_or_directory (hplain : d.IsPlain) (happlicable : Applicable d commands)
    {above : Location} (habove : above.isAbove c.location = true) :
    disk.entryAt? above = none ∨ disk.entryAt? above = some .directory := by
  rcases h.eq_directory_or_eq happlicable habove with hentry | hentry
  · exact .inr hentry
  · rw [hentry]
    exact hplain.none_or_directory (happlicable.notBelowFile c h.command_mem above habove)

/-- What is at the place of a command stays there until it is applied. -/
theorem entryAt?_eq (happlicable : Applicable d commands)
    (hnot : ¬ (⟨c, stage⟩ : Job).IsApplied) :
    disk.entryAt? c.location = d.entryAt? c.location := by
  refine h.kept c.location (fun job hjob hdone hlocation => ?_) fun job hjob _ => ?_
  · rw [h.eq_of_location_eq happlicable.nodup hjob hlocation] at hdone
    exact hnot hdone
  · exact happlicable.free c h.command_mem job.command (h.mem_commands hjob)

/-- **The last access of a command** puts in its place what the command leaves there. -/
theorem last (happlicable : Applicable d commands) (hnot : ¬ (⟨c, stage⟩ : Job).IsApplied)
    (hhas : (⟨c, stage'⟩ : Job).HasDirectories ↔ (⟨c, stage⟩ : Job).HasDirectories)
    (htarget : disk'.entryAt? c.location = c.target?)
    (hother : ∀ other, other ≠ c.location → disk'.entryAt? other = disk.entryAt? other)
    (hdone : (⟨c, stage'⟩ : Job).IsApplied) :
    Follows d commands ⟨before ++ ⟨c, stage'⟩ :: after, disk', failures⟩ := by
  have hdirectories (job : Job) (hjob : job ∈ before ++ ⟨c, stage⟩ :: after)
      (hhas : job.HasDirectories) (above : Location)
      (habove : above.isAbove job.command.location = true) :
      disk'.entryAt? above = some .directory := by
    rw [hother above, h.directories job hjob hhas above habove]
    rintro rfl
    exact happlicable.not_isAbove h.command_mem (h.mem_commands hjob) habove
  constructor
  case map_command => exact h.map_command_update
  case failures_eq => exact h.failures_eq
  case applied =>
    intro job hjob hjobDone
    rcases mem_update hjob with rfl | hjob
    · exact htarget
    · have hne : job.command.location ≠ c.location := by
        intro hlocation
        rw [h.eq_of_location_eq happlicable.nodup hjob hlocation] at hjobDone
        exact hnot hjobDone
      rw [hother _ hne]
      exact h.applied job hjob hjobDone
  case directories =>
    intro job hjob hjobHas
    rcases mem_update hjob with rfl | hjob
    · exact hdirectories ⟨c, stage⟩ List.mem_append_cons_self (hhas.mp hjobHas)
    · exact hdirectories job hjob hjobHas
  case kept =>
    intro location hplaces hbelow
    rw [hother location fun heq => hplaces _ List.mem_append_cons_self hdone heq.symm]
    refine h.kept location (fun job hjob hjobDone => ?_) fun job hjob hjobHas => ?_
    · rcases mem_update hjob with rfl | hjob
      · exact absurd hjobDone hnot
      · exact hplaces job hjob hjobDone
    · rcases mem_update hjob with rfl | hjob
      · exact hbelow ⟨c, stage'⟩ List.mem_append_cons_self (hhas.mpr hjobHas)
      · exact hbelow job hjob hjobHas

end Follows

/-- **Making directories**: they are there afterwards, and nothing else has changed. -/
theorem Follows.makeDirectories {w : Write} (hplain : d.IsPlain)
    (happlicable : Applicable d commands)
    (h : Follows d commands ⟨before ++ ⟨.write w, .underWay 0⟩ :: after, disk, failures⟩) :
    ∃ disk', (Disk.makeDirectories w.path.parent).outcome disk = (.ok (), disk') ∧
      Follows d commands ⟨before ++ ⟨.write w, .underWay 1⟩ :: after, disk', failures⟩ := by
  have hhas' : (⟨.write w, .underWay 1⟩ : Job).HasDirectories := ⟨rfl, Nat.le_refl 1⟩
  obtain ⟨disk', houtcome, hmade, hkept⟩ := Disk.outcome_makeDirectories
    (happlicable.usable _ h.command_mem)
    fun above habove => h.none_or_directory hplain happlicable habove
  refine ⟨disk', houtcome, ?_⟩
  constructor
  case map_command => exact h.map_command_update
  case failures_eq => exact h.failures_eq
  case applied =>
    intro job hjob hdone
    rcases mem_update hjob with rfl | hjob
    · exact absurd hdone (Nat.not_succ_le_self 1)
    · have hfree := happlicable.free job.command (h.mem_commands hjob) _ h.command_mem
      rw [hkept _ hfree]
      exact h.applied job hjob hdone
  case directories =>
    intro job hjob hhas above habove
    rcases mem_update hjob with rfl | hjob
    · exact hmade above habove
    · cases hon : above.isAbove w.path.names with
      | true => exact hmade above hon
      | false =>
        rw [hkept above hon]
        exact h.directories job hjob hhas above habove
  case kept =>
    intro location hplaces hbelow
    rw [hkept location (hbelow _ List.mem_append_cons_self hhas')]
    refine h.kept location (fun job hjob hdone => ?_) fun job hjob hhas => ?_
    · rcases mem_update hjob with rfl | hjob
      · exact absurd hdone (Nat.not_succ_le_zero 1)
      · exact hplaces job hjob hdone
    · rcases mem_update hjob with rfl | hjob
      · exact absurd hhas.2 (Nat.not_succ_le_zero 0)
      · exact hbelow job hjob hhas

/-- **Writing a file**, once its directories have been made. -/
theorem Follows.putFile {w : Write} (hplain : d.IsPlain) (happlicable : Applicable d commands)
    (h : Follows d commands ⟨before ++ ⟨.write w, .underWay 1⟩ :: after, disk, failures⟩) :
    ∃ disk', (Disk.putFile w.path (utf8 w.content.toList)).outcome disk = (.ok (), disk') ∧
      Follows d commands ⟨before ++ ⟨.write w, .underWay 2⟩ :: after, disk', failures⟩ := by
  have hnot : ¬ (⟨.write w, .underWay 1⟩ : Job).IsApplied := Nat.not_succ_le_self 1
  have hkept : disk.entryAt? w.path.names = d.entryAt? w.path.names :=
    h.entryAt?_eq happlicable hnot
  have hdirectory : d.entryAt? w.path.names ≠ some .directory :=
    happlicable.notDirectory _ h.command_mem
  have hne : w.path.names ≠ [] := Disk.ne_nil_of_entryAt?_ne hdirectory
  have hentry := hplain.none_or_file hdirectory
  rw [← hkept] at hentry
  have houtcome := Disk.outcome_putFile (happlicable.usable _ h.command_mem) (utf8 w.content.toList)
    (h.directories _ List.mem_append_cons_self ⟨rfl, Nat.le_refl 1⟩) hentry
  refine ⟨_, houtcome, h.last happlicable hnot ?_ ?_ ?_ (Nat.le_refl 2)⟩
  · exact ⟨fun _ => ⟨rfl, Nat.le_refl 1⟩, fun _ => ⟨rfl, Nat.le_succ 1⟩⟩
  · exact (Disk.entryAt?_put hne).trans (if_pos rfl)
  · exact fun other hother => (Disk.entryAt?_put hne).trans (if_neg hother)

/-- **Deleting a file**, whether it is there or not. -/
theorem Follows.deleteFile {path : Path} (htree : d.IsTree) (happlicable : Applicable d commands)
    (h : Follows d commands ⟨before ++ ⟨.delete path, .underWay 0⟩ :: after, disk, failures⟩) :
    ∃ disk', (discard (Disk.deleteFile path) : Access Unit).outcome disk = (.ok (), disk') ∧
      Follows d commands ⟨before ++ ⟨.delete path, .underWay 1⟩ :: after, disk', failures⟩ := by
  have hnot : ¬ (⟨.delete path, .underWay 0⟩ : Job).IsApplied := Nat.not_succ_le_zero 0
  have hkept : disk.entryAt? path.names = d.entryAt? path.names := h.entryAt?_eq happlicable hnot
  have husable : ∀ name ∈ path.names, Disk.IsUsable name := happlicable.usable _ h.command_mem
  have hhas : (⟨.delete path, .underWay 1⟩ : Job).HasDirectories ↔
      (⟨.delete path, .underWay 0⟩ : Job).HasDirectories :=
    ⟨fun hhas => absurd hhas.1.symm Bool.false_ne_true,
      fun hhas => absurd hhas.1.symm Bool.false_ne_true⟩
  rcases htree.plain.none_or_file (happlicable.notDirectory _ h.command_mem) with
    hentry | ⟨bytes, hentry⟩
  · have houtcome := Disk.outcome_deleteFile_of_none husable
      (fun above habove => h.none_or_directory htree.plain happlicable habove) (hkept.trans hentry)
    exact ⟨disk, Access.outcome_bind houtcome, h.last happlicable hnot hhas (hkept.trans hentry)
      (fun _ _ => rfl) (Nat.le_refl 1)⟩
  · have hne : path.names ≠ [] :=
      Disk.ne_nil_of_entryAt?_ne (happlicable.notDirectory _ h.command_mem)
    -- What was a directory above the file still is one, since no command is applied there.
    have hdirectories (above : Location) (habove : above.isAbove path.names = true) :
        disk.entryAt? above = some .directory :=
      (h.eq_directory_or_eq happlicable habove).elim id fun heq =>
        heq.trans (htree.directories _ _ hentry above habove)
    have houtcome := Disk.outcome_deleteFile_of_file husable hdirectories (hkept.trans hentry)
    exact ⟨_, Access.outcome_bind houtcome, h.last happlicable hnot hhas
      ((Disk.entryAt?_erase hne).trans (if_pos rfl))
      (fun other hother => (Disk.entryAt?_erase hne).trans (if_neg hother)) (Nat.le_refl 1)⟩

/-- **The next access of a command succeeds**, and the disk goes on following the jobs. -/
theorem Follows.access {access : Access Unit} (htree : d.IsTree)
    (happlicable : Applicable d commands) (haccess : c.accesses[made]? = some access)
    (h : Follows d commands ⟨before ++ ⟨c, .underWay made⟩ :: after, disk, failures⟩) :
    ∃ disk', access.outcome disk = (.ok (), disk') ∧
      Follows d commands ⟨before ++ ⟨c, .underWay (made + 1)⟩ :: after, disk', failures⟩ := by
  cases c with
  | write w =>
    rcases made with - | - | made
    · cases haccess
      exact h.makeDirectories htree.plain happlicable
    · cases haccess
      exact h.putFile htree.plain happlicable
    · cases haccess
  | delete path =>
    rcases made with - | made
    · cases haccess
      exact h.deleteFile htree happlicable
    · cases haccess

theorem Follows.begin
    (h : Follows d commands ⟨before ++ ⟨c, .waiting⟩ :: after, disk, failures⟩) :
    Follows d commands ⟨before ++ ⟨c, .underWay 0⟩ :: after, disk, failures⟩ :=
  h.restage id id id id

theorem Follows.finish (haccess : c.accesses[made]? = none)
    (h : Follows d commands ⟨before ++ ⟨c, .underWay made⟩ :: after, disk, failures⟩) :
    Follows d commands ⟨before ++ ⟨c, .ended⟩ :: after, disk, failures⟩ := by
  have hmade : c.accesses.length ≤ made := List.getElem?_eq_none_iff.mp haccess
  have hpos := length_accesses_pos c
  exact h.restage (fun _ => hmade) (fun _ => Nat.le_refl _)
    (fun hhas => ⟨hhas.1, Nat.lt_of_lt_of_le hpos hmade⟩) fun hhas => ⟨hhas.1, hpos⟩

end

/-! ## 4. Steps and runs

Besides the disk, a step keeps the number of slots that are taken within bounds and makes the work
that is left smaller. -/

section

variable {d : Disk} {commands : List Command} {atOnce : Nat} {s next : Applying}

/-- **Every step keeps the disk following the jobs**, and none of them fails. -/
theorem Follows.step (htree : d.IsTree) (happlicable : Applicable d commands)
    (h : Follows d commands s) (hstep : ApplyStep atOnce s next) : Follows d commands next := by
  cases hstep with
  | begin _ => exact h.begin
  | access haccess houtcome =>
    obtain ⟨disk', houtcome', hnext⟩ := h.access htree happlicable haccess
    rw [houtcome] at houtcome'
    obtain rfl := (Prod.mk.inj houtcome').2
    exact hnext
  | fail haccess houtcome =>
    obtain ⟨disk', houtcome', -⟩ := h.access htree happlicable haccess
    rw [houtcome] at houtcome'
    cases houtcome'
  | finish haccess => exact h.finish haccess

theorem Follows.run (htree : d.IsTree) (happlicable : Applicable d commands)
    (hrun : Relation.ReflTransGen (ApplyStep atOnce) (.start d commands) s) :
    Follows d commands s := by
  induction hrun with
  | refl => exact follows_start d commands
  | tail _ hstep ih => exact ih.step htree happlicable hstep

theorem inFlight_le_of_step (h : s.inFlight ≤ atOnce) (hstep : ApplyStep atOnce s next) :
    next.inFlight ≤ atOnce := by
  cases hstep with
  | begin hslot =>
    rw [List.countP_append, List.countP_cons] at hslot
    rw [Applying.inFlight, List.countP_append, List.countP_cons]
    simp only [Job.isUnderWay, Bool.false_eq_true, if_false, if_true] at hslot ⊢
    omega
  | access haccess houtcome =>
    rw [Applying.inFlight, List.countP_append, List.countP_cons] at h ⊢
    exact h
  | fail haccess houtcome =>
    rw [Applying.inFlight, List.countP_append, List.countP_cons] at h ⊢
    simp only [Job.isUnderWay, Bool.false_eq_true, if_false, if_true] at h ⊢
    omega
  | finish haccess =>
    rw [Applying.inFlight, List.countP_append, List.countP_cons] at h ⊢
    simp only [Job.isUnderWay, Bool.false_eq_true, if_false, if_true] at h ⊢
    omega

theorem inFlight_start (d : Disk) (commands : List Command) :
    (Applying.start d commands).inFlight = 0 := by
  refine List.countP_eq_zero.mpr fun job hjob => ?_
  obtain ⟨c, -, rfl⟩ := List.mem_map.mp hjob
  exact Bool.false_ne_true

theorem inFlight_le_of_run
    (hrun : Relation.ReflTransGen (ApplyStep atOnce) (.start d commands) s) :
    s.inFlight ≤ atOnce := by
  induction hrun with
  | refl => rw [inFlight_start]; exact Nat.zero_le _
  | tail _ hstep ih => exact inFlight_le_of_step ih hstep

/-- **Every step leaves less to do.** -/
theorem work_lt_of_step (hstep : ApplyStep atOnce s next) : next.work < s.work := by
  have hlt {before after : List Job} {old new : Job} (h : new.work < old.work) :
      workOf (before ++ new :: after) < workOf (before ++ old :: after) := by
    rw [workOf_append, workOf_append, workOf, workOf]
    omega
  cases hstep with
  | begin _ => exact hlt (by simp [Job.work])
  | access haccess _ =>
    have := (List.getElem?_eq_some_iff.mp haccess).1
    exact hlt (by simp only [Job.work]; omega)
  | fail _ _ => exact hlt (Nat.succ_pos _)
  | finish _ => exact hlt (Nat.succ_pos _)

/-- **No schedule gets stuck** before all commands have ended, if there is a slot. -/
theorem exists_step (hslots : 1 ≤ atOnce) (hnot : ¬ s.IsDone) :
    ∃ next, ApplyStep atOnce s next := by
  obtain ⟨jobs, disk, failures⟩ := s
  by_cases hunderWay : ∃ job ∈ jobs, job.isUnderWay = true
  · obtain ⟨⟨c, stage⟩, hjob, hunderWay⟩ := hunderWay
    obtain ⟨before, after, rfl⟩ := List.append_of_mem hjob
    cases stage with
    | waiting => cases hunderWay
    | ended => cases hunderWay
    | underWay made =>
      cases haccess : c.accesses[made]? with
      | none => exact ⟨_, .finish haccess⟩
      | some access =>
        cases houtcome : access.outcome disk with
        | mk outcome disk' =>
          cases outcome with
          | ok value => exact ⟨_, .access haccess houtcome⟩
          | error error => exact ⟨_, .fail haccess houtcome⟩
  · have hnone : ∀ job ∈ jobs, ¬ job.isUnderWay = true :=
      fun job hjob h => hunderWay ⟨job, hjob, h⟩
    rw [Applying.IsDone] at hnot
    push Not at hnot
    obtain ⟨⟨c, stage⟩, hjob, hstage⟩ := hnot
    have hslot : jobs.countP Job.isUnderWay < atOnce := by
      rw [List.countP_eq_zero.mpr hnone]
      exact hslots
    obtain ⟨before, after, rfl⟩ := List.append_of_mem hjob
    cases stage with
    | waiting => exact ⟨_, .begin hslot⟩
    | ended => exact absurd rfl hstage
    | underWay made => exact absurd rfl (hnone _ hjob)

/-- When all commands have ended, they have been applied. -/
theorem Follows.isApplied (h : Follows d commands s) (hdone : s.IsDone) :
    Applied d commands s.disk := by
  have hjob : ∀ c ∈ commands, (⟨c, .ended⟩ : Job) ∈ s.jobs := by
    intro c hc
    rw [← h.map_command] at hc
    obtain ⟨⟨c, stage⟩, hjob, rfl⟩ := List.mem_map.mp hc
    obtain rfl : stage = .ended := hdone _ hjob
    exact hjob
  constructor
  case written => exact fun w hw => h.applied _ (hjob _ hw) (Nat.le_refl _)
  case deleted => exact fun path hpath => h.applied _ (hjob _ hpath) (Nat.le_refl _)
  case directories =>
    exact fun w hw => h.directories _ (hjob _ hw) ⟨rfl, Nat.le_succ 1⟩
  case kept =>
    intro location hplaces hbelow
    refine h.kept location (fun job hjob _ => ?_) fun job hjob hhas => ?_
    · exact hplaces _ (by rw [← h.map_command]; exact List.mem_map_of_mem hjob)
    · have hmem : job.command ∈ commands := by
        rw [← h.map_command]
        exact List.mem_map_of_mem hjob
      cases hcommand : job.command with
      | write w => exact hbelow w (hcommand ▸ hmem)
      | delete path =>
        have hdelete := hhas.1
        rw [hcommand] at hdelete
        cases hdelete

end

/-! ## 5. One after the other

The program that applies commands in turn is one of the schedules, in which each command has all
its steps at once. -/

theorem Access.outcome_tryCatch {α : Type} {access : Access α} {other : FileError → Access α}
    {value : α} {d after : Disk} (h : access.outcome d = (.ok value, after)) :
    (tryCatch access other).outcome d = (.ok value, after) := by
  simp only [Access.outcome, ExceptT.run_tryCatch, StateT.run_bind] at h ⊢
  rw [h]
  rfl

section

variable {d disk : Disk} {commands : List Command} {before after : List Job} {c : Command}
  {failures : List FileError}

/-- A command that is applied in one go succeeds. -/
theorem Follows.apply (htree : d.IsTree) (happlicable : Applicable d commands)
    (h : Follows d commands ⟨before ++ ⟨c, .waiting⟩ :: after, disk, failures⟩) :
    ∃ disk', c.apply.outcome disk = (.ok (), disk') ∧
      Follows d commands ⟨before ++ ⟨c, .ended⟩ :: after, disk', failures⟩ := by
  have hbegin := h.begin
  cases c with
  | write w =>
    obtain ⟨made, hmade, hfirst⟩ := hbegin.makeDirectories htree.plain happlicable
    obtain ⟨disk', hput, hsecond⟩ := hfirst.putFile htree.plain happlicable
    exact ⟨disk', (Access.outcome_bind hmade).trans (Access.outcome_bind hput), hsecond.finish rfl⟩
  | delete path =>
    obtain ⟨disk', hdelete, hfirst⟩ := hbegin.deleteFile htree happlicable
    exact ⟨disk', Access.outcome_bind hdelete, hfirst.finish rfl⟩

/-- Commands that are applied one after the other follow one of the schedules. -/
theorem Follows.applyCommands (htree : d.IsTree) (happlicable : Applicable d commands)
    (atOnce : Nat) (others : List Command)
    (h : Follows d commands ⟨before ++ others.map (⟨·, .waiting⟩), disk, failures⟩) :
    ∃ disk', (TaskNotes.applyCommands atOnce others).outcome disk = (.ok (), disk') ∧
      Follows d commands ⟨before ++ others.map (⟨·, .ended⟩), disk', failures⟩ := by
  induction others generalizing before disk with
  | nil => exact ⟨disk, rfl, h⟩
  | cons c others ih =>
    obtain ⟨disk', houtcome, hnext⟩ := h.apply htree happlicable
    rw [List.append_cons] at hnext
    obtain ⟨final, hothers, hfinal⟩ := ih hnext
    rw [← List.append_cons] at hfinal
    exact ⟨final, (Access.outcome_bind (Access.outcome_tryCatch houtcome)).trans hothers, hfinal⟩

end

/-- Disks to which the same commands have been applied show the same. -/
theorem Applied.entryAt?_eq {d after other : Disk} {commands : List Command}
    (h : Applied d commands after) (hother : Applied d commands other) (location : Location) :
    after.entryAt? location = other.entryAt? location := by
  by_cases hplace : ∃ c ∈ commands, c.location = location
  · obtain ⟨c, hc, rfl⟩ := hplace
    cases c with
    | write w => exact (h.written w hc).trans (hother.written w hc).symm
    | delete path => exact (h.deleted path hc).trans (hother.deleted path hc).symm
  · by_cases habove : ∃ w, .write w ∈ commands ∧ location.isAbove w.path.names = true
    · obtain ⟨w, hw, habove⟩ := habove
      exact (h.directories w hw _ habove).trans (hother.directories w hw _ habove).symm
    · have hplaces : ∀ c ∈ commands, c.location ≠ location :=
        fun c hc hlocation => hplace ⟨c, hc, hlocation⟩
      have hbelow : ∀ w, .write w ∈ commands → location.isAbove w.path.names = false :=
        fun w hw => Bool.eq_false_iff.mpr fun h => habove ⟨w, hw, h⟩
      exact (h.kept _ hplaces hbelow).trans (hother.kept _ hplaces hbelow).symm

/-- Commands leave a disk plain. -/
theorem Applied.isPlain {d after : Disk} {commands : List Command}
    (h : Applied d commands after) (hplain : d.IsPlain) : after.IsPlain := by
  intro location entry hentry
  by_cases hplace : ∃ c ∈ commands, c.location = location
  · obtain ⟨c, hc, rfl⟩ := hplace
    cases c with
    | write w =>
      obtain rfl : _ = entry := Option.some.inj ((h.written w hc).symm.trans hentry)
      rfl
    | delete path =>
      have hnone := (h.deleted path hc).symm.trans hentry
      cases hnone
  · by_cases habove : ∃ w, .write w ∈ commands ∧ location.isAbove w.path.names = true
    · obtain ⟨w, hw, habove⟩ := habove
      obtain rfl : _ = entry := Option.some.inj ((h.directories w hw _ habove).symm.trans hentry)
      rfl
    · rw [h.kept location (fun c hc hlocation => hplace ⟨c, hc, hlocation⟩)
        fun w hw => Bool.eq_false_iff.mpr fun h => habove ⟨w, hw, h⟩] at hentry
      exact hplain location entry hentry

/-- Files that no command is about stay as they are, and no others are added. -/
theorem Applied.entryAt?_eq_file_iff {d after : Disk} {commands : List Command}
    (h : Applied d commands after) (happlicable : Applicable d commands) {location : Location}
    (hplaces : ∀ c ∈ commands, c.location ≠ location) (bytes : Bytes) :
    after.entryAt? location = some (.file bytes) ↔ d.entryAt? location = some (.file bytes) := by
  by_cases habove : ∃ w, .write w ∈ commands ∧ location.isAbove w.path.names = true
  · obtain ⟨w, hw, habove⟩ := habove
    refine iff_of_false ?_ (happlicable.notBelowFile _ hw location habove bytes)
    rw [h.directories w hw location habove]
    exact fun h => by cases h
  · rw [h.kept location hplaces fun w hw => Bool.eq_false_iff.mpr fun h => habove ⟨w, hw, h⟩]

/-! ## 6. Any schedule -/

/-- **Applying commands does not depend on the schedule.**  On a disk that is a tree of directories
and files, let commands be at different places, of which none is above another, holds a directory,
lies below a file or has a name that is too long.  With at least one slot, nothing fails in any
schedule, no more commands are under way than there are slots, there is a next step until all have
ended, and every step leaves less to do.  When all have ended they have been applied, all other
files are as before, and the disk shows the same as after the commands have been applied one after
the other. -/
theorem apply_any_schedule {d : Disk} {commands : List Command} {atOnce : Nat} (htree : d.IsTree)
    (happlicable : Applicable d commands) (hslots : 1 ≤ atOnce) :
    (∀ s, Relation.ReflTransGen (ApplyStep atOnce) (.start d commands) s →
      s.failures = [] ∧ s.inFlight ≤ atOnce ∧ (s.IsDone ∨ ∃ next, ApplyStep atOnce s next) ∧
        (s.IsDone → Applied d commands s.disk ∧
          ∀ location bytes, (∀ c ∈ commands, c.location ≠ location) →
            (s.disk.entryAt? location = some (.file bytes) ↔
              d.entryAt? location = some (.file bytes)))) ∧
      (∀ s next, ApplyStep atOnce s next → next.work < s.work) ∧
      ∃ after, (applyCommands atOnce commands).outcome d = (.ok (), after) ∧
        Applied d commands after ∧
        ∀ s, Relation.ReflTransGen (ApplyStep atOnce) (.start d commands) s → s.IsDone →
          ∀ location, s.disk.entryAt? location = after.entryAt? location := by
  have hstart : Follows d commands ⟨[] ++ commands.map (⟨·, .waiting⟩), d, []⟩ :=
    follows_start d commands
  obtain ⟨after, houtcome, hfollows⟩ :=
    Follows.applyCommands htree happlicable atOnce commands hstart
  have hdone : Applying.IsDone ⟨[] ++ commands.map (⟨·, .ended⟩), after, []⟩ := by
    intro job hjob
    obtain ⟨c, -, rfl⟩ := List.mem_map.mp hjob
    rfl
  have happlied : Applied d commands after := hfollows.isApplied hdone
  refine ⟨fun s hrun => ?_, fun _ _ => work_lt_of_step, after, houtcome, happlied,
    fun s hrun hsDone => ?_⟩
  · have hs : Follows d commands s := .run htree happlicable hrun
    refine ⟨hs.failures_eq, inFlight_le_of_run hrun, ?_, fun hsDone => ?_⟩
    · by_cases hsDone : s.IsDone
      · exact .inl hsDone
      · exact .inr (exists_step hslots hsDone)
    · exact ⟨hs.isApplied hsDone, fun location bytes hplaces =>
        (hs.isApplied hsDone).entryAt?_eq_file_iff happlicable hplaces bytes⟩
  · exact ((Follows.run htree happlicable hrun).isApplied hsDone).entryAt?_eq happlied

/-- A disk with two files. -/
def twoFiles : Disk where
  entries := [([['n'], ['a']], .file []), ([['n']], .directory), ([['n'], ['s'], ['b']], .file []),
    ([['n'], ['s']], .directory)]

/-- Commands that need the same directories, delete what is there and what is not, and write over a
file. -/
def busyCommands : List Command :=
  [.write (.ofText (.ofString "/n/t/u/c") "x"), .delete (.ofString "/n/s/b"),
    .write (.ofText (.ofString "/n/t/d") "y"), .delete (.ofString "/n/t/u/e/f"),
    .write (.ofText (.ofString "/n/a") "z")]

theorem isTree_twoFiles : twoFiles.IsTree := Disk.isTree_of_forall_mem (by decide +kernel)

theorem applicable_busyCommands : Applicable twoFiles busyCommands where
  usable := by decide +kernel
  nodup := by decide +kernel
  free := by decide +kernel
  notDirectory := by decide +kernel
  notBelowFile := by
    have hdirectories : ∀ c ∈ busyCommands, ∀ n < c.location.length,
        twoFiles.entryAt? (c.location.take n) = none ∨
          twoFiles.entryAt? (c.location.take n) = some .directory := by
      decide +kernel
    intro c hc above habove bytes hentry
    obtain ⟨n, hn, rfl⟩ := Location.isAbove_iff_take.mp habove
    rcases hdirectories c hc n hn with h | h <;> rw [hentry] at h <;> cases h

/-- Two slots are enough for them, and one. -/
theorem apply_any_schedule_busyCommands :
    twoFiles.IsTree ∧ Applicable twoFiles busyCommands ∧
      (∀ s, Relation.ReflTransGen (ApplyStep 2) (.start twoFiles busyCommands) s →
        s.failures = [] ∧ s.inFlight ≤ 2) ∧
      ∃ after, (applyCommands 1 busyCommands).outcome twoFiles = (.ok (), after) ∧
        after.entryAt? [['n'], ['a']] = some (.file (utf8 ['z'])) ∧
        after.entryAt? [['n'], ['s'], ['b']] = none := by
  obtain ⟨hany, -, -⟩ := apply_any_schedule isTree_twoFiles applicable_busyCommands
    (by decide : 1 ≤ 2)
  obtain ⟨-, -, after, houtcome, happlied, -⟩ :=
    apply_any_schedule isTree_twoFiles applicable_busyCommands (Nat.le_refl 1)
  refine ⟨isTree_twoFiles, applicable_busyCommands,
    fun s hrun => ⟨(hany s hrun).1, (hany s hrun).2.1⟩, after, houtcome, ?_, ?_⟩
  · exact happlied.written (.ofText (.ofString "/n/a") "z") (by decide +kernel)
  · exact happlied.deleted (.ofString "/n/s/b") (by decide +kernel)

end TaskNotes
