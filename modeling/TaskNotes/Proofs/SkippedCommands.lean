/-
# Leaving out commands that change nothing

Before commands are applied, those that would change nothing are left out: writes of the text that a
file already shows, and deletions of what is not there (`changingCommands`).  A file that shows the
text need not hold it, since its lines can end otherwise, so the disks that come out of applying all
commands and only the rest can differ.  But they look alike.

Let the disk be a tree of directories and files, and let commands be at different places, none
above another.  If all of them can be applied, in whatever schedule, then the rest can be applied
in every schedule, and for every path the disk afterwards gives the same answers as after all of
them (`applying_changingCommands`).

A write that is left out still takes part in the proof.  A deletion that is left out does not: it
does nothing to the disk, but other commands can make directories on the way to its place, and then
its names can turn out to be too long.

What is left out is decided once, before anything is applied, and by reading: `Command.changes`
looks where a path leads and compares.  So what it has found is known of the disk at the start
(section 2), and is carried to the end by what applying commands leaves as it is (`Applied`).

That commands have been applied without a failure says something about the disk at the start as
well: nothing was in their way (`applicable_active`).  This is how the rest come to be applicable
without a hypothesis of their own.
-/
import TaskNotes.Proofs.CleanSchedules
import TaskNotes.Proofs.Success
import Mathlib.Data.List.Basic

namespace TaskNotes

/-! ## 1. What changes something

Looking can fail, and then nothing is left out, since no list of commands is made at all.  Both
directions are needed: what is known of each command when the list is there, and that it is there
when something is known of each command. -/

/-- Commands at different places, none above another.  A path stands for the location its names lead
to, so none of them leads up. -/
structure Separate (commands : List Command) : Prop where
  direct : ∀ c ∈ commands, parentName ∉ c.location
  nodup : (commands.map Command.location).Nodup
  free : ∀ b ∈ commands, ∀ c ∈ commands, b.location.isAbove c.location = false

theorem Separate.eq_of_location_eq {commands : List Command} (h : Separate commands)
    {b c : Command} (hb : b ∈ commands) (hc : c ∈ commands) (hlocation : b.location = c.location) :
    b = c :=
  List.inj_on_of_nodup_map h.nodup hb hc hlocation

/-- Whether a command changes the disk, as far as this can be told. -/
def Command.isKept (d : Disk) (c : Command) : Bool :=
  match c.changes d with
  | .ok changes => changes
  | .error _ => false

/-- Whether a command has something to do: a write always has, a deletion if there is something to
delete. -/
def Command.isActive (d : Disk) (c : Command) : Bool := !c.isDelete || c.isKept d

theorem Command.isActive_of_isKept {d : Disk} {c : Command} (h : c.isKept d = true) :
    c.isActive d = true := by
  simp [isActive, h]

theorem filterAuxM_eq_ok {d : Disk} {commands found kept : List Command}
    (h : List.filterAuxM (Command.changes d) commands found = .ok kept) :
    (∀ c ∈ commands, c.changes d = .ok (c.isKept d)) ∧
      kept = (commands.filter (Command.isKept d)).reverse ++ found := by
  induction commands generalizing found with
  | nil =>
    cases h
    simp
  | cons c commands ih =>
    cases hc : c.changes d with
    | error e =>
      rw [List.filterAuxM, hc] at h
      cases h
    | ok changes =>
      rw [List.filterAuxM, hc] at h
      obtain ⟨hchanges, rfl⟩ := ih h
      have hkept : c.isKept d = changes := by rw [Command.isKept, hc]
      refine ⟨?_, ?_⟩
      · rintro b (_ | ⟨_, hb⟩)
        · rw [hc, hkept]
        · exact hchanges b hb
      · cases changes with
        | false => simp [hkept]
        | true => simp [hkept]

/-- **What is kept**, when it can be told of every command whether it changes something. -/
theorem eq_filter_of_changingCommands {d : Disk} {commands kept : List Command}
    (h : changingCommands d commands = .ok kept) :
    (∀ c ∈ commands, c.changes d = .ok (c.isKept d)) ∧
      kept = commands.filter (Command.isKept d) := by
  rw [changingCommands, List.filterM] at h
  cases haux : List.filterAuxM (Command.changes d) commands [] with
  | error e =>
    rw [haux] at h
    cases h
  | ok found =>
    rw [haux] at h
    cases h
    obtain ⟨hchanges, rfl⟩ := filterAuxM_eq_ok haux
    exact ⟨hchanges, by simp⟩

theorem exists_filterAuxM_eq_ok {d : Disk} {commands : List Command}
    (h : ∀ c ∈ commands, ∃ changes, c.changes d = .ok changes) (found : List Command) :
    ∃ kept, List.filterAuxM (Command.changes d) commands found = .ok kept := by
  induction commands generalizing found with
  | nil => exact ⟨found, rfl⟩
  | cons c commands ih =>
    obtain ⟨changes, hc⟩ := h c List.mem_cons_self
    rw [List.filterAuxM, hc]
    exact ih (fun b hb => h b (List.mem_cons_of_mem _ hb)) _

/-- It can be told what is kept when it can be told of every command. -/
theorem exists_changingCommands_eq_ok {d : Disk} {commands : List Command}
    (h : ∀ c ∈ commands, ∃ changes, c.changes d = .ok changes) :
    ∃ kept, changingCommands d commands = .ok kept := by
  obtain ⟨kept, hkept⟩ := exists_filterAuxM_eq_ok h []
  refine ⟨kept.reverse, ?_⟩
  rw [changingCommands, List.filterM, hkept]
  rfl

/-! ## 2. What looking has found

A text is read through line ends of all sorts, so a file that shows a text is not told by its
bytes. -/

namespace Disk

variable {d : Disk} {path : Path}

/-- A text that is read is that of a file which shows it. -/
theorem find_of_readText?_some {text : List Char} (h : d.readText? path = .ok (some text)) :
    ∃ entry bytes, d.find path = .ok entry ∧ d.bytesOf? entry = some bytes ∧
      shownText bytes = .ok text ∧ uniformLines text = text := by
  rw [readText?, readText] at h
  cases hfind : d.find path with
  | error e => cases e <;> simp [hfind] at h
  | ok entry =>
    cases hread : entry.allows .read with
    | false => simp [hfind, hread] at h
    | true =>
      cases hbytes : d.bytesOf? entry with
      | none => simp [hfind, hread, hbytes] at h
      | some bytes =>
        cases hdecode : decodeUtf8 bytes with
        | error e => simp [hfind, hread, hbytes, hdecode] at h
        | ok cs =>
          simp [hfind, hread, hbytes, hdecode] at h
          refine ⟨entry, bytes, rfl, hbytes, ?_, ?_⟩
          · simp [shownText, hdecode, Except.map, h]
          · rw [← h, uniformLines_uniformLines]

/-- That there is no text is told where nothing is. -/
theorem find_of_readText?_none (h : d.readText? path = .ok none) :
    d.find path = .error .notFound := by
  rw [readText?, readText] at h
  cases hfind : d.find path with
  | error e => cases e <;> simp [hfind] at h ⊢
  | ok entry =>
    cases hread : entry.allows .read with
    | false => simp [hfind, hread] at h
    | true =>
      cases hbytes : d.bytesOf? entry with
      | none => simp [hfind, hread, hbytes] at h
      | some bytes => cases hdecode : decodeUtf8 bytes <;> simp [hfind, hread, hbytes, hdecode] at h

theorem find_of_exists?_true (h : d.exists? path = .ok true) :
    ∃ entry, d.find path = .ok entry := by
  rw [exists?] at h
  cases hfind : d.find path with
  | error e => cases e <;> simp [hfind] at h
  | ok entry => exact ⟨entry, rfl⟩

theorem find_of_exists?_false (h : d.exists? path = .ok false) :
    d.find path = .error .notFound := by
  rw [exists?] at h
  cases hfind : d.find path with
  | error e => cases e <;> simp [hfind] at h ⊢
  | ok entry => simp [hfind] at h

end Disk

section

variable {d : Disk} {c : Command} {w : Write} {path : Path} {changes : Bool}

/-- What has been found at the place of a write is a file or nothing. -/
theorem Command.find_of_changes_write (h : (Command.write w).changes d = .ok changes) :
    d.find w.path = .error .notFound ∨
      ∃ entry bytes, d.find w.path = .ok entry ∧ d.bytesOf? entry = some bytes := by
  obtain ⟨text?, hread, -⟩ := map_eq_ok_iff.mp h
  cases text? with
  | none => exact .inl (Disk.find_of_readText?_none hread)
  | some text =>
    obtain ⟨entry, bytes, hfind, hbytes, -⟩ := Disk.find_of_readText?_some hread
    exact .inr ⟨entry, bytes, hfind, hbytes⟩

theorem Command.exists?_of_changes_delete (h : (Command.delete path).changes d = .ok changes) :
    d.exists? path = .ok changes := by
  rw [Command.changes] at h
  cases hexists : d.exists? path with
  | error e => simp [hexists, Except.mapError] at h
  | ok found => simpa [hexists, Except.mapError] using h

/-- **What a command changes can only be told** if its path leads somewhere or to nothing. -/
theorem Command.find_of_changes (h : c.changes d = .ok changes) :
    d.find c.path = .error .notFound ∨ ∃ entry, d.find c.path = .ok entry := by
  cases c with
  | write w =>
    rcases Command.find_of_changes_write h with hfind | ⟨entry, -, hfind, -⟩
    · exact .inl hfind
    · exact .inr ⟨entry, hfind⟩
  | delete path =>
    have hexists := Command.exists?_of_changes_delete h
    cases changes with
    | false => exact .inl (Disk.find_of_exists?_false hexists)
    | true => exact .inr (Disk.find_of_exists?_true hexists)

/-- A write is left out if its text is what is read where it goes. -/
theorem Command.isKept_write_eq_false_iff
    (h : (Command.write w).changes d = .ok ((Command.write w).isKept d)) :
    (Command.write w).isKept d = false ↔ d.readText? w.path = .ok (some w.content.toList) := by
  obtain ⟨text?, hread, hkept⟩ := map_eq_ok_iff.mp h
  rw [← hkept, hread]
  simp

/-- A deletion is left out if there is nothing to delete. -/
theorem Command.isKept_delete_eq_false_iff
    (h : (Command.delete path).changes d = .ok ((Command.delete path).isKept d)) :
    (Command.delete path).isKept d = false ↔ d.exists? path = .ok false := by
  rw [Command.exists?_of_changes_delete h]
  simp

variable (htree : d.IsTree)

include htree

/-- No file is above the place of a command of which it can be told what it changes. -/
theorem Command.ne_file_of_changes (hdirect : parentName ∉ c.location)
    (h : c.changes d = .ok changes) {above : Location} (habove : above.isAbove c.location = true)
    (bytes : Bytes) : d.entryAt? above ≠ some (.file bytes) := by
  intro hfile
  rcases htree.find_below_file hdirect habove hfile with hfind | hfind <;>
    rcases Command.find_of_changes h with hfound | ⟨entry, hfound⟩ <;>
    simp [hfind] at hfound

theorem Command.ne_directory_of_changes_write (hdirect : parentName ∉ w.path.names)
    (h : (Command.write w).changes d = .ok changes) :
    d.entryAt? w.path.names ≠ some .directory := by
  intro hentry
  rcases Command.find_of_changes_write h with hfound | ⟨entry, bytes, hfound, hbytes⟩
  · rcases Disk.find_of_above hdirect (htree.directories _ _ hentry) hentry rfl with
      hfind | hfind <;> simp [hfind] at hfound
  · have hsame := (htree.plain.entryAt?_of_find hdirect hfound).1
    rw [hentry] at hsame
    cases hsame
    cases hbytes

end

/-! ## 3. The commands that have something to do

Between all commands and those that are kept stand those that have something to do: they are what
is applied to any effect in a schedule of all commands. -/

section

variable {d : Disk} {commands : List Command}

theorem Applicable.sublist {others : List Command} (h : Applicable d commands)
    (hothers : others.Sublist commands) : Applicable d others where
  usable := fun c hc => h.usable c (hothers.subset hc)
  nodup := h.nodup.sublist (hothers.map _)
  free := fun b hb c hc => h.free b (hothers.subset hb) c (hothers.subset hc)
  notDirectory := fun c hc => h.notDirectory c (hothers.subset hc)
  notBelowFile := fun c hc => h.notBelowFile c (hothers.subset hc)

theorem kept_sublist_active (d : Disk) (commands : List Command) :
    (commands.filter (Command.isKept d)).Sublist (commands.filter (Command.isActive d)) :=
  List.monotone_filter_right commands fun _ => Command.isActive_of_isKept

/-- **Commands that have been applied without a failure can be applied**, but for the deletions of
what is not there: whatever else could stand in their way would have made one of them fail, or
hidden what it changes. -/
theorem applicable_active (htree : d.IsTree) (hseparate : Separate commands)
    (hchanges : ∀ c ∈ commands, c.changes d = .ok (c.isKept d))
    (hfits : ∀ c ∈ commands, c.Fits d) : Applicable d (commands.filter (Command.isActive d)) where
  usable := by
    intro c hc name hname
    obtain ⟨hc, hactive⟩ := List.mem_filter.mp hc
    have hdirect := hseparate.direct c hc
    refine ⟨fun heq => hdirect (heq ▸ hname), ?_⟩
    cases c with
    | write w => exact hfits _ hc name hname
    | delete path =>
      have hkept : (Command.delete path).isKept d = true := by
        simpa [Command.isActive, Command.isDelete] using hactive
      have hexists := Command.exists?_of_changes_delete (hchanges _ hc)
      rw [hkept] at hexists
      obtain ⟨entry, hfind⟩ := Disk.find_of_exists?_true hexists
      exact (htree.plain.entryAt?_of_find hdirect hfind).2 name hname
  nodup := hseparate.nodup.sublist (List.filter_sublist.map _)
  free := fun b hb c hc =>
    hseparate.free b (List.mem_filter.mp hb).1 c (List.mem_filter.mp hc).1
  notDirectory := by
    intro c hc
    obtain ⟨hc, -⟩ := List.mem_filter.mp hc
    cases c with
    | write w =>
      exact Command.ne_directory_of_changes_write htree (hseparate.direct _ hc) (hchanges _ hc)
    | delete path => exact hfits _ hc
  notBelowFile := by
    intro c hc above habove
    obtain ⟨hc, -⟩ := List.mem_filter.mp hc
    exact Command.ne_file_of_changes htree (hseparate.direct c hc) (hchanges c hc) habove

/-- **A deletion of what is not there does nothing** at any time, since no other command puts
something in its place. -/
theorem idle_of_not_isActive {atOnce : Nat} {t : Applying} (htree : d.IsTree)
    (hseparate : Separate commands) (hchanges : ∀ c ∈ commands, c.changes d = .ok (c.isKept d))
    (happlicable : Applicable d (commands.filter (Command.isActive d)))
    (hrun : Relation.ReflTransGen (ApplyStep atOnce)
      (.start d (commands.filter (Command.isActive d))) t)
    {c : Command} (hc : c ∈ commands) (hidle : c.isActive d = false) {access : Access Unit}
    (haccess : access ∈ c.accesses) {disk' : Disk}
    (h : access.outcome t.disk = (.ok (), disk')) : disk' = t.disk := by
  cases c with
  | write w => simp [Command.isActive, Command.isDelete] at hidle
  | delete path =>
    have hdirect : parentName ∉ path.names := hseparate.direct _ hc
    have hkept : (Command.delete path).isKept d = false := by
      simpa [Command.isActive, Command.isDelete] using hidle
    have hexists := (Command.isKept_delete_eq_false_iff (hchanges _ hc)).mp hkept
    have hnone : d.entryAt? path.names = none :=
      htree.entryAt?_of_find_notFound hdirect (Disk.find_of_exists?_false hexists)
    have hfollows := Follows.run htree happlicable hrun
    have hstill : t.disk.entryAt? path.names = none := by
      rw [← hnone]
      refine hfollows.kept _ (fun job hjob _ hlocation => ?_) fun job hjob _ => ?_
      · obtain ⟨hmem, hactive⟩ := List.mem_filter.mp (command_mem_of_run hrun hjob)
        rw [hseparate.eq_of_location_eq hmem hc hlocation, hidle] at hactive
        cases hactive
      · exact hseparate.free _ hc _ (List.mem_filter.mp (command_mem_of_run hrun hjob)).1
    cases List.mem_singleton.mp haccess
    obtain ⟨value, between, hdelete, hrest⟩ := Access.outcome_bind_eq_ok h
    cases hrest
    have hplain : t.disk.IsPlain := hfollows.isPlain htree.plain
    rcases hplain.outcome_deleteFile_eq_ok hdirect hdelete with rfl | ⟨bytes, hfile, -⟩
    · rfl
    · cases hfile.symm.trans hstill

/-! ## 4. What the disks show

Location by location.  At the place of a command that is left out, one disk has the file that was
there and the other the same text written anew; everywhere else the entries are the same. -/

/-- **A write that is left out** is to a file that shows its text. -/
theorem entryAt?_of_not_isKept (hplain : d.IsPlain) (hseparate : Separate commands)
    (hchanges : ∀ c ∈ commands, c.changes d = .ok (c.isKept d)) {w : Write}
    (hw : .write w ∈ commands) (hkept : (Command.write w).isKept d = false) :
    ∃ bytes, d.entryAt? w.path.names = some (.file bytes) ∧
      shownText bytes = shownText (utf8 w.content.toList) := by
  have hread := (Command.isKept_write_eq_false_iff (hchanges _ hw)).mp hkept
  obtain ⟨entry, bytes, hfind, hbytes, hshown, huniform⟩ := Disk.find_of_readText?_some hread
  have hentry := (hplain.entryAt?_of_find (hseparate.direct _ hw) hfind).1
  have hentryPlain := hplain _ _ hentry
  cases entry with
  | directory => cases hbytes
  | file old =>
    obtain rfl : old = bytes := Option.some.inj hbytes
    exact ⟨old, hentry, by rw [hshown, shownText_utf8, huniform]⟩
  | _ => cases hentryPlain

section

variable {after after' : Disk} (hseparate : Separate commands)
  (hchanges : ∀ c ∈ commands, c.changes d = .ok (c.isKept d))
  (h : Applied d (commands.filter (Command.isActive d)) after)
  (h' : Applied d (commands.filter (Command.isKept d)) after')

include hseparate h'

/-- What is at the place of a command that is left out stays there. -/
theorem entryAt?_of_applied_kept {c : Command} (hc : c ∈ commands) (hkept : c.isKept d = false) :
    after'.entryAt? c.location = d.entryAt? c.location := by
  refine h'.kept _ (fun b hb hlocation => ?_) fun w hw => ?_
  · obtain ⟨hb, hbkept⟩ := List.mem_filter.mp hb
    rw [hseparate.eq_of_location_eq hb hc hlocation, hkept] at hbkept
    cases hbkept
  · exact hseparate.free c hc _ (List.mem_filter.mp hw).1

variable (htree : d.IsTree)

include hchanges h htree

/-- At the place of a command the same is shown, whether it is left out or not. -/
theorem view_eq_of_mem {c : Command} (hc : c ∈ commands.filter (Command.isActive d)) :
    (after.entryAt? c.location).map after.view = (after'.entryAt? c.location).map after'.view := by
  obtain ⟨hmem, hactive⟩ := List.mem_filter.mp hc
  cases hkept : c.isKept d with
  | true =>
    have hc' : c ∈ commands.filter (Command.isKept d) := List.mem_filter.mpr ⟨hmem, hkept⟩
    cases c with
    | write w =>
      rw [Command.location, Command.path, h.written w hc, h'.written w hc', Option.map_some,
        Option.map_some, Disk.view_file_eq_iff.mpr rfl]
    | delete path =>
      rw [Command.location, Command.path, h.deleted path hc, h'.deleted path hc', Option.map_none,
        Option.map_none]
  | false =>
    cases c with
    | delete path => simp [Command.isActive, Command.isDelete, hkept] at hactive
    | write w =>
      obtain ⟨bytes, hentry, hshown⟩ :=
        entryAt?_of_not_isKept htree.plain hseparate hchanges hmem hkept
      rw [entryAt?_of_applied_kept hseparate h' hmem hkept, Command.location, Command.path,
        h.written w hc, hentry, Option.map_some, Option.map_some,
        Disk.view_file_eq_iff.mpr hshown.symm]

/-- Elsewhere there is the same: directories where commands have made some, and what was there
before. -/
theorem entryAt?_eq_of_forall_ne {location : Location}
    (hplace : ∀ c ∈ commands.filter (Command.isActive d), c.location ≠ location) :
    after.entryAt? location = after'.entryAt? location := by
  have hsub := (kept_sublist_active d commands).subset
  by_cases hbelow' : ∃ w, .write w ∈ commands.filter (Command.isKept d) ∧
      location.isAbove w.path.names = true
  · obtain ⟨w, hw, habove⟩ := hbelow'
    rw [h.directories w (hsub hw) _ habove, h'.directories w hw _ habove]
  · have hstill : after'.entryAt? location = d.entryAt? location :=
      h'.kept _ (fun c hc => hplace c (hsub hc)) fun w hw =>
        Bool.eq_false_iff.mpr fun habove => hbelow' ⟨w, hw, habove⟩
    by_cases hbelow : ∃ w, .write w ∈ commands.filter (Command.isActive d) ∧
        location.isAbove w.path.names = true
    · -- The write has been left out, so its file was there, in directories.
      obtain ⟨w, hw, habove⟩ := hbelow
      have hmem := (List.mem_filter.mp hw).1
      have hkept : (Command.write w).isKept d = false :=
        Bool.eq_false_iff.mpr fun hkept =>
          hbelow' ⟨w, List.mem_filter.mpr ⟨hmem, hkept⟩, habove⟩
      obtain ⟨bytes, hentry, -⟩ := entryAt?_of_not_isKept htree.plain hseparate hchanges hmem hkept
      rw [hstill, h.directories w hw _ habove, htree.directories _ _ hentry _ habove]
    · rw [hstill, h.kept _ hplace fun w hw =>
        Bool.eq_false_iff.mpr fun habove => hbelow ⟨w, hw, habove⟩]

/-- **The disks look alike** after what has something to do has been applied and after what changes
something has. -/
theorem looksLike_of_applied : after.LooksLike after' := by
  intro location
  by_cases hplace : ∃ c ∈ commands.filter (Command.isActive d), c.location = location
  · obtain ⟨c, hc, rfl⟩ := hplace
    exact view_eq_of_mem hseparate hchanges h h' htree hc
  · have hsame := entryAt?_eq_of_forall_ne hseparate hchanges h h' htree fun c hc hlocation =>
      hplace ⟨c, hc, hlocation⟩
    cases hentry : after'.entryAt? location with
    | none => rw [hsame, hentry, Option.map_none, Option.map_none]
    | some entry =>
      rw [hsame, hentry, Option.map_some, Option.map_some,
        Disk.view_eq_of_isPlain (h'.isPlain htree.plain location entry hentry)]

end

/-! ## 5. Applying the rest

The schedules of all commands and of the kept ones are compared through their last disks and
nothing else. -/

/-- When all commands have been applied without a failure, the rest can be applied, and afterwards
the disk looks like the one that all commands have left. -/
theorem applicable_kept {atOnce : Nat} {s : Applying} (htree : d.IsTree)
    (hseparate : Separate commands) (hchanges : ∀ c ∈ commands, c.changes d = .ok (c.isKept d))
    (hrun : Relation.ReflTransGen (ApplyStep atOnce) (.start d commands) s) (hdone : s.IsDone)
    (hclean : s.failures = []) :
    Applicable d (commands.filter (Command.isKept d)) ∧
      ∀ after, Applied d (commands.filter (Command.isKept d)) after → s.disk.LooksLike after := by
  have happlicable : Applicable d (commands.filter (Command.isActive d)) :=
    applicable_active htree hseparate hchanges fun c hc =>
      fits_of_run htree hseparate.nodup.of_map hseparate.direct hrun hdone hclean hc
  have hpart : Relation.ReflTransGen (ApplyStep atOnce)
      (.start d (commands.filter (Command.isActive d))) (s.only (Command.isActive d)) :=
    run_only hrun hclean fun t ht c hc hidle access haccess disk' houtcome =>
      idle_of_not_isActive htree hseparate hchanges happlicable ht hc hidle haccess houtcome
  have happlied : Applied d (commands.filter (Command.isActive d)) s.disk :=
    (Follows.run htree happlicable hpart).isApplied (hdone.only _)
  exact ⟨happlicable.sublist (kept_sublist_active d commands),
    fun after hafter => looksLike_of_applied hseparate hchanges happlied hafter htree⟩

end

/-- **Leaving out commands that change nothing changes nothing.**  On a disk that is a tree of
directories and files, let commands be at different places, none above another, and let it have been
told of each whether it changes something.  What is left out are the writes of the text that is read
where they go and the deletions of what does not exist.

If some schedule of all commands comes to its end without a failure, then in any schedule of the
kept ones nothing fails, there is a next step until all of them have ended, and every step leaves
less to do; and when they have ended, then for every path the same text is read and the same is told
of whether it exists.  It is likewise if the commands are applied one after the other. -/
theorem applying_changingCommands {d : Disk} {commands kept : List Command} {slots : Nat}
    (htree : d.IsTree) (hseparate : Separate commands) (hslots : 1 ≤ slots)
    (hkept : changingCommands d commands = .ok kept) :
    (kept.Sublist commands ∧
        (∀ w, .write w ∈ commands →
          (.write w ∉ kept ↔ d.readText? w.path = .ok (some w.content.toList))) ∧
        ∀ path, .delete path ∈ commands → (.delete path ∉ kept ↔ d.exists? path = .ok false)) ∧
      (∀ atOnce s, Relation.ReflTransGen (ApplyStep atOnce) (.start d commands) s →
        s.IsDone → s.failures = [] →
          ∀ t, Relation.ReflTransGen (ApplyStep slots) (.start d kept) t →
            t.failures = [] ∧ (t.IsDone ∨ ∃ next, ApplyStep slots t next) ∧
              (t.IsDone → s.disk.AnswersAlike t.disk)) ∧
      (∀ t next, ApplyStep slots t next → next.work < t.work) ∧
      ∀ atOnce after, (applyCommands atOnce commands).outcome d = (.ok (), after) →
        ∃ after', (applyCommands slots kept).outcome d = (.ok (), after') ∧
          after.AnswersAlike after' := by
  obtain ⟨hchanges, rfl⟩ := eq_filter_of_changingCommands hkept
  refine ⟨⟨List.filter_sublist, fun w hw => ?_, fun path hpath => ?_⟩,
    fun atOnce s hrun hdone hclean t ht => ?_, fun _ _ => work_lt_of_step,
    fun atOnce after houtcome => ?_⟩
  · rw [← Command.isKept_write_eq_false_iff (hchanges _ hw)]
    simp [hw]
  · rw [← Command.isKept_delete_eq_false_iff (hchanges _ hpath)]
    simp [hpath]
  · obtain ⟨happlicable, hlooks⟩ := applicable_kept htree hseparate hchanges hrun hdone hclean
    have hfollows := Follows.run htree happlicable ht
    refine ⟨hfollows.failures_eq, ?_, fun htDone => ?_⟩
    · by_cases htDone : t.IsDone
      · exact .inl htDone
      · exact .inr (exists_step hslots htDone)
    · exact (hlooks _ (hfollows.isApplied htDone)).answersAlike
  · have hrun : Relation.ReflTransGen (ApplyStep 1) ⟨[] ++ commands.map (⟨·, .waiting⟩), d, []⟩
        ⟨[] ++ commands.map (⟨·, .ended⟩), after, []⟩ :=
      run_of_applyCommands (Nat.le_refl 1) (List.forall_mem_nil _) houtcome
    obtain ⟨happlicable, hlooks⟩ :=
      applicable_kept htree hseparate hchanges hrun (isDone_map_ended _ _ _) rfl
    have hstart : Follows d (commands.filter (Command.isKept d))
        ⟨[] ++ (commands.filter (Command.isKept d)).map (⟨·, .waiting⟩), d, []⟩ :=
      follows_start d _
    obtain ⟨after', houtcome', hfollows⟩ :=
      Follows.applyCommands htree happlicable slots _ hstart
    have hlike := hlooks _ (hfollows.isApplied (isDone_map_ended _ _ _))
    exact ⟨after', houtcome', hlike.answersAlike⟩

/-- A disk with a file whose lines end with carriage returns, one to be written over and one to be
deleted. -/
def mixedDisk : Disk where
  entries := [([['n'], ['a']], .file (utf8 ['x', '\r', '\n', 'y'])),
    ([['n'], ['b']], .file (utf8 ['x'])), ([['n'], ['c']], .file []), ([['n']], .directory)]

/-- Commands that change something. -/
def changingWrites : List Command :=
  [.write (.ofText (.ofString "/n/b") "y"), .delete (.ofString "/n/c"),
    .write (.ofText (.ofString "/m/d/e") "z")]

/-- With a write of what a file shows and a deletion of what is not there. -/
def mixedCommands : List Command :=
  .write (.ofText (.ofString "/n/a") "x\ny") :: .delete (.ofString "/m/c") :: changingWrites

theorem separate_mixedCommands : Separate mixedCommands where
  direct := by decide +kernel
  nodup := by decide +kernel
  free := by decide +kernel

/-- The file whose lines end otherwise is written by all commands and not by the kept ones, and
shows the same. -/
theorem applying_changingCommands_mixedCommands :
    mixedDisk.IsTree ∧ Separate mixedCommands ∧
      changingCommands mixedDisk mixedCommands = .ok changingWrites ∧
      ∃ after after', (applyCommands 2 mixedCommands).outcome mixedDisk = (.ok (), after) ∧
        (applyCommands 2 changingWrites).outcome mixedDisk = (.ok (), after') ∧
        after.entryAt? [['n'], ['a']] ≠ mixedDisk.entryAt? [['n'], ['a']] ∧
        after.AnswersAlike after' := by
  have htree : mixedDisk.IsTree := Disk.isTree_of_forall_mem (by decide +kernel)
  have hkept : changingCommands mixedDisk mixedCommands = .ok changingWrites := by decide +kernel
  have hdone : ((applyCommands 2 mixedCommands).outcome mixedDisk).1 = .ok () := by decide +kernel
  have hchanged : ((applyCommands 2 mixedCommands).outcome mixedDisk).2.entryAt? [['n'], ['a']] ≠
      mixedDisk.entryAt? [['n'], ['a']] := by
    decide +kernel
  obtain ⟨-, -, -, hafter⟩ :=
    applying_changingCommands htree separate_mixedCommands (by decide : 1 ≤ 2) hkept
  have hsame := hafter 2
  -- From here on it does not matter how the disk has been reached.
  generalize (applyCommands 2 mixedCommands).outcome mixedDisk = reached at hdone hchanged hsame ⊢
  obtain ⟨result, after⟩ := reached
  obtain rfl : result = .ok () := hdone
  obtain ⟨after', houtcome', hshown⟩ := hsame after rfl
  exact ⟨htree, separate_mixedCommands, hkept, after, after', rfl, houtcome', hchanged, hshown⟩

end TaskNotes
