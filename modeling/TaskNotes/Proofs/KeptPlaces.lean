/-
# Commands that are kept apart

Where a command does something is told by its path only if the disk has no links.  With links two
paths can lead to one file, and a path can lead through a place where another command is at work.
So whether commands are in each other's way is asked of the disk (`Disk.KeepsApart`): the places
that they lead to are different, no place is passed on the way to another, and no two writes go to
names of one file.  On a disk without links that is what the paths say themselves
(`Disk.IsLinkFree.keepsApart`).

Commands that the disk keeps apart stay apart while they are applied, in whatever schedule.

* At the locations that some command passes nothing is changed; at most directories come to be
  where nothing was (`Disk.Agrees`).  So no way of a command ever changes.
* A command changes nothing at the places of others, and not what the files there hold
  (`Disk.Leaves`).
* So what a command has done stays done (`Command.IsDone`): the way of a written path leads to its
  content, and nothing is at a place that was deleted.

If no access has failed, then all this holds at the end, and every written path holds its content
and every deleted path is absent (`find_of_clean_run`).  Whether an access fails is not said here:
rights may be missing, or a directory may be in the way.
-/
import TaskNotes.Proofs.Merge
import TaskNotes.Proofs.SkippedCommands

namespace TaskNotes

open Access

/-! ## 1. Where commands lead

A file is written where its path leads to, links at the end included.  What is deleted is a name in
a directory, and so a link itself and not what it leads to. -/

/-- The way of a command to its place. -/
def Command.route (d : Disk) : Command → Route
  | .write w => d.route w.path.names
  | .delete path => (d.route path.parent.names).below path.name

/-- The number of the file at a location, if it can have several names. -/
def Disk.number? (d : Disk) (location : Location) : Option Nat :=
  (d.entryAt? location).bind Entry.number?

/-- Commands that lead to different places, none on the way to another, and of which no two write
to names of one file. -/
structure Disk.KeepsApart (d : Disk) (commands : List Command) : Prop where
  places : (commands.map fun c => (c.route d).place).Nodup
  free : ∀ b ∈ commands, ∀ c ∈ commands, (b.route d).place ∉ (c.route d).passed
  files : ∀ v ∈ writesOf commands, ∀ w ∈ writesOf commands, v ≠ w →
    d.number? (d.route v.path.names).place = none ∨
      d.number? (d.route v.path.names).place ≠ d.number? (d.route w.path.names).place

instance (d : Disk) (commands : List Command) : Decidable (d.KeepsApart commands) :=
  decidable_of_iff
    ((commands.map fun c => (c.route d).place).Nodup ∧
      (∀ b ∈ commands, ∀ c ∈ commands, (b.route d).place ∉ (c.route d).passed) ∧
      ∀ v ∈ writesOf commands, ∀ w ∈ writesOf commands, v ≠ w →
        d.number? (d.route v.path.names).place = none ∨
          d.number? (d.route v.path.names).place ≠ d.number? (d.route w.path.names).place)
    ⟨fun h => ⟨h.1, h.2.1, h.2.2⟩, fun h => ⟨h.places, h.free, h.files⟩⟩

namespace Disk

variable {d disk disk' : Disk} {commands : List Command} {location : Location}

/-! ## 2. What stays as it is

Making directories for one command may put one where another command passes, if nothing was there;
so being unchanged is too much to ask of what is passed, and `Gains` asks for what is enough.  A
way does not depend on it: the walk goes on through a missing entry as through a directory, and
only links send it elsewhere. -/

/-- Whether a location is as it was, or has become a directory where nothing was. -/
def Gains (disk disk' : Disk) (location : Location) : Prop :=
  disk'.entryAt? location = disk.entryAt? location ∨
    (disk.entryAt? location = none ∧ disk'.entryAt? location = some .directory)

theorem Gains.trans {last : Disk} (h : disk.Gains disk' location)
    (hlast : disk'.Gains last location) : disk.Gains last location := by
  rcases h with h | ⟨hnone, hdirectory⟩
  · rw [Gains, ← h]
    exact hlast
  · rcases hlast with hlast | ⟨hlast, -⟩
    · exact .inr ⟨hnone, hlast.trans hdirectory⟩
    · simp [hdirectory] at hlast

theorem Gains.entryAt?_eq {entry : Entry} (h : disk.Gains disk' location)
    (hentry : disk.entryAt? location = some entry) : disk'.entryAt? location = some entry := by
  rcases h with h | ⟨hnone, -⟩
  · exact h.trans hentry
  · simp [hnone] at hentry

theorem Gains.target?_eq (h : disk.Gains disk' location) :
    disk'.target? location = disk.target? location := by
  rcases h with h | ⟨hnone, hdirectory⟩
  · rw [target?, target?, h]
  · rw [target?_of_entryAt? hdirectory, target?_of_none hnone]
    rfl

/-- Whether all that the ways of commands depend on is the same on two disks. -/
structure Agrees (d : Disk) (commands : List Command) (disk disk' : Disk) : Prop where
  passed : ∀ c ∈ commands, ∀ l ∈ (c.route d).passed, disk.Gains disk' l
  target?_eq : ∀ w, .write w ∈ commands →
    disk'.target? (d.route w.path.names).place = disk.target? (d.route w.path.names).place
  number?_eq : ∀ w, .write w ∈ commands →
    disk'.number? (d.route w.path.names).place = disk.number? (d.route w.path.names).place

theorem Agrees.refl (d : Disk) (commands : List Command) (disk : Disk) :
    Agrees d commands disk disk :=
  ⟨fun _ _ _ _ => .inl rfl, fun _ _ => rfl, fun _ _ => rfl⟩

theorem Agrees.trans {last : Disk} (h : Agrees d commands disk disk')
    (hlast : Agrees d commands disk' last) : Agrees d commands disk last where
  passed := fun c hc l hl => (h.passed c hc l hl).trans (hlast.passed c hc l hl)
  target?_eq := fun w hw => (hlast.target?_eq w hw).trans (h.target?_eq w hw)
  number?_eq := fun w hw => (hlast.number?_eq w hw).trans (h.number?_eq w hw)

section

variable (h : Agrees d commands d disk)

include h

/-- **The way of a written path stays the same.** -/
theorem Agrees.route_write {w : Write} (hw : .write w ∈ commands) :
    disk.route w.path.names = d.route w.path.names := by
  refine walk_congr _ fun l hl => ?_
  rcases hl with hl | rfl
  · exact (h.passed _ hw l hl).target?_eq
  · exact h.target?_eq w hw

/-- **The way to the directory of a deleted path stays the same.** -/
theorem Agrees.route_delete {path : Path} (hpath : .delete path ∈ commands) :
    disk.route path.parent.names = d.route path.parent.names := by
  refine walk_congr _ fun l hl => (h.passed _ hpath l ?_).target?_eq
  rcases hl with hl | rfl
  · exact List.mem_append_left _ hl
  · exact List.mem_append_right _ List.mem_cons_self

end

/-- Whether the places of commands other than one are left as they are, with what the files there
hold. -/
structure Leaves (d : Disk) (commands : List Command) (own : Command) (disk disk' : Disk) :
    Prop where
  places : ∀ c ∈ commands, c ≠ own →
    disk'.entryAt? (c.route d).place = disk.entryAt? (c.route d).place
  bytes : ∀ w, .write w ∈ commands → .write w ≠ own → ∀ entry,
    disk.entryAt? (d.route w.path.names).place = some entry →
      disk'.bytesOf? entry = disk.bytesOf? entry

end Disk

/-! ## 3. What commands have done

What was done is said of the disk as it is later, by the way on the first disk.  For a deletion the
directory of the path is not said to be still there: nothing is at the place, whatever has become
of what lies above it. -/

/-- Whether what a command does has been done: a written path leads to its content, or nothing is at
the place of a deletion. -/
def Command.IsDone (d : Disk) (c : Command) (disk : Disk) : Prop :=
  match c with
  | .write w => disk.follow [] w.path.names = .ok (d.route w.path.names).place ∧
      ∃ entry, disk.entryAt? (d.route w.path.names).place = some entry ∧ entry.target? = none ∧
        disk.bytesOf? entry = some (utf8 w.content.toList)
  | .delete path => path.names ≠ [] ∧
      disk.entryAt? ((d.route path.parent.names).below path.name).place = none

section

variable {d disk disk' : Disk} {commands : List Command} {c own : Command}

/-- **What has been done stays done** when a command leaves the places of others as they are. -/
theorem Command.IsDone.of_leaves (hdone : c.IsDone d disk) (hc : c ∈ commands) (hne : c ≠ own)
    (hagrees : Disk.Agrees d commands d disk) (hstep : Disk.Agrees d commands disk disk')
    (hleaves : Disk.Leaves d commands own disk disk') : c.IsDone d disk' := by
  cases c with
  | delete path => exact ⟨hdone.1, (hleaves.places _ hc hne).trans hdone.2⟩
  | write w =>
    obtain ⟨hfollow, entry, hentry, hlink, hbytes⟩ := hdone
    have hentry' : disk'.entryAt? (d.route w.path.names).place = some entry :=
      (hleaves.places _ hc hne).trans hentry
    have hpassed : (disk.route w.path.names).passed = (d.route w.path.names).passed := by
      rw [hagrees.route_write hc]
    refine ⟨?_, entry, hentry', hlink, (hleaves.bytes w hc hne entry hentry).trans hbytes⟩
    refine Disk.followLinks_of_keeps hfollow (fun l hl e he => ?_) ⟨entry, hentry', hlink⟩
    exact (hstep.passed _ hc l (hpassed ▸ hl)).entryAt?_eq he

end

/-! ## 4. What accesses leave as it is

A command consists of accesses, and each is looked at alone: making the directories of a path,
writing a file with one name or with several, deleting a name.  Of each it is said that the ways of
all commands stay, that the places of the others stay, and that afterwards the command is done if
this was its last access. -/

namespace Disk

variable {d disk disk' : Disk} {commands : List Command} {c : Command} {location : Location}
  {entry : Entry}

theorem number?_of_entryAt? (h : disk.entryAt? location = some entry) :
    disk.number? location = entry.number? := by
  simp [number?, h]

/-- **A directory that is made** where some command passes is in no command's way. -/
theorem Agrees.put_directory (hapart : d.KeepsApart commands) (hc : c ∈ commands)
    (hlocation : location ∈ (c.route d).passed) (hnone : disk.entryAt? location = none) :
    Agrees d commands disk (disk.put location .directory) ∧
      ∀ b ∈ commands, (disk.put location .directory).entryAt? (b.route d).place =
        disk.entryAt? (b.route d).place := by
  have hne : location ≠ [] := ne_nil_of_entryAt?_ne (d := disk) (by simp [hnone])
  have hplaces (b : Command) (hb : b ∈ commands) :
      (disk.put location .directory).entryAt? (b.route d).place =
        disk.entryAt? (b.route d).place := by
    rw [entryAt?_put hne, if_neg]
    rintro rfl
    exact hapart.free b hb c hc hlocation
  refine ⟨⟨fun b _ l _ => ?_, fun w hw => ?_, fun w hw => ?_⟩, hplaces⟩
  · by_cases hl : l = location
    · exact .inr ⟨hl ▸ hnone, by rw [entryAt?_put hne, if_pos hl]⟩
    · exact .inl (by rw [entryAt?_put hne, if_neg hl])
  · exact congrArg (Option.bind · Entry.target?) (hplaces _ hw)
  · exact congrArg (Option.bind · Entry.number?) (hplaces _ hw)

/-- **Directories are made only where the way of a written path passes.** -/
theorem Agrees.makeDirectories {w : Write} (hapart : d.KeepsApart commands)
    (hagrees : Agrees d commands d disk) (hw : .write w ∈ commands)
    (hdirect : parentName ∉ w.path.names)
    (h : (makeDirectories w.path.parent).outcome disk = (.ok (), disk')) :
    Agrees d commands disk disk' ∧ Leaves d commands (.write w) disk disk' := by
  suffices hall : Agrees d commands disk disk' ∧ (∀ b ∈ commands,
      disk'.entryAt? (b.route d).place = disk.entryAt? (b.route d).place) ∧
      disk'.shared = disk.shared by
    obtain ⟨hstep, hplaces, hshared⟩ := hall
    exact ⟨hstep, fun b hb _ => hplaces b hb,
      fun _ _ _ _ _ => Entry.bytesOf?_of_shared_eq fun number _ => by rw [hshared]⟩
  refine makeFrom_induction (motive := fun last => Agrees d commands disk last ∧ (∀ b ∈ commands,
    last.entryAt? (b.route d).place = disk.entryAt? (b.route d).place) ∧
    last.shared = disk.shared) ?_ h ⟨.refl d commands disk, fun _ _ => rfl, rfl⟩
  rintro last names name location ⟨hstep, hplaces, hshared⟩ - hnames hfollow hnone
  -- What is made is where the way of the path passes on from these names.
  have hlocation : location ++ [name] ∈ ((Command.write w).route d).passed := by
    obtain ⟨rest, hrest⟩ := hnames
    have hname : name ∈ w.path.parent.names := by
      rw [List.nil_append] at hrest
      rw [← hrest]
      simp
    have hne : w.path.names ≠ [] := List.ne_nil_of_mem ((List.dropLast_sublist _).mem hname)
    have hwhole : w.path.names = names ++ [name] ++ (rest ++ [w.path.name]) := by
      rw [← List.append_assoc, hrest, List.nil_append, Path.parent_names_append_name hne]
    have hup : name ≠ parentName := fun heq => hdirect (heq ▸ (List.dropLast_sublist _).mem hname)
    have hroute := (hagrees.trans hstep).route_write hw
    rw [Command.route, ← hroute, ← place_route_concat hfollow hup (target?_of_none hnone), hwhole]
    exact place_mem_passed_route (List.append_ne_nil_of_right_ne_nil _ (List.cons_ne_nil _ _))
  obtain ⟨hput, hputPlaces⟩ := Agrees.put_directory hapart hw hlocation hnone
  exact ⟨hstep.trans hput, fun b hb => (hputPlaces b hb).trans (hplaces b hb), hshared⟩

section

variable (hapart : d.KeepsApart commands)

include hapart

/-- Different commands have different places. -/
theorem KeepsApart.place_ne {b c : Command} (hb : b ∈ commands) (hc : c ∈ commands) (hne : b ≠ c) :
    (b.route d).place ≠ (c.route d).place :=
  fun h => hne (List.inj_on_of_nodup_map hapart.places hb hc h)

/-- **A change at the place of a command** is in no other command's way. -/
theorem Agrees.of_place (disk disk' : Disk) {own : Command} (hown : own ∈ commands)
    (hother : ∀ other, other ≠ (own.route d).place → disk'.entryAt? other = disk.entryAt? other)
    (hentry : ∀ w, own = .write w →
      disk'.target? (own.route d).place = disk.target? (own.route d).place ∧
        disk'.number? (own.route d).place = disk.number? (own.route d).place) :
    Agrees d commands disk disk' ∧ ∀ c ∈ commands, c ≠ own →
      disk'.entryAt? (c.route d).place = disk.entryAt? (c.route d).place := by
  have hplaces (c : Command) (hc : c ∈ commands) (hne : c ≠ own) :
      disk'.entryAt? (c.route d).place = disk.entryAt? (c.route d).place :=
    hother _ (hapart.place_ne hc hown hne)
  refine ⟨⟨fun c hc l hl => .inl (hother l ?_), fun w hw => ?_, fun w hw => ?_⟩, hplaces⟩
  · rintro rfl
    exact hapart.free own hown c hc hl
  · by_cases hne : .write w = own
    · subst hne
      exact (hentry w rfl).1
    · exact congrArg (Option.bind · Entry.target?) (hplaces _ hw hne)
  · by_cases hne : .write w = own
    · subst hne
      exact (hentry w rfl).2
    · exact congrArg (Option.bind · Entry.number?) (hplaces _ hw hne)

section

variable {w : Write} (hagrees : Agrees d commands d disk) (hw : .write w ∈ commands)

include hagrees hw

omit hapart in
/-- A path is written once its way is still there and ends at a file with its content. -/
theorem Agrees.isDone_write (hspot : disk.spot w.path = .ok (d.route w.path.names).place)
    (hstep : Agrees d commands disk disk') {last : Entry}
    (hlast : disk'.entryAt? (d.route w.path.names).place = some last) (hlink : last.target? = none)
    (hbytes : disk'.bytesOf? last = some (utf8 w.content.toList)) :
    (Command.write w).IsDone d disk' := by
  refine ⟨followLinks_of_keeps hspot (fun l hl e he => ?_) ⟨last, hlast, hlink⟩, last, hlast,
    hlink, hbytes⟩
  have hroute := congrArg Route.passed (hagrees.route_write hw)
  exact (hstep.passed _ hw l (hroute ▸ hl)).entryAt?_eq he

/-- A file with one name is written over, or made. -/
theorem Agrees.put_file (hspot : disk.spot w.path = .ok (d.route w.path.names).place)
    (hne : (d.route w.path.names).place ≠ []) {last : Entry} (hlink : last.target? = none)
    (hnumber : last.number? = none)
    (hbytes : ∀ d : Disk, d.bytesOf? last = some (utf8 w.content.toList))
    (hold : disk.number? (d.route w.path.names).place = none) :
    Agrees d commands disk (disk.put (d.route w.path.names).place last) ∧
      Leaves d commands (.write w) disk (disk.put (d.route w.path.names).place last) ∧
      (Command.write w).IsDone d (disk.put (d.route w.path.names).place last) := by
  have hlast : (disk.put (d.route w.path.names).place last).entryAt?
      (d.route w.path.names).place = some last := by
    rw [entryAt?_put hne, if_pos rfl]
  have hopen : disk.target? (d.route w.path.names).place = none :=
    (isOpen_of_followLinks hspot disk.isOpen_nil).2
  obtain ⟨hstep, hplaces⟩ := Agrees.of_place hapart disk
    (disk.put (d.route w.path.names).place last) hw
    (fun other hother => (entryAt?_put hne).trans (if_neg hother))
    fun _ _ => ⟨((target?_of_entryAt? hlast).trans hlink).trans hopen.symm,
      ((number?_of_entryAt? hlast).trans hnumber).trans hold.symm⟩
  refine ⟨hstep, ⟨hplaces, fun _ _ _ _ _ => ?_⟩, ?_⟩
  · exact Entry.bytesOf?_of_shared_eq fun _ _ => rfl
  · exact hagrees.isDone_write hw hspot hstep hlast hlink (hbytes _)

/-- A file with several names is written over. -/
theorem Agrees.fillShared (hspot : disk.spot w.path = .ok (d.route w.path.names).place)
    {entry : Entry} {number : Nat}
    (hentry : disk.entryAt? (d.route w.path.names).place = some entry)
    (hnumber : entry.number? = some number) :
    Agrees d commands disk (disk.fillShared number (utf8 w.content.toList)) ∧
      Leaves d commands (.write w) disk (disk.fillShared number (utf8 w.content.toList)) ∧
      (Command.write w).IsDone d (disk.fillShared number (utf8 w.content.toList)) := by
  have hstep : Agrees d commands disk (disk.fillShared number (utf8 w.content.toList)) :=
    ⟨fun _ _ _ _ => .inl rfl, fun _ _ => rfl, fun _ _ => rfl⟩
  have hlink : entry.target? = none := by
    rw [← target?_of_entryAt? hentry]
    exact (isOpen_of_followLinks hspot disk.isOpen_nil).2
  refine ⟨hstep, ⟨fun _ _ _ => rfl, fun v hv hne other hother => ?_⟩, ?_⟩
  · -- The file of the other path has another number or none.
    refine Entry.bytesOf?_of_shared_eq fun number' hnumber' => ?_
    have hother : d.number? (d.route v.path.names).place = some number' := by
      rw [← hagrees.number?_eq v hv, number?_of_entryAt? hother, hnumber']
    have hown : d.number? (d.route w.path.names).place = some number := by
      rw [← hagrees.number?_eq w hw, number?_of_entryAt? hentry, hnumber]
    have hdiffer : number' ≠ number := by
      rintro rfl
      rcases hapart.files v (mem_writesOf.mpr hv) w (mem_writesOf.mpr hw)
        (fun h => hne (h ▸ rfl)) with hnone | hdiffer
      · simp [hother] at hnone
      · exact hdiffer (hother.trans hown.symm)
    rw [Disk.fillShared, List.lookup_cons, beq_false_of_ne hdiffer]
  · refine hagrees.isDone_write hw hspot hstep hentry hlink ?_
    rw [Entry.bytesOf?_of_number? hnumber, Disk.fillShared, List.lookup_cons, beq_self_eq_true]
    rfl

/-- **Writing a file** leaves the other places as they are, and then it is written. -/
theorem Agrees.putFile
    (h : (putFile w.path (utf8 w.content.toList)).outcome disk = (.ok (), disk')) :
    Agrees d commands disk disk' ∧ Leaves d commands (.write w) disk disk' ∧
      (Command.write w).IsDone d disk' := by
  obtain ⟨location, hspot, hafter⟩ := outcome_putFile_eq_ok h
  obtain rfl : (d.route w.path.names).place = location := by
    rw [← hagrees.route_write hw, place_route_of_spot hspot]
  have hne (h : disk.entryAt? (d.route w.path.names).place ≠ some .directory) :=
    ne_nil_of_entryAt?_ne h
  rcases hafter with ⟨hnone, rfl⟩ | ⟨entry, hentry, hdirectory, hafter⟩
  · refine hagrees.put_file hapart hw hspot (hne (by simp [hnone])) rfl rfl (fun _ => rfl) ?_
    simp [number?, hnone]
  · rcases hafter with ⟨number, hnumber, rfl⟩ | ⟨hnumber, rfl⟩
    · exact hagrees.fillShared hapart hw hspot hentry hnumber
    · have hlink : entry.target? = none := by
        rw [← target?_of_entryAt? hentry]
        exact (isOpen_of_followLinks hspot disk.isOpen_nil).2
      refine hagrees.put_file hapart hw hspot (hne fun h => ?_) ?_ ?_ (fun d => ?_) ?_
      · obtain rfl : entry = .directory := Option.some.inj (hentry.symm.trans h)
        cases hdirectory
      · rw [Entry.target?_fill, hlink]
      · rw [Entry.number?_fill, hnumber]
      · exact Entry.bytesOf?_fill d hdirectory hlink hnumber
      · rw [number?_of_entryAt? hentry, hnumber]

end

omit hapart in
/-- **The directory of a path that is deleted can be searched still**, if the path was found. -/
theorem Agrees.follow_parent {path : Path} (hagrees : Agrees d commands d disk)
    (hpath : .delete path ∈ commands) (hne : path.names ≠ []) (hfound : d.find path = .ok entry) :
    disk.follow [] path.parent.names = .ok (d.route path.parent.names).place ∧
      disk.IsSearchable (d.route path.parent.names).place ∧ isTooLong path.name = false := by
  rw [find, lookUp] at hfound
  cases hfollow : d.follow [] path.names with
  | error e => simp [hfollow] at hfound
  | ok final =>
    rw [← Path.parent_names_append_name hne] at hfollow
    obtain ⟨location, next, hparent, hlook⟩ := lookIn_of_follow_concat hfollow
    obtain ⟨⟨here, hhere, hdirectory, hsearch⟩, hshort, -⟩ := lookIn_eq_ok_iff.mp hlook
    obtain rfl : (d.route path.parent.names).place = location := place_route_of_follow hparent
    have hkept (l : Location) (hl : l ∈ ((Command.delete path).route d).passed) (e : Entry)
        (he : d.entryAt? l = some e) : disk.entryAt? l = some e :=
      (hagrees.passed _ hpath l hl).entryAt?_eq he
    have hhere' := hkept _ (List.mem_append_right _ List.mem_cons_self) here hhere
    refine ⟨followLinks_of_keeps hparent (fun l hl => hkept l (List.mem_append_left _ hl))
      ⟨here, hhere', Entry.target?_of_isDirectory hdirectory⟩,
      ⟨here, hhere', hdirectory, hsearch⟩, hshort⟩

/-- **Deleting a file** leaves the other places as they are, and then nothing is there. -/
theorem Agrees.deleteFile {path : Path} {value : Bool} (hagrees : Agrees d commands d disk)
    (hpath : .delete path ∈ commands) (hfound : d.find path = .ok entry)
    (h : (deleteFile path).outcome disk = (.ok value, disk')) :
    Agrees d commands disk disk' ∧ Leaves d commands (.delete path) disk disk' ∧
      (Command.delete path).IsDone d disk' := by
  have hkeep (hne : path.names ≠ [])
      (hnone : disk.entryAt? ((d.route path.parent.names).below path.name).place = none) :
      Agrees d commands disk disk ∧ Leaves d commands (.delete path) disk disk ∧
        (Command.delete path).IsDone d disk :=
    ⟨.refl d commands disk, ⟨fun _ _ _ => rfl, fun _ _ _ _ _ => rfl⟩, hne, hnone⟩
  rcases outcome_deleteFile_eq_ok h with ⟨hfollow, rfl⟩ | ⟨location, hfollow, hne, -, hafter⟩
  · -- The directory has been there from the start.
    by_cases hne : path.names = []
    · rw [Path.parent, hne] at hfollow
      cases hfollow
    · cases hfollow.symm.trans (hagrees.follow_parent hpath hne hfound).1
  · obtain rfl : (d.route path.parent.names).place = location := by
      rw [← hagrees.route_delete hpath, place_route_of_follow hfollow]
    rcases hafter with ⟨hlook, rfl⟩ | ⟨found, hlook, -, rfl⟩
    · exact hkeep hne (lookIn_eq_ok_iff.mp hlook).2.2
    · have hplace : (d.route path.parent.names).place ++ [path.name] ≠ [] :=
        List.append_ne_nil_of_right_ne_nil _ (List.cons_ne_nil _ _)
      obtain ⟨hstep, hplaces⟩ := Agrees.of_place hapart disk
        (disk.erase ((d.route path.parent.names).place ++ [path.name])) hpath
        (fun other hother => (entryAt?_erase hplace).trans (if_neg hother))
        (fun w hw => by cases hw)
      refine ⟨hstep, ⟨hplaces, fun _ _ _ _ _ => ?_⟩, hne, ?_⟩
      · exact Entry.bytesOf?_of_shared_eq fun _ _ => rfl
      · exact (entryAt?_erase hplace).trans (if_pos rfl)

end

end Disk

/-! ## 5. Schedules

What every access keeps is kept by every schedule (`Advances`). -/

section

variable {d : Disk} {commands : List Command} {atOnce : Nat} {s : Applying}

/-- **Every access of a command leaves the others where they are**, and its last one does what the
command does. -/
theorem Disk.Agrees.advances {c : Command} {made : Nat} {access : Access Unit} {disk disk' : Disk}
    (hapart : d.KeepsApart commands) (hdirect : parentName ∉ c.location)
    (hfound : ∀ path, c = .delete path → ∃ entry, d.find path = .ok entry) (hc : c ∈ commands)
    (haccess : c.accesses[made]? = some access) (houtcome : access.outcome disk = (.ok (), disk'))
    (hagrees : Disk.Agrees d commands d disk) :
    Advances commands (Disk.Agrees d commands d) (Command.IsDone d) c made disk disk' := by
  have hadvance (hstep : Disk.Agrees d commands disk disk')
      (hleaves : Disk.Leaves d commands c disk disk')
      (hlast : c.accesses.length ≤ made + 1 → c.IsDone d disk') :
      Advances commands (Disk.Agrees d commands d) (Command.IsDone d) c made disk disk' :=
    ⟨hagrees.trans hstep, fun b hb hne hdone => hdone.of_leaves hb hne hagrees hstep hleaves, hlast⟩
  cases c with
  | write w =>
    rcases made with - | - | made
    · cases haccess
      obtain ⟨hstep, hleaves⟩ := Disk.Agrees.makeDirectories hapart hagrees hc hdirect houtcome
      exact hadvance hstep hleaves fun hlast => absurd hlast (Nat.not_succ_le_self 1)
    · cases haccess
      obtain ⟨hstep, hleaves, hdone⟩ := hagrees.putFile hapart hc houtcome
      exact hadvance hstep hleaves fun _ => hdone
    · cases haccess
  | delete path =>
    rcases made with - | made
    · cases haccess
      obtain ⟨entry, hentry⟩ := hfound path rfl
      obtain ⟨value, between, hdelete, hrest⟩ := outcome_bind_eq_ok houtcome
      cases hrest
      obtain ⟨hstep, hleaves, hdone⟩ := hagrees.deleteFile hapart hc hentry hdelete
      exact hadvance hstep hleaves fun _ => hdone
    · cases haccess

/-- **Commands that are kept apart have been done** when they have ended and nothing has failed.
Every written path leads to a file with its content, and every deleted path leads nowhere. -/
theorem find_of_clean_run (hapart : d.KeepsApart commands)
    (hdirect : ∀ c ∈ commands, parentName ∉ c.location)
    (hfound : ∀ path, .delete path ∈ commands → ∃ entry, d.find path = .ok entry)
    (hrun : Relation.ReflTransGen (ApplyStep atOnce) (.start d commands) s) (hdone : s.IsDone)
    (hclean : s.failures = []) :
    (∀ w, .write w ∈ commands → ∃ entry, s.disk.find w.path = .ok entry ∧
        s.disk.bytesOf? entry = some (utf8 w.content.toList)) ∧
      ∀ path, .delete path ∈ commands → s.disk.find path = .error .notFound := by
  obtain ⟨hagrees, hall⟩ := applied_of_clean_run (Disk.Agrees d commands d)
    (Command.IsDone d) hapart.places.of_map (.refl d commands d)
    (fun c hc made access disk disk' haccess houtcome hagrees =>
      hagrees.advances hapart (hdirect c hc) (fun path h => hfound path (h ▸ hc)) hc haccess
        houtcome) hrun hdone hclean
  refine ⟨fun w hw => ?_, fun path hpath => ?_⟩
  · obtain ⟨hfollow, entry, hentry, -, hbytes⟩ := hall _ hw
    exact ⟨entry, by simp [Disk.find, Disk.lookUp, hfollow, hentry], hbytes⟩
  · obtain ⟨hne, hnone⟩ := hall _ hpath
    obtain ⟨entry, hentry⟩ := hfound path hpath
    obtain ⟨hfollow, hsearchable, hshort⟩ := hagrees.follow_parent hpath hne hentry
    rw [Disk.find, ← Path.parent_names_append_name hne]
    exact Disk.lookUp_eq_notFound_of_lookIn hfollow
      (Disk.lookIn_eq_ok_iff.mpr ⟨hsearchable, hshort, hnone⟩)
      fun heq => hdirect _ hpath (heq ▸ Path.name_mem hne)

end

/-! ## 6. Disks without links

Here a path leads where its names say, and passes what lies above that. -/

/-- Whether there are no links on a disk, and no files with several names. -/
def Disk.IsLinkFree (d : Disk) : Prop :=
  ∀ e ∈ d.entries, e.2.target? = none ∧ e.2.number? = none

instance (d : Disk) : Decidable d.IsLinkFree :=
  inferInstanceAs (Decidable (∀ e ∈ d.entries, _))

namespace Disk

variable {d : Disk} {location : Location} {names : List Name}

theorem IsLinkFree.entry (h : d.IsLinkFree) {entry : Entry}
    (hentry : d.entryAt? location = some entry) : entry.target? = none ∧ entry.number? = none := by
  by_cases hroot : location = []
  · rw [hroot, entryAt?_nil] at hentry
    cases hentry
    exact ⟨rfl, rfl⟩
  · rw [entryAt?, if_neg hroot, List.lookup_eq_some_iff] at hentry
    obtain ⟨front, back, hentries, -⟩ := hentry
    exact h (location, entry) (hentries ▸ List.mem_append_right _ List.mem_cons_self)

theorem IsLinkFree.target?_eq_none (h : d.IsLinkFree) (location : Location) :
    d.target? location = none := by
  cases hentry : d.entryAt? location with
  | none => exact target?_of_none hentry
  | some entry => exact (target?_of_entryAt? hentry).trans (h.entry hentry).1

theorem IsLinkFree.number?_eq_none (h : d.IsLinkFree) (location : Location) :
    d.number? location = none := by
  cases hentry : d.entryAt? location with
  | none => simp [number?, hentry]
  | some entry => exact (number?_of_entryAt? hentry).trans (h.entry hentry).2

theorem IsLinkFree.place_route (h : d.IsLinkFree) (hdirect : parentName ∉ names) :
    (d.route names).place = names :=
  (walk_of_forall_none h.target?_eq_none hdirect _).1

theorem IsLinkFree.isAbove_of_mem_passed (h : d.IsLinkFree) (hdirect : parentName ∉ names)
    (hpassed : location ∈ (d.route names).passed) : location.isAbove names = true := by
  obtain ⟨front, back, hback, hnames, rfl⟩ :=
    (walk_of_forall_none h.target?_eq_none hdirect _).2 location hpassed
  exact Location.isAbove_iff.mpr ⟨back, hback, hnames⟩

section

variable {c : Command} (h : d.IsLinkFree) (hdirect : parentName ∉ c.location)
  (hne : c.isDelete = true → c.location ≠ [])

include h hdirect hne

/-- **Without links a command is where its path says.** -/
theorem IsLinkFree.place_eq : (c.route d).place = c.location := by
  cases c with
  | write w => exact h.place_route hdirect
  | delete path =>
    have hparent : parentName ∉ path.parent.names :=
      fun hmem => hdirect ((List.dropLast_sublist _).mem hmem)
    rw [Command.route, Route.below, h.place_route hparent]
    exact Path.parent_names_append_name (hne rfl)

theorem IsLinkFree.isAbove_of_passed (hpassed : location ∈ (c.route d).passed) :
    location.isAbove c.location = true := by
  cases c with
  | write w => exact h.isAbove_of_mem_passed hdirect hpassed
  | delete path =>
    have hparent : parentName ∉ path.parent.names :=
      fun hmem => hdirect ((List.dropLast_sublist _).mem hmem)
    rcases List.mem_append.mp hpassed with hpassed | hpassed
    · exact Location.isAbove_dropLast (h.isAbove_of_mem_passed hparent hpassed)
    · rw [List.mem_singleton.mp hpassed, h.place_route hparent]
      exact Location.dropLast_isAbove (hne rfl)

end

/-- **A disk without links keeps commands apart** that are at different places by their paths, none
above another. -/
theorem IsLinkFree.keepsApart {commands : List Command} (h : d.IsLinkFree)
    (hseparate : Separate commands)
    (hne : ∀ c ∈ commands, c.isDelete = true → c.location ≠ []) :
    d.KeepsApart commands where
  places := by
    have hplaces : commands.map (fun c => (c.route d).place) = commands.map Command.location :=
      List.map_congr_left fun c hc => h.place_eq (hseparate.direct c hc) (hne c hc)
    rw [hplaces]
    exact hseparate.nodup
  free := by
    intro b hb c hc hpassed
    rw [h.place_eq (hseparate.direct b hb) (hne b hb)] at hpassed
    have habove := h.isAbove_of_passed (hseparate.direct c hc) (hne c hc) hpassed
    rw [hseparate.free b hb c hc] at habove
    cases habove
  files := fun v _ w _ _ => .inl (h.number?_eq_none _)

end Disk

end TaskNotes
