/-
# What accesses do to a disk

A disk is seen through `Disk.entryAt?`, which says what is at a location.  This module foretells
each access on the way along which there are directories only: that it succeeds, and what is where
afterwards.

* `outcome_makeDirectories`: nothing but directories on the way, and they are there;
* `outcome_putFile`: the file, in a directory that is there, and nothing else changes;
* `outcome_deleteFile_of_file`, `outcome_deleteFile_of_none`: the file is gone, and that it was not
  there is no failure.

Each is said with its frame, that is, with what does not change: commands are applied side by side,
and a command must be sure of what the others leave alone.

A disk is a tree (`Disk.IsTree`) if it holds nothing but directories and files, each file with one
name and nothing without a right (`Disk.IsPlain`), and what lies above an entry is a directory.  On
a tree a path leads where its names say, so these forecasts cover all of its paths.  Where links or
missing rights may be met, an access cannot be foretold from the names of its path; what a success
then tells is the subject of `Proofs/Routes`.
-/
import TaskNotes.Disk
import Mathlib.Data.List.Basic

namespace TaskNotes

/-! ## 1. Locations -/

namespace Location

/-- One location is above another if names lead from it to the other, at least one of them. -/
theorem isAbove_iff {above location : Location} :
    above.isAbove location = true ↔ ∃ below, below ≠ [] ∧ above ++ below = location := by
  rw [isAbove, Bool.and_eq_true, List.isPrefixOf_iff_prefix, bne_iff_ne]
  constructor
  · rintro ⟨⟨below, rfl⟩, hne⟩
    refine ⟨below, ?_, rfl⟩
    rintro rfl
    exact hne (List.append_nil _)
  · rintro ⟨below, hbelow, rfl⟩
    exact ⟨List.prefix_append _ _, fun h => hbelow (List.append_right_eq_self.mp h)⟩

theorem isAbove_iff_take {above location : Location} :
    above.isAbove location = true ↔ ∃ n < location.length, location.take n = above := by
  rw [isAbove_iff]
  constructor
  · rintro ⟨below, hbelow, rfl⟩
    refine ⟨above.length, ?_, List.take_left⟩
    rw [List.length_append]
    exact Nat.lt_add_of_pos_right (List.length_pos_iff.mpr hbelow)
  · rintro ⟨n, hn, rfl⟩
    exact ⟨location.drop n, fun h => Nat.not_le_of_lt hn (List.drop_eq_nil_iff.mp h),
      List.take_append_drop n location⟩

theorem ne_nil_of_isAbove {above location : Location} (h : above.isAbove location = true) :
    location ≠ [] := by
  obtain ⟨below, hbelow, rfl⟩ := isAbove_iff.mp h
  exact List.append_ne_nil_of_right_ne_nil _ hbelow

/-- What lies above a file lies above its directory or is its directory. -/
theorem isAbove_dropLast {above location : Location} (h : above.isAbove location.dropLast = true) :
    above.isAbove location = true := by
  obtain ⟨below, hbelow, hdrop⟩ := isAbove_iff.mp h
  refine isAbove_iff.mpr ⟨below ++ location.drop (location.length - 1), ?_, ?_⟩
  · exact List.append_ne_nil_of_left_ne_nil hbelow _
  · rw [← List.append_assoc, hdrop, List.dropLast_eq_take, List.take_append_drop]

theorem dropLast_isAbove {location : Location} (hne : location ≠ []) :
    Location.isAbove location.dropLast location = true :=
  isAbove_iff.mpr ⟨[location.getLast hne], List.cons_ne_nil _ _,
    List.dropLast_append_getLast hne⟩

theorem prefix_of_isAbove {above location : Location} (h : above.isAbove location = true) :
    above <+: location := by
  obtain ⟨below, -, rfl⟩ := isAbove_iff.mp h
  exact List.prefix_append _ _

theorem eq_or_isAbove_of_prefix {front location : Location} (h : front <+: location) :
    front = location ∨ front.isAbove location = true := by
  obtain ⟨below, rfl⟩ := h
  by_cases hbelow : below = []
  · exact .inl (by rw [hbelow, List.append_nil])
  · exact .inr (isAbove_iff.mpr ⟨below, hbelow, rfl⟩)

theorem prefix_of_isAbove_concat {above location : Location} {name : Name}
    (h : above.isAbove (location ++ [name]) = true) : above <+: location := by
  obtain ⟨n, hn, rfl⟩ := isAbove_iff_take.mp h
  rw [List.length_append] at hn
  rw [List.take_append_of_le_length (Nat.le_of_lt_succ hn)]
  exact List.take_prefix _ _

theorem isAbove_concat_of_prefix {front before location : Location} {name : Name}
    (h : front <+: before) (hlocation : before ++ [name] = location) :
    front.isAbove location = true := by
  obtain ⟨below, rfl⟩ := h
  refine isAbove_iff.mpr ⟨below ++ [name], ?_, by rw [← List.append_assoc, hlocation]⟩
  exact List.append_ne_nil_of_right_ne_nil _ (List.cons_ne_nil _ _)

end Location

namespace Path

variable {path : Path}

theorem parent_names_append_name (h : path.names ≠ []) :
    path.parent.names ++ [path.name] = path.names := by
  rw [name, List.getLast?_eq_some_getLast h]
  exact List.dropLast_append_getLast h

theorem name_mem (h : path.names ≠ []) : path.name ∈ path.names := by
  rw [name, List.getLast?_eq_some_getLast h]
  exact List.getLast_mem h

end Path

/-! ## 2. Entries

Entries are seen through the disk: what a file of several names holds is kept with the disk, and a
missing right is wrapped around the entry it is about.  The recursion through these wrappings is
done here once for each question that is asked of an entry. -/

namespace Entry

variable {entry : Entry} {bytes : Bytes}

/-- A directory is no link. -/
theorem target?_of_isDirectory (h : entry.isDirectory = true) : entry.target? = none := by
  induction entry with
  | without right entry ih => exact ih h
  | link target => cases h
  | _ => rfl

@[simp]
theorem target?_fill (entry : Entry) (bytes : Bytes) :
    (entry.fill bytes).target? = entry.target? := by
  induction entry with
  | without right entry ih => exact ih
  | _ => rfl

@[simp]
theorem number?_fill (entry : Entry) (bytes : Bytes) :
    (entry.fill bytes).number? = entry.number? := by
  induction entry with
  | without right entry ih => exact ih
  | _ => rfl

/-- A file that has one name holds what it is filled with. -/
theorem bytesOf?_fill (d : Disk) (hdirectory : entry.isDirectory = false)
    (htarget : entry.target? = none) (hnumber : entry.number? = none) :
    d.bytesOf? (entry.fill bytes) = some bytes := by
  induction entry with
  | without right entry ih => exact ih hdirectory htarget hnumber
  | directory => cases hdirectory
  | file old => rfl
  | shared number => cases hnumber
  | link target => cases htarget

/-- The files that have several names hold what their numbers stand for. -/
theorem bytesOf?_of_number? {d : Disk} {number : Nat} (h : entry.number? = some number) :
    d.bytesOf? entry = some ((d.shared.lookup number).getD []) := by
  induction entry with
  | without right entry ih => exact ih h
  | shared number => cases h; rfl
  | _ => cases h

/-- What an entry holds is told by itself, if it has no number. -/
theorem bytesOf?_of_shared_eq {d d' : Disk}
    (h : ∀ number, entry.number? = some number →
      d'.shared.lookup number = d.shared.lookup number) :
    d'.bytesOf? entry = d.bytesOf? entry := by
  induction entry with
  | without right entry ih => exact ih h
  | shared number => rw [Disk.bytesOf?, Disk.bytesOf?, h number rfl]
  | _ => rfl

end Entry

namespace Disk

variable {d : Disk} {location other : Location} {entry : Entry}

theorem entryAt?_nil (d : Disk) : d.entryAt? [] = some .directory := if_pos rfl

theorem ne_nil_of_entryAt?_ne (h : d.entryAt? location ≠ some .directory) : location ≠ [] := by
  rintro rfl
  exact h d.entryAt?_nil

/-- What a list without a location has elsewhere. -/
theorem lookup_filter_ne (entries : List (Location × Entry)) :
    (entries.filter fun e => e.1 != location).lookup other =
      if other = location then none else entries.lookup other := by
  induction entries with
  | nil => rw [List.filter_nil, List.lookup_nil, ite_self]
  | cons e entries ih =>
    obtain ⟨key, kept⟩ := e
    by_cases hremoved : key = location
    · rw [List.filter_cons_of_neg (by simp [hremoved]), ih]
      by_cases hother : other = location
      · rw [if_pos hother, if_pos hother]
      · have hne : (other == key) = false := beq_false_of_ne fun h => hother (h.trans hremoved)
        rw [if_neg hother, if_neg hother, List.lookup_cons, hne]
    · rw [List.filter_cons_of_pos (by simp [hremoved]), List.lookup_cons, List.lookup_cons, ih]
      by_cases hother : other = location
      · have hne : (other == key) = false :=
          beq_false_of_ne fun h => hremoved (h.symm.trans hother)
        rw [if_pos hother, if_pos hother, hne]
      · rw [if_neg hother, if_neg hother]

/-- What is put at a location is there, and elsewhere nothing has changed. -/
theorem entryAt?_put (hne : location ≠ []) :
    (d.put location entry).entryAt? other =
      if other = location then some entry else d.entryAt? other := by
  rw [entryAt?, entryAt?, put, List.lookup_cons, lookup_filter_ne]
  by_cases hother : other = location
  · have heq : (other == location) = true := beq_iff_eq.mpr hother
    rw [if_neg (hother ▸ hne), if_pos hother, if_pos hother, heq]
  · have hneq : (other == location) = false := beq_false_of_ne hother
    rw [if_neg hother, if_neg hother, hneq]

theorem entryAt?_erase (hne : location ≠ []) :
    (d.erase location).entryAt? other =
      if other = location then none else d.entryAt? other := by
  rw [entryAt?, entryAt?, erase, lookup_filter_ne]
  by_cases hother : other = location
  · rw [if_neg (hother ▸ hne), if_pos hother, if_pos hother]
  · rw [if_neg hother, if_neg hother]

/-- A disk on which there are only directories and files, each file with one name and nothing
without a right. -/
def IsPlain (d : Disk) : Prop :=
  ∀ location entry, d.entryAt? location = some entry → entry.isPlain = true

/-- A plain disk on which what lies above an entry is a directory. -/
structure IsTree (d : Disk) : Prop where
  plain : d.IsPlain
  directories : ∀ location entry, d.entryAt? location = some entry →
    ∀ above : Location, above.isAbove location = true → d.entryAt? above = some .directory

/-- Whether a disk is a tree is seen from what it lists. -/
theorem isTree_of_forall_mem (h : ∀ e ∈ d.entries, e.2.isPlain = true ∧
    ∀ n < e.1.length, d.entryAt? (e.1.take n) = some .directory) : d.IsTree := by
  have hlisted : ∀ location entry, d.entryAt? location = some entry → location ≠ [] →
      (location, entry) ∈ d.entries := by
    intro location entry hentry hne
    rw [entryAt?, if_neg hne, List.lookup_eq_some_iff] at hentry
    obtain ⟨front, back, hentries, -⟩ := hentry
    rw [hentries]
    exact List.mem_append_right _ List.mem_cons_self
  constructor
  case plain =>
    intro location entry hentry
    by_cases hroot : location = []
    · rw [hroot, entryAt?_nil] at hentry
      cases hentry
      rfl
    · exact (h _ (hlisted location entry hentry hroot)).1
  case directories =>
    intro location entry hentry above habove
    obtain ⟨n, hn, rfl⟩ := Location.isAbove_iff_take.mp habove
    exact (h _ (hlisted location entry hentry (Location.ne_nil_of_isAbove habove))).2 n hn

/-- At a location of a plain disk there is nothing, a directory or a file. -/
theorem IsPlain.cases (h : d.IsPlain) (location : Location) : d.entryAt? location = none ∨
    d.entryAt? location = some .directory ∨ ∃ bytes, d.entryAt? location = some (.file bytes) := by
  rcases hentry : d.entryAt? location with - | entry
  · exact .inl rfl
  · have hplain := h location entry hentry
    cases entry with
    | directory => exact .inr (.inl rfl)
    | file bytes => exact .inr (.inr ⟨bytes, rfl⟩)
    | _ => cases hplain

theorem IsPlain.none_or_directory (h : d.IsPlain)
    (hfile : ∀ bytes, d.entryAt? location ≠ some (.file bytes)) :
    d.entryAt? location = none ∨ d.entryAt? location = some .directory := by
  rcases h.cases location with hnone | hdirectory | ⟨bytes, hbytes⟩
  · exact .inl hnone
  · exact .inr hdirectory
  · exact absurd hbytes (hfile bytes)

theorem IsPlain.none_or_file (h : d.IsPlain) (hdirectory : d.entryAt? location ≠ some .directory) :
    d.entryAt? location = none ∨ ∃ bytes, d.entryAt? location = some (.file bytes) := by
  rcases h.cases location with hnone | hdirectory' | hfile
  · exact .inl hnone
  · exact absurd hdirectory' hdirectory
  · exact .inr hfile

/-! ## 3. Looking

Where directories lead down and no link is met, following names is reading them one after the other,
however many links might be followed. -/

section

variable {names : List Name} {name : Name} {new : Bool} {links : Nat}
  {turn : Location → List Name → Except FileError Location}

/-- Whether a name leads down and can be looked up. -/
def IsUsable (name : Name) : Prop := name ≠ parentName ∧ isTooLong name = false

instance (name : Name) : Decidable (IsUsable name) := inferInstanceAs (Decidable (_ ∧ _))

theorem lookIn_of_directory (h : d.entryAt? location = some .directory)
    (hshort : isTooLong name = false) :
    d.lookIn location name = .ok (d.entryAt? (location ++ [name])) := by
  simp [lookIn, h, hshort, Entry.isDirectory, Entry.allows]

/-- A way is gone up to the first link, from where it depends on how many links are left. -/
theorem exists_followLinks_eq (d : Disk) (new : Bool) (links : Nat) :
    ∃ turn, d.followLinks new links = d.followBy new turn := by
  cases links with
  | zero => exact ⟨_, rfl⟩
  | succ links => exact ⟨_, rfl⟩

/-- **A way through directories is gone to its end**, up to names that are too long; at the end is
no link, and nothing only if it may be new. -/
theorem followBy_of_directories (hdirect : parentName ∉ names)
    (hdirectories : ∀ front back, front ++ back = names → back ≠ [] →
      d.entryAt? (location ++ front) = some .directory)
    (hnew : d.entryAt? (location ++ names) = none → new = true)
    (hlink : (d.entryAt? (location ++ names)).bind Entry.target? = none) :
    d.followBy new turn location names =
      if names.any isTooLong then .error .nameTooLong else .ok (location ++ names) := by
  induction names generalizing location with
  | nil => simp [followBy]
  | cons name rest ih =>
    rw [List.mem_cons, not_or] at hdirect
    have hhere := hdirectories [] (name :: rest) rfl (List.cons_ne_nil _ _)
    rw [List.append_nil] at hhere
    have hassoc : location ++ name :: rest = location ++ [name] ++ rest := List.append_cons _ _ _
    rw [hassoc] at hnew hlink ⊢
    have hrest := ih hdirect.2 (fun front back h hback => by
      rw [List.append_assoc, List.singleton_append]
      exact hdirectories (name :: front) back (by rw [List.cons_append, h]) hback) hnew hlink
    -- Here the way is stopped, or it ends, or it goes on below.
    by_cases hlong : isTooLong name = true
    · simp [followBy, lookIn, hhere, hlong, Entry.isDirectory, Entry.allows]
    · rw [followBy, lookIn_of_directory hhere (Bool.eq_false_iff.mpr hlong)]
      simp only [if_neg (Ne.symm hdirect.1), List.any_cons, hlong, Bool.false_or, ← hrest]
      cases hnext : d.entryAt? (location ++ [name]) with
      | none =>
        cases rest with
        | nil =>
          rw [List.append_nil] at hnew
          simp [hnew hnext, followBy]
        | cons second rest =>
          rw [hdirectories [name] (second :: rest) rfl (List.cons_ne_nil _ _)] at hnext
          cases hnext
      | some next =>
        have hnolink : next.target? = none := by
          cases rest with
          | nil => simpa [hnext] using hlink
          | cons second rest =>
            rw [hdirectories [name] (second :: rest) rfl (List.cons_ne_nil _ _)] at hnext
            cases hnext
            rfl
        simp only [hnolink]

/-- **A way on which there is nothing but directories** is gone to its end or comes to nothing. -/
theorem followBy_of_none_or_directory (husable : ∀ name ∈ names, IsUsable name)
    (hhere : d.entryAt? location = some .directory)
    (hway : ∀ front, front <+: names → d.entryAt? (location ++ front) = none ∨
      d.entryAt? (location ++ front) = some .directory) :
    (d.followBy false turn location names = .ok (location ++ names) ∧
        d.entryAt? (location ++ names) = some .directory) ∨
      d.followBy false turn location names = .error .notFound := by
  induction names generalizing location with
  | nil =>
    rw [List.append_nil]
    exact .inl ⟨rfl, hhere⟩
  | cons name rest ih =>
    obtain ⟨hname, hshort⟩ := husable name List.mem_cons_self
    rw [followBy, lookIn_of_directory hhere hshort]
    simp only [if_neg hname]
    rcases hway [name] (List.cons_prefix_cons.mpr ⟨rfl, List.nil_prefix⟩) with hnext | hnext
    · simp [hnext]
    · have hassoc : location ++ name :: rest = location ++ [name] ++ rest := List.append_cons _ _ _
      rw [hnext, hassoc]
      refine ih (fun n hn => husable n (List.mem_cons_of_mem _ hn)) hnext fun front hfront => ?_
      rw [List.append_assoc, List.singleton_append]
      exact hway (name :: front) (List.cons_prefix_cons.mpr ⟨rfl, hfront⟩)

theorem followLinks_of_directories (hdirect : parentName ∉ names)
    (hdirectories : ∀ above : Location, above.isAbove names = true →
      d.entryAt? above = some .directory)
    (hnew : d.entryAt? names = none → new = true)
    (hlink : (d.entryAt? names).bind Entry.target? = none) :
    d.followLinks new links [] names =
      if names.any isTooLong then .error .nameTooLong else .ok names := by
  obtain ⟨turn, hturn⟩ := exists_followLinks_eq d new links
  rw [hturn]
  exact followBy_of_directories hdirect (fun front back h hback =>
    hdirectories front (Location.isAbove_iff.mpr ⟨back, hback, h⟩)) hnew hlink

section

variable (husable : ∀ name ∈ names, IsUsable name)

include husable

/-- **A way through directories is gone to its end**, if all names can be looked up. -/
theorem followLinks_eq_ok
    (hdirectories : ∀ above : Location, above.isAbove names = true →
      d.entryAt? above = some .directory)
    (hnew : d.entryAt? names = none → new = true)
    (hlink : (d.entryAt? names).bind Entry.target? = none) :
    d.followLinks new links [] names = .ok names := by
  have hshort : names.any isTooLong = false := by
    simp only [List.any_eq_false]
    intro name hname
    simp [(husable name hname).2]
  rw [followLinks_of_directories (fun hmem => (husable _ hmem).1 rfl) hdirectories hnew hlink,
    hshort]
  rfl

theorem follow_eq_ok
    (hdirectories : ∀ above : Location, above.isAbove names = true →
      d.entryAt? above = some .directory)
    (hentry : d.entryAt? names = some entry) (hlink : entry.target? = none) :
    d.follow [] names = .ok names :=
  followLinks_eq_ok husable hdirectories (by simp [hentry]) (by simpa [hentry] using hlink)

/-- What is there is looked up, if what lies above it are directories. -/
theorem lookUp_eq_ok
    (hdirectories : ∀ above : Location, above.isAbove names = true →
      d.entryAt? above = some .directory)
    (hentry : d.entryAt? names = some entry) (hlink : entry.target? = none) :
    d.lookUp names = .ok entry := by
  simp [lookUp, follow_eq_ok husable hdirectories hentry hlink, hentry]

theorem follow_of_none_or_directory
    (hway : ∀ front, front <+: names →
      d.entryAt? front = none ∨ d.entryAt? front = some .directory) :
    (d.follow [] names = .ok names ∧ d.entryAt? names = some .directory) ∨
      d.follow [] names = .error .notFound := by
  obtain ⟨turn, hturn⟩ := exists_followLinks_eq d false linkLimit
  rw [follow, hturn]
  exact followBy_of_none_or_directory husable d.entryAt?_nil hway

/-- What is not there is not found, if only directories lie above it, as far as there is
anything. -/
theorem lookUp_eq_notFound
    (hway : ∀ above : Location, above.isAbove names = true →
      d.entryAt? above = none ∨ d.entryAt? above = some .directory)
    (hentry : d.entryAt? names = none) : d.lookUp names = .error .notFound := by
  have hway' (front : Location) (hfront : front <+: names) :
      d.entryAt? front = none ∨ d.entryAt? front = some .directory := by
    rcases Location.eq_or_isAbove_of_prefix hfront with rfl | habove
    · exact .inl hentry
    · exact hway front habove
  rcases follow_of_none_or_directory husable hway' with ⟨-, hdirectory⟩ | hfollow
  · simp [hentry] at hdirectory
  · rw [lookUp, hfollow]

end

end

end Disk

/-! ## 4. Changing

An access is a computation that can fail and keeps what it has done by then.  `Access.outcome` runs
it, and `outcome_bind` and `outcome_bind_eq_ok` lead through it step by step, forwards where the
next step is known to succeed, and backwards from a success. -/

/-- What an access gives, and the disk as it leaves it. -/
def Access.outcome {α : Type} (access : Access α) (d : Disk) : Except FileError α × Disk :=
  (ExceptT.run access).run d

namespace Access

variable {α β : Type} {d after : Disk}

theorem outcome_get_bind (f : Disk → Access α) : (get >>= f : Access α).outcome d =
    (f d).outcome d := rfl

/-- What is done after an access that succeeds is done to the disk it leaves. -/
theorem outcome_bind {access : Access α} {f : α → Access β} {value : α}
    (h : access.outcome d = (.ok value, after)) :
    (access >>= f).outcome d = (f value).outcome after := by
  simp only [Access.outcome, ExceptT.run_bind, StateT.run_bind] at h ⊢
  rw [h]
  rfl

/-- Where two accesses one after the other succeed, both do, the second on the disk that the first
leaves. -/
theorem outcome_bind_eq_ok {access : Access α} {f : α → Access β} {value : β}
    (h : (access >>= f).outcome d = (.ok value, after)) :
    ∃ result between, access.outcome d = (.ok result, between) ∧
      (f result).outcome between = (.ok value, after) := by
  simp only [Access.outcome, ExceptT.run_bind, StateT.run_bind] at h ⊢
  cases hrun : (ExceptT.run access).run d with
  | mk result between =>
    rw [hrun] at h
    cases result with
    | error e => cases h
    | ok result => exact ⟨result, between, rfl, h⟩

end Access

namespace Disk

open Access

variable {d : Disk} {location other : Location} {name : Name} {names front : List Name}
  {path : Path}

theorem permits_of_directory (h : d.entryAt? location = some .directory) (right : Right) :
    d.permits right location = true := by
  simp [permits, h, Entry.allows]

/-- A directory that is there already is left as it is. -/
theorem outcome_makeDirectory_of_directory {last : Bool}
    (h : d.lookUp (front ++ [name]) = .ok .directory) :
    (makeDirectory front name last).outcome d = (.ok (), d) := by
  rw [makeDirectory, outcome_get_bind, h]
  rfl

/-- A directory is made where there is nothing, in a directory that may be written to. -/
theorem outcome_makeDirectory_of_none {last : Bool}
    (h : d.lookUp (front ++ [name]) = .error .notFound) (hfront : d.follow [] front = .ok location)
    (hnone : d.entryAt? (location ++ [name]) = none) (hpermits : d.permits .write location = true) :
    (makeDirectory front name last).outcome d =
      (.ok (), d.put (location ++ [name]) .directory) := by
  rw [makeDirectory, outcome_get_bind, h, hfront]
  simp only [hnone, hpermits]
  rfl

/-- Where directories are made. -/
def IsOnWay (location : Location) (names : List Name) (other : Location) : Prop :=
  ∃ front, front ≠ [] ∧ front <+: names ∧ other = location ++ front

theorem isOnWay_cons_iff : IsOnWay location (name :: names) other ↔
    other = location ++ [name] ∨ IsOnWay (location ++ [name]) names other := by
  constructor
  · rintro ⟨front, hne, hfront, rfl⟩
    cases front with
    | nil => exact absurd rfl hne
    | cons first front =>
      obtain ⟨rfl, hrest⟩ := List.cons_prefix_cons.mp hfront
      by_cases hnil : front = []
      · rw [hnil]
        exact .inl rfl
      · exact .inr ⟨front, hnil, hrest, by rw [List.append_assoc, List.singleton_append]⟩
  · rintro (rfl | ⟨front, -, hfront, rfl⟩)
    · exact ⟨[name], List.cons_ne_nil _ _, List.cons_prefix_cons.mpr ⟨rfl, List.nil_prefix⟩, rfl⟩
    · exact ⟨name :: front, List.cons_ne_nil _ _, List.cons_prefix_cons.mpr ⟨rfl, hfront⟩,
        by rw [List.append_assoc, List.singleton_append]⟩

/-- **The next directory is made or is there**, and nothing else changes. -/
theorem outcome_makeDirectory (last : Bool) (husable : ∀ n ∈ location ++ [name], IsUsable n)
    (hdirectories : ∀ above, above <+: location → d.entryAt? above = some .directory)
    (hhere : d.entryAt? (location ++ [name]) = none ∨
      d.entryAt? (location ++ [name]) = some .directory) :
    ∃ next, (makeDirectory location name last).outcome d = (.ok (), next) ∧
      next.entryAt? (location ++ [name]) = some .directory ∧
      ∀ other, other ≠ location ++ [name] → next.entryAt? other = d.entryAt? other := by
  have hne : location ++ [name] ≠ [] := List.append_ne_nil_of_right_ne_nil _ (List.cons_ne_nil _ _)
  have habove (above : Location) (h : above.isAbove (location ++ [name]) = true) :
      d.entryAt? above = some .directory :=
    hdirectories above (Location.prefix_of_isAbove_concat h)
  rcases hhere with hnone | hdirectory
  · have hlocation : d.entryAt? location = some .directory :=
      hdirectories location (List.prefix_refl _)
    have hfollow : d.follow [] location = .ok location :=
      follow_eq_ok (fun n hn => husable n (List.mem_append_left _ hn))
        (fun above h => hdirectories above (Location.prefix_of_isAbove h)) hlocation rfl
    refine ⟨_, outcome_makeDirectory_of_none (lookUp_eq_notFound husable
      (fun above h => .inr (habove above h)) hnone) hfollow hnone
      (permits_of_directory hlocation _), ?_, fun other hother => ?_⟩
    · exact (entryAt?_put hne).trans (if_pos rfl)
    · exact (entryAt?_put hne).trans (if_neg hother)
  · exact ⟨d, outcome_makeDirectory_of_directory (lookUp_eq_ok husable habove hdirectory rfl),
      hdirectory, fun _ _ => rfl⟩

/-- Directories are made on the way, and nothing else is, if there are only directories on it. -/
theorem outcome_makeFrom (husable : ∀ n ∈ location ++ names, IsUsable n)
    (hdirectories : ∀ above, above <+: location → d.entryAt? above = some .directory)
    (hway : ∀ other, IsOnWay location names other →
      d.entryAt? other = none ∨ d.entryAt? other = some .directory) :
    ∃ after, (makeFrom location names).outcome d = (.ok (), after) ∧
      (∀ other, IsOnWay location names other → after.entryAt? other = some .directory) ∧
      ∀ other, ¬ IsOnWay location names other → after.entryAt? other = d.entryAt? other := by
  induction names generalizing location d with
  | nil =>
    refine ⟨d, rfl, fun other hway => ?_, fun _ _ => rfl⟩
    obtain ⟨front, hne, hfront, -⟩ := hway
    exact absurd (List.prefix_nil.mp hfront) hne
  | cons name names ih =>
    rw [List.append_cons] at husable
    obtain ⟨next, houtcome, hhere, hsame⟩ := outcome_makeDirectory names.isEmpty
      (fun n hn => husable n (List.mem_append_left _ hn)) hdirectories
      (hway _ (isOnWay_cons_iff.mpr (.inl rfl)))
    have hdirectories' (above : Location) (habove : above <+: location ++ [name]) :
        next.entryAt? above = some .directory := by
      by_cases heq : above = location ++ [name]
      · rw [heq, hhere]
      · rw [hsame above heq]
        exact hdirectories above ((List.prefix_concat_iff.mp habove).resolve_left heq)
    have hway' (other : Location) (h : IsOnWay (location ++ [name]) names other) :
        next.entryAt? other = none ∨ next.entryAt? other = some .directory := by
      by_cases hother : other = location ++ [name]
      · rw [hother, hhere]
        exact .inr rfl
      · rw [hsame other hother]
        exact hway other (isOnWay_cons_iff.mpr (.inr h))
    obtain ⟨after, hrest, hmade, hkept⟩ := ih husable hdirectories' hway'
    refine ⟨after, (outcome_bind houtcome).trans hrest, fun other hway => ?_, fun other hway => ?_⟩
    · by_cases hlater : IsOnWay (location ++ [name]) names other
      · exact hmade other hlater
      · rw [hkept other hlater, (isOnWay_cons_iff.mp hway).resolve_right hlater, hhere]
    · rw [isOnWay_cons_iff, not_or] at hway
      rw [hkept other hway.2, hsame other hway.1]

/-! ## 5. Accesses to files -/

theorem isOnWay_parent_iff : IsOnWay [] path.parent.names other ↔
    other ≠ [] ∧ other.isAbove path.names = true := by
  rw [Location.isAbove_iff]
  constructor
  · rintro ⟨front, hne, ⟨rest, hrest⟩, rfl⟩
    have hnames : path.names ≠ [] := by
      rintro hnil
      rw [Path.parent, hnil] at hrest
      exact hne (List.append_eq_nil_iff.mp hrest).1
    refine ⟨hne, rest ++ [path.names.getLast hnames],
      List.append_ne_nil_of_right_ne_nil _ (List.cons_ne_nil _ _), ?_⟩
    rw [← List.append_assoc, hrest]
    exact List.dropLast_append_getLast hnames
  · rintro ⟨hne, below, hbelow, hnames⟩
    refine ⟨other, hne, ⟨below.dropLast, ?_⟩, rfl⟩
    rw [Path.parent, ← hnames, List.dropLast_append_of_ne_nil hbelow]

section

variable (husable : ∀ name ∈ path.names, IsUsable name)

include husable

/-- **Directories are made above a path**, if only directories are above it. -/
theorem outcome_makeDirectories (hway : ∀ above : Location, above.isAbove path.names = true →
      d.entryAt? above = none ∨ d.entryAt? above = some .directory) :
    ∃ after, (makeDirectories path.parent).outcome d = (.ok (), after) ∧
      (∀ above : Location, above.isAbove path.names = true →
        after.entryAt? above = some .directory) ∧
      ∀ other : Location, other.isAbove path.names = false →
        after.entryAt? other = d.entryAt? other := by
  have husable' : ∀ name ∈ [] ++ path.parent.names, IsUsable name :=
    fun name hname => husable name ((List.dropLast_sublist _).mem hname)
  have hroot (above : Location) (habove : above <+: []) : d.entryAt? above = some .directory := by
    rw [List.prefix_nil.mp habove, entryAt?_nil]
  obtain ⟨after, houtcome, hmade, hkept⟩ := outcome_makeFrom husable' hroot
    fun other h => hway other (isOnWay_parent_iff.mp h).2
  refine ⟨after, houtcome, fun above habove => ?_, fun other hother => ?_⟩
  · by_cases hnil : above = []
    · rw [hnil, entryAt?_nil]
    · exact hmade above (isOnWay_parent_iff.mpr ⟨hnil, habove⟩)
  · refine hkept other fun hway => ?_
    rw [(isOnWay_parent_iff.mp hway).2] at hother
    cases hother

/-- **A file is written** where a file or nothing is, if directories lie above it. -/
theorem outcome_putFile (bytes : Bytes)
    (hdirectories : ∀ above : Location, above.isAbove path.names = true →
      d.entryAt? above = some .directory)
    (hentry : d.entryAt? path.names = none ∨ ∃ old, d.entryAt? path.names = some (.file old)) :
    (putFile path bytes).outcome d = (.ok (), d.put path.names (.file bytes)) := by
  have hne : path.names ≠ [] := by
    refine ne_nil_of_entryAt?_ne (d := d) ?_
    rcases hentry with hnone | ⟨old, hfile⟩
    · simp [hnone]
    · simp [hfile]
  have hspot : d.spot path = .ok path.names := by
    refine followLinks_eq_ok husable hdirectories (fun _ => rfl) ?_
    rcases hentry with hnone | ⟨old, hfile⟩
    · simp [hnone]
    · simp [hfile, Entry.target?]
  have hpermits : d.permits .write path.names.dropLast = true :=
    permits_of_directory (hdirectories _ (Location.dropLast_isAbove hne)) _
  rw [putFile, outcome_get_bind, hspot]
  rcases hentry with hnone | ⟨old, hfile⟩
  · simp only [hnone, hpermits]
    rfl
  · simp only [hfile]
    rfl

/-- **A file is deleted**, if directories lie above it. -/
theorem outcome_deleteFile_of_file {bytes : Bytes}
    (hdirectories : ∀ above : Location, above.isAbove path.names = true →
      d.entryAt? above = some .directory)
    (hentry : d.entryAt? path.names = some (.file bytes)) :
    (deleteFile path).outcome d = (.ok true, d.erase path.names) := by
  have hne : path.names ≠ [] := ne_nil_of_entryAt?_ne (d := d) (by simp [hentry])
  have hparent : d.entryAt? path.parent.names = some .directory :=
    hdirectories _ (Location.dropLast_isAbove hne)
  have hfollow : d.follow [] path.parent.names = .ok path.parent.names :=
    follow_eq_ok (fun name hname => husable name ((List.dropLast_sublist _).mem hname))
      (fun above habove => hdirectories above (Location.isAbove_dropLast habove)) hparent rfl
  obtain ⟨hname, hshort⟩ := husable _ (Path.name_mem hne)
  have hlook : d.lookIn path.parent.names path.name = .ok (some (.file bytes)) := by
    rw [lookIn_of_directory hparent hshort, Path.parent_names_append_name hne, hentry]
  rw [deleteFile, outcome_get_bind, hfollow]
  simp only [hne, hname, or_self, if_false, hlook, permits_of_directory hparent,
    Path.parent_names_append_name hne]
  rfl

/-- **That a file is not there is no failure of deleting it**, if only directories are above it. -/
theorem outcome_deleteFile_of_none
    (hway : ∀ above : Location, above.isAbove path.names = true →
      d.entryAt? above = none ∨ d.entryAt? above = some .directory)
    (hentry : d.entryAt? path.names = none) :
    (deleteFile path).outcome d = (.ok false, d) := by
  have hne : path.names ≠ [] := ne_nil_of_entryAt?_ne (d := d) (by simp [hentry])
  obtain ⟨hname, hshort⟩ := husable _ (Path.name_mem hne)
  have hway' (front : Location) (hfront : front <+: path.parent.names) :
      d.entryAt? front = none ∨ d.entryAt? front = some .directory := by
    exact hway front
      (Location.isAbove_concat_of_prefix hfront (Path.parent_names_append_name hne))
  have husable' : ∀ name ∈ path.parent.names, IsUsable name :=
    fun name hname => husable name ((List.dropLast_sublist _).mem hname)
  rw [deleteFile, outcome_get_bind]
  rcases follow_of_none_or_directory husable' hway' with ⟨hfollow, hparent⟩ | hfollow
  · have hlook : d.lookIn path.parent.names path.name = .ok none := by
      rw [lookIn_of_directory hparent hshort, Path.parent_names_append_name hne, hentry]
    rw [hfollow]
    simp only [hne, hname, or_self, if_false, hlook]
    rfl
  · rw [hfollow]
    rfl

end

end Disk

end TaskNotes
