/-
# What a disk shows

Reading tells less than a disk holds: a file is decoded, and its lines are made uniform.  What can
be told of an entry without changing anything is its view (`Disk.view`): whether it is a directory,
where it leads if it is a link, its rights, and its text.  Disks on which every location has the
same view look alike (`Disk.LooksLike`), and they give the same answers for every path
(`Disk.LooksLike.answersAlike`), also for one that goes up on its way or along links.

The other way round, what a path leads to is told by the entries on the way.  This is said here of
plain disks, where a way has no links and ends where its names lead, up to names that are too long
(`Disk.find_of_above`, `Disk.IsTree.find_below_file`).

Two disks can look alike without being the same: a text with other line ends is shown the same, and
which number a file of several names has is not shown at all.  This is what leaving out commands
relies on.  A write whose text is there already is left out although the bytes of the file may
differ from those that it would have written, so the disks that come of it are not equal, and
cannot be told apart by reading.
-/
import TaskNotes.Proofs.Routes
import TaskNotes.Proofs.Utf8

namespace TaskNotes

namespace Disk

variable {d other : Disk} {location reached : Location} {names : List Name} {path : Path}
  {entry : Entry} {new : Bool} {n : Nat}

/-! ## 1. What looking tells of the entries

On a plain disk no way meets a link, so it ends where its names lead. -/

theorem IsPlain.target?_eq_none (h : d.IsPlain) (hentry : d.entryAt? location = some entry) :
    entry.target? = none := by
  have hplain := h location entry hentry
  cases entry with
  | directory => rfl
  | file bytes => rfl
  | _ => cases hplain

/-- A way that does not go up ends where its names lead. -/
theorem IsPlain.eq_append_of_followLinks (hplain : d.IsPlain) (hdirect : parentName ∉ names)
    (h : d.followLinks new n location names = .ok reached) :
    reached = location ++ names ∧ ∀ name ∈ names, isTooLong name = false := by
  refine followLinks_induction (motive := fun _ location names => parentName ∉ names →
    reached = location ++ names ∧ ∀ name ∈ names, isTooLong name = false)
    ?nil ?up ?ends ?down ?link h hdirect
  case nil => simp
  case up => exact fun _ _ _ _ _ hdirect => absurd List.mem_cons_self hdirect
  case ends =>
    intro _ _ location name _ hshort _ hfinal _ _
    simpa [hfinal] using hshort
  case down =>
    intro _ location name rest entry _ hshort _ _ _ _ ih hdirect
    obtain ⟨hreached, hnames⟩ := ih fun hmem => hdirect (List.mem_cons_of_mem _ hmem)
    simpa [hreached, hshort] using hnames
  case link =>
    intro _ location name rest entry target _ _ _ hentry htarget _ _ _
    rw [hplain.target?_eq_none hentry] at htarget
    cases htarget

/-- **What a path leads to is there**, and the names on the way are short. -/
theorem IsPlain.entryAt?_of_find (hplain : d.IsPlain) (hdirect : parentName ∉ path.names)
    (h : d.find path = .ok entry) :
    d.entryAt? path.names = some entry ∧ ∀ name ∈ path.names, isTooLong name = false := by
  rw [find, lookUp] at h
  split at h
  · cases h
  next reached hfollow =>
    obtain ⟨rfl, hnames⟩ := hplain.eq_append_of_followLinks hdirect hfollow
    rw [List.nil_append] at h
    split at h
    · cases h
    next hentry =>
      cases h
      exact ⟨hentry, hnames⟩

theorem IsPlain.followBy_append (hplain : d.IsPlain) (more : List Name)
    {turn : Location → List Name → Except FileError Location} :
    d.followBy false turn location (names ++ more) =
      (d.followBy false turn location names).bind fun reached =>
        d.followBy false turn reached more := by
  induction names generalizing location with
  | nil => rfl
  | cons name rest ih =>
    rw [List.cons_append, followBy, followBy]
    cases hlook : d.lookIn location name with
    | error e => rfl
    | ok next =>
      obtain ⟨-, -, hnext⟩ := lookIn_eq_ok_iff.mp hlook
      by_cases hup : name = parentName
      · simp only [if_pos hup, ih]
      · simp only [if_neg hup]
        cases next with
        | none => rfl
        | some entry => simp only [hplain.target?_eq_none hnext, ih]

theorem follow_of_above (hdirect : parentName ∉ names)
    (habove : ∀ above : Location, above.isAbove names = true →
      d.entryAt? above = some .directory)
    (h : d.entryAt? names = some entry) (hlink : entry.target? = none) :
    d.follow [] names = .ok names ∨ d.follow [] names = .error .nameTooLong := by
  have hfollow : d.follow [] names = _ := followLinks_of_directories hdirect habove
    (by simp [h]) (by simpa [h] using hlink)
  rw [hfollow]
  by_cases hlong : names.any isTooLong = true
  · simp [hlong]
  · simp [hlong]

/-- **What is there is found** below directories, or a name is too long. -/
theorem find_of_above (hdirect : parentName ∉ path.names)
    (habove : ∀ above : Location, above.isAbove path.names = true →
      d.entryAt? above = some .directory)
    (h : d.entryAt? path.names = some entry) (hlink : entry.target? = none) :
    d.find path = .ok entry ∨ d.find path = .error .nameTooLong := by
  rcases follow_of_above hdirect habove h hlink with hfollow | hfollow
  · simp [find, lookUp, hfollow, h]
  · simp [find, lookUp, hfollow]

section

variable (htree : d.IsTree) (hdirect : parentName ∉ path.names)

include htree hdirect

/-- **No path leads through a file**. -/
theorem IsTree.find_below_file {above : Location} (habove : above.isAbove path.names = true)
    {bytes : Bytes} (h : d.entryAt? above = some (.file bytes)) :
    d.find path = .error .notDirectory ∨ d.find path = .error .nameTooLong := by
  obtain ⟨below, hbelow, hnames⟩ := Location.isAbove_iff.mp habove
  obtain ⟨name, rest, rfl⟩ := List.exists_cons_of_ne_nil hbelow
  have hdirect' : parentName ∉ above :=
    fun hmem => hdirect (hnames ▸ List.mem_append_left _ hmem)
  obtain ⟨turn, hturn⟩ := exists_followLinks_eq d false linkLimit
  have hpath : d.follow [] path.names =
      (d.follow [] above).bind fun reached => d.followBy false turn reached (name :: rest) := by
    simp only [follow, hturn, ← hnames, htree.plain.followBy_append]
  have hstop : d.lookIn above name = .error .notDirectory := by
    simp [lookIn, h, Entry.isDirectory]
  rcases follow_of_above hdirect' (htree.directories _ _ h) h rfl with hfollow | hfollow
  · simp [find, lookUp, hpath, hfollow, Except.bind, followBy, hstop]
  · simp [find, lookUp, hpath, hfollow, Except.bind]

/-- On a tree, what is not found is not there. -/
theorem IsTree.entryAt?_of_find_notFound (h : d.find path = .error .notFound) :
    d.entryAt? path.names = none := by
  cases hentry : d.entryAt? path.names with
  | none => rfl
  | some entry =>
    rcases find_of_above hdirect (htree.directories _ _ hentry) hentry
      (htree.plain.target?_eq_none hentry) with hfind | hfind
    · simp [h] at hfind
    · simp [h] at hfind

end

end Disk

/-! ## 2. Disks that look alike

Everything that is asked of a disk without changing it is asked of views: a way goes on by whether
an entry is a directory or a link and by its right to be searched, and what is found at the end is
decoded.  So one lemma for a single step of a way is enough, and the rest follows the recursion of
`Disk.followLinks`. -/

/-- What the text of a file is read as: with uniform lines, if it is a text. -/
def shownText (bytes : Bytes) : Except Utf8Error (List Char) :=
  (decodeUtf8 bytes).map uniformLines

/-- A text that has been written is shown with uniform lines. -/
theorem shownText_utf8 (text : List Char) : shownText (utf8 text) = .ok (uniformLines text) := by
  simp [shownText, decodeUtf8_utf8, Except.map]

/-- What can be told of an entry without changing anything: what kind of entry it is, where it
leads if it is a link, what one may do with it, and what text it holds. -/
structure View where
  isDirectory : Bool
  target? : Option Path
  allows : Right → Bool
  text? : Option (Except Utf8Error (List Char))

namespace Disk

/-- What can be told of an entry on a disk. -/
def view (d : Disk) (entry : Entry) : View :=
  ⟨entry.isDirectory, entry.target?, (entry.allows ·), (d.bytesOf? entry).map shownText⟩

/-- Whether the entries of two disks are shown the same. -/
def LooksLike (d other : Disk) : Prop :=
  ∀ location, (d.entryAt? location).map d.view = (other.entryAt? location).map other.view

variable {d other : Disk} {location : Location} {name : Name} {names : List Name} {new : Bool}

theorem view_file_eq_iff {bytes bytes' : Bytes} :
    d.view (.file bytes) = other.view (.file bytes') ↔ shownText bytes = shownText bytes' := by
  simp [view, Entry.isDirectory, Entry.target?, Entry.allows, bytesOf?]

/-- On plain disks an entry is shown the same. -/
theorem view_eq_of_isPlain {entry : Entry} (h : entry.isPlain = true) :
    d.view entry = other.view entry := by
  cases entry with
  | directory => rfl
  | file bytes => rfl
  | _ => cases h

theorem LooksLike.lookIn_eq (h : d.LooksLike other) :
    (d.lookIn location name).map (Option.map d.view) =
      (other.lookIn location name).map (Option.map other.view) := by
  have hhere := h location
  have hnext := h (location ++ [name])
  simp only [lookIn]
  cases hd : d.entryAt? location with
  | none =>
    cases ho : other.entryAt? location with
    | none => rfl
    | some here => simp [hd, ho] at hhere
  | some here =>
    cases ho : other.entryAt? location with
    | none => simp [hd, ho] at hhere
    | some here' =>
      simp only [hd, ho, Option.map_some, Option.some.injEq] at hhere
      have hdirectory : here.isDirectory = here'.isDirectory := congrArg View.isDirectory hhere
      have hsearch : here.allows .search = here'.allows .search :=
        congrFun (congrArg View.allows hhere) .search
      simp only [hdirectory, hsearch]
      split
      · rfl
      · split
        · rfl
        · split
          · rfl
          · simpa [Except.map] using hnext

/-- **Disks that look alike have the same ways.** -/
theorem LooksLike.followBy_eq (h : d.LooksLike other)
    {turn : Location → List Name → Except FileError Location} :
    d.followBy new turn location names = other.followBy new turn location names := by
  induction names generalizing location with
  | nil => rfl
  | cons name rest ih =>
    have hlook : (d.lookIn location name).map (Option.map d.view) =
        (other.lookIn location name).map (Option.map other.view) := h.lookIn_eq
    simp only [followBy]
    cases hd : d.lookIn location name with
    | error e =>
      cases ho : other.lookIn location name with
      | error e' =>
        simp only [hd, ho, Except.map, Except.error.injEq] at hlook ⊢
        exact hlook
      | ok next => simp [hd, ho, Except.map] at hlook
    | ok next =>
      cases ho : other.lookIn location name with
      | error e => simp [hd, ho, Except.map] at hlook
      | ok next' =>
        simp only [hd, ho, Except.map, Except.ok.injEq] at hlook
        -- The same is found in both directories: nothing, or two entries with the same target.
        cases next with
        | none =>
          cases next' with
          | none => simp only [ih]
          | some entry => simp at hlook
        | some entry =>
          cases next' with
          | none => simp at hlook
          | some entry' =>
            simp only [Option.map_some, Option.some.injEq] at hlook
            have htarget : entry.target? = entry'.target? := congrArg View.target? hlook
            simp only [htarget, ih]

theorem LooksLike.followLinks_eq (h : d.LooksLike other) (n : Nat) :
    d.followLinks new n location names = other.followLinks new n location names := by
  induction n generalizing location names with
  | zero => exact h.followBy_eq
  | succ n ih =>
    have hturn : d.followLinks new n = other.followLinks new n := by
      funext location names
      exact ih
    rw [followLinks, followLinks, hturn]
    exact h.followBy_eq

/-- A path leads to the same view on disks that look alike, or fails for the same reason. -/
theorem LooksLike.find_eq (h : d.LooksLike other) (path : Path) :
    (d.find path).map d.view = (other.find path).map other.view := by
  simp only [find, lookUp, follow, h.followLinks_eq]
  cases other.followLinks false linkLimit [] path.names with
  | error e => rfl
  | ok reached =>
    have hreached := h reached
    simp only
    rcases hd : d.entryAt? reached with - | entry <;>
      rcases ho : other.entryAt? reached with - | entry' <;>
      simp_all [Except.map]

/-- Reading goes by what a path leads to and how it is shown. -/
theorem readText_eq (d : Disk) (path : Path) : d.readText path =
    match (d.find path).map d.view with
    | .error e => .error (.file e)
    | .ok view =>
      if !view.allows .read then .error (.file .permissionDenied)
      else
        match view.text? with
        | none => .error (.file .isDirectory)
        | some text => text.mapError .encoding := by
  rw [readText]
  cases d.find path with
  | error e => rfl
  | ok entry =>
    simp only [Except.map, view]
    cases entry.allows .read with
    | false => rfl
    | true =>
      cases d.bytesOf? entry with
      | none => rfl
      | some bytes =>
        simp only [Option.map_some, shownText]
        cases decodeUtf8 bytes with
        | error e => rfl
        | ok text => rfl

/-- **Disks that look alike are read alike.** -/
theorem LooksLike.readText?_eq (h : d.LooksLike other) (path : Path) :
    d.readText? path = other.readText? path := by
  rw [readText?, readText?, readText_eq, readText_eq, h.find_eq]

/-- **Disks that look alike have the same paths.** -/
theorem LooksLike.exists?_eq (h : d.LooksLike other) (path : Path) :
    d.exists? path = other.exists? path := by
  have hfind := h.find_eq path
  rw [exists?, exists?]
  cases hd : d.find path with
  | error e =>
    cases ho : other.find path with
    | error e' => simp_all [Except.map]
    | ok entry' => simp_all [Except.map]
  | ok entry =>
    cases ho : other.find path with
    | error e' => simp_all [Except.map]
    | ok entry' => rfl

/-- Whether two disks give the same answers for every path. -/
def AnswersAlike (d other : Disk) : Prop :=
  ∀ path, d.readText? path = other.readText? path ∧ d.exists? path = other.exists? path

theorem LooksLike.answersAlike (h : d.LooksLike other) : d.AnswersAlike other :=
  fun path => ⟨h.readText?_eq path, h.exists?_eq path⟩

end Disk

end TaskNotes
