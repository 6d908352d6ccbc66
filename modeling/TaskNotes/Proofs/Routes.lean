/-
# Ways on a disk with links

On a disk without links a path stands for the names it is written with.  With links it does not:
where a way ends depends on every link it passes, and a link can be changed, or come to be, while
the way is used again.  This module keeps track of that.  The route of a way (`Disk.route`) says
where the way ends and which locations it has passed before.  It asks for nothing but links, so it
is also there for a way that leads to nothing yet.

* A way that is followed ends where its route ends, and a longer route of the same way is the same
  (`walk_of_followLinks`).
* A route depends on the links at the locations it meets and on nothing else (`walk_congr`).  So it
  stays what it is as long as no link comes, goes or changes there.
* A way that is followed is followed still when everything at the locations that it passes is as it
  was (`followLinks_of_keeps`); what is new there does no harm.  This is also why a file that has
  just been written is found.
* A way that is followed ends at no link (`target?_of_followLinks`), because every directory that it
  comes through has been searched.

The other half is what an access that succeeds has done, on any disk: `makeFrom_induction` for
directories, which are made one at a time, `outcome_putFile_eq_ok` and `outcome_deleteFile_eq_ok`.
Nothing is assumed here of the disk, not even that what lies above an entry is a directory.
-/
import TaskNotes.Proofs.DiskAccess

namespace TaskNotes

/-! ## 1. Routes

A route meets the locations that it passes and the one where it ends. -/

namespace Route

/-- Whether a route comes by a location or ends there. -/
def Meets (t : Route) (location : Location) : Prop := location ∈ t.passed ∨ location = t.place

theorem meets_after {t : Route} {location other : Location} :
    (t.after location).Meets other ↔ other = location ∨ t.Meets other := by
  simp only [Meets, after, List.mem_cons]
  tauto

theorem meets_andThen_right {t other : Route} {location : Location} (h : other.Meets location) :
    (t.andThen other).Meets location := by
  rcases h with h | h
  · exact .inl (List.mem_append_right _ h)
  · exact .inr h

theorem andThen_assoc (t u v : Route) : (t.andThen u).andThen v = t.andThen (u.andThen v) := by
  simp [andThen]

theorem andThen_right_injective {t u v : Route} (h : t.andThen u = t.andThen v) : u = v := by
  obtain ⟨hpassed, hplace⟩ := Route.mk.inj h
  obtain ⟨passed, place⟩ := u
  obtain ⟨passed', place'⟩ := v
  obtain rfl : passed = passed' := List.append_cancel_left hpassed
  obtain rfl : place = place' := hplace
  rfl

end Route

section

variable {target? target?' : Location → Option Path}
  {turn turn' : Location → List Name → Route} {location other : Location} {name : Name}
  {names more : List Name}

theorem walkBy_cons_parent : walkBy target? turn location (parentName :: names) =
    (walkBy target? turn location.dropLast names).after location := by
  simp [walkBy]

theorem walkBy_cons_of_none (hname : name ≠ parentName)
    (h : target? (location ++ [name]) = none) : walkBy target? turn location (name :: names) =
      (walkBy target? turn (location ++ [name]) names).after location := by
  simp [walkBy, hname, h]

theorem walkBy_cons_of_some {target : Path} (hname : name ≠ parentName)
    (h : target? (location ++ [name]) = some target) :
    walkBy target? turn location (name :: names) =
      (((turn (linkStart target location) target.names).andThen (walkBy target? turn
        (turn (linkStart target location) target.names).place names)).after
          (location ++ [name])).after location := by
  simp [walkBy, hname, h]

/-- A way is gone in parts. -/
theorem walkBy_append : walkBy target? turn location (names ++ more) =
    (walkBy target? turn location names).andThen
      (walkBy target? turn (walkBy target? turn location names).place more) := by
  induction names generalizing location with
  | nil => rfl
  | cons name names ih =>
    rw [List.cons_append]
    by_cases hname : name = parentName
    · rw [hname, walkBy_cons_parent, walkBy_cons_parent, ih]
      rfl
    · cases htarget : target? (location ++ [name]) with
      | none =>
        rw [walkBy_cons_of_none hname htarget, walkBy_cons_of_none hname htarget, ih]
        rfl
      | some target =>
        rw [walkBy_cons_of_some hname htarget, walkBy_cons_of_some hname htarget, ih,
          ← Route.andThen_assoc]
        rfl

/-- A way that goes on passes where it begins. -/
theorem mem_passed_walkBy_cons :
    location ∈ (walkBy target? turn location (name :: names)).passed := by
  by_cases hname : name = parentName
  · rw [hname, walkBy_cons_parent]
    exact List.mem_cons_self
  · cases htarget : target? (location ++ [name]) with
    | none =>
      rw [walkBy_cons_of_none hname htarget]
      exact List.mem_cons_self
    | some target =>
      rw [walkBy_cons_of_some hname htarget]
      exact List.mem_cons_self

theorem meets_walkBy_start : (walkBy target? turn location names).Meets location := by
  cases names with
  | nil => exact .inr rfl
  | cons name names => exact .inl mem_passed_walkBy_cons

/-- A way passes where it ends for the time being, if it goes on from there. -/
theorem place_mem_passed_walkBy (hmore : more ≠ []) :
    (walkBy target? turn location names).place ∈
      (walkBy target? turn location (names ++ more)).passed := by
  obtain ⟨name, more, rfl⟩ := List.exists_cons_of_ne_nil hmore
  rw [walkBy_append]
  exact List.mem_append_right _ mem_passed_walkBy_cons

/-- A way depends on the links that it comes by. -/
theorem walkBy_congr
    (hlinks : ∀ l, (walkBy target? turn location names).Meets l → target?' l = target? l)
    (hturn : ∀ l ns, (∀ m, (turn l ns).Meets m →
      (walkBy target? turn location names).Meets m) → turn' l ns = turn l ns) :
    walkBy target?' turn' location names = walkBy target? turn location names := by
  induction names generalizing location with
  | nil => rfl
  | cons name names ih =>
    by_cases hname : name = parentName
    · subst hname
      rw [walkBy_cons_parent] at hlinks hturn ⊢
      rw [walkBy_cons_parent, ih (fun l hl => hlinks l (Route.meets_after.mpr (.inr hl)))
        fun l ns h => hturn l ns fun m hm => Route.meets_after.mpr (.inr (h m hm))]
    · cases htarget : target? (location ++ [name]) with
      | none =>
        rw [walkBy_cons_of_none hname htarget] at hlinks hturn ⊢
        have htarget' : target?' (location ++ [name]) = none := by
          rw [hlinks _ (Route.meets_after.mpr (.inr meets_walkBy_start)), htarget]
        rw [walkBy_cons_of_none hname htarget',
          ih (fun l hl => hlinks l (Route.meets_after.mpr (.inr hl)))
          fun l ns h => hturn l ns fun m hm => Route.meets_after.mpr (.inr (h m hm))]
      | some target =>
        rw [walkBy_cons_of_some hname htarget] at hlinks hturn ⊢
        have hinner {l : Location} (hl : ((turn (linkStart target location) target.names).andThen
            (walkBy target? turn (turn (linkStart target location) target.names).place
              names)).Meets l) := Route.meets_after.mpr (.inr (a := l = location)
                (Route.meets_after.mpr (.inr (a := l = location ++ [name]) hl)))
        have htarget' : target?' (location ++ [name]) = some target := by
          rw [hlinks _ (Route.meets_after.mpr (.inr (Route.meets_after.mpr (.inl rfl)))), htarget]
        have hturn' : turn' (linkStart target location) target.names =
            turn (linkStart target location) target.names := by
          refine hturn _ _ fun m hm => hinner ?_
          rcases hm with hm | rfl
          · exact .inl (List.mem_append_left _ hm)
          · exact Route.meets_andThen_right meets_walkBy_start
        rw [walkBy_cons_of_some hname htarget', hturn',
          ih (fun l hl => hlinks l (hinner (Route.meets_andThen_right hl)))
          fun l ns h => hturn l ns fun m hm => hinner (Route.meets_andThen_right (h m hm))]

/-- **A route depends on the links that it meets**, and on nothing else. -/
theorem walk_congr (depth : Nat) (h : ∀ l, (walk target? depth location names).Meets l →
    target?' l = target? l) :
    walk target?' depth location names = walk target? depth location names := by
  induction depth generalizing location names with
  | zero => rfl
  | succ depth ih =>
    refine walkBy_congr h fun l ns hl => ?_
    exact ih fun m hm => h m (hl m hm)

theorem walk_cons_parent (depth : Nat) : walk target? (depth + 1) location (parentName :: names) =
    (walk target? (depth + 1) location.dropLast names).after location :=
  walkBy_cons_parent

theorem walk_cons_of_none (depth : Nat) (hname : name ≠ parentName)
    (h : target? (location ++ [name]) = none) :
    walk target? (depth + 1) location (name :: names) =
      (walk target? (depth + 1) (location ++ [name]) names).after location :=
  walkBy_cons_of_none hname h

theorem walk_cons_of_some (depth : Nat) {target : Path} (hname : name ≠ parentName)
    (h : target? (location ++ [name]) = some target) :
    walk target? (depth + 1) location (name :: names) =
      (((walk target? depth (linkStart target location) target.names).andThen
        (walk target? (depth + 1) (walk target? depth (linkStart target location)
          target.names).place names)).after (location ++ [name])).after location :=
  walkBy_cons_of_some hname h

/-- **Without links** a way passes what lies above its end, and ends where its names lead. -/
theorem walk_of_forall_none (h : ∀ l, target? l = none) (hdirect : parentName ∉ names)
    (depth : Nat) : (walk target? (depth + 1) location names).place = location ++ names ∧
      ∀ l ∈ (walk target? (depth + 1) location names).passed,
        ∃ front back, back ≠ [] ∧ front ++ back = names ∧ l = location ++ front := by
  induction names generalizing location with
  | nil => exact ⟨(List.append_nil _).symm, fun _ hl => by cases hl⟩
  | cons name names ih =>
    rw [List.mem_cons, not_or] at hdirect
    obtain ⟨hplace, hpassed⟩ := @ih (location ++ [name]) hdirect.2
    rw [walk_cons_of_none depth (Ne.symm hdirect.1) (h _)]
    refine ⟨hplace.trans (List.append_cons _ _ _).symm, fun l hl => ?_⟩
    rcases List.mem_cons.mp hl with rfl | hl
    · exact ⟨[], name :: names, List.cons_ne_nil _ _, rfl, (List.append_nil _).symm⟩
    · obtain ⟨front, back, hback, hnames, rfl⟩ := hpassed l hl
      exact ⟨name :: front, back, hback, by rw [List.cons_append, hnames],
        (List.append_cons _ _ _).symm⟩

theorem walk_succ_append (depth : Nat) : walk target? (depth + 1) location (names ++ more) =
    (walk target? (depth + 1) location names).andThen
      (walk target? (depth + 1) (walk target? (depth + 1) location names).place more) :=
  walkBy_append

end

namespace Disk

/-- The path that stands at a location, if a link does. -/
def target? (d : Disk) (location : Location) : Option Path :=
  (d.entryAt? location).bind Entry.target?

/-- The way along names from the root, whether it leads to anything or not. -/
def route (d : Disk) (names : List Name) : Route := walk d.target? (linkLimit + 1) [] names

variable {d d' after : Disk} {new : Bool} {n : Nat} {location final : Location} {name : Name}
  {names rest : List Name} {entry : Entry} {target : Path}

/-! ## 2. Ways that are followed

A way that is followed goes on by one name after the other, and each time the directory that it has
come to is searched.  Where it meets a link, it is the way along the target of the link and then
along the names that are left, with one link less to follow.  All that is proved here of such a way
goes by these cases (`followLinks_induction`). -/

/-- Whether names can be looked up in a directory. -/
def IsSearchable (d : Disk) (location : Location) : Prop :=
  ∃ here, d.entryAt? location = some here ∧ here.isDirectory = true ∧ here.allows .search = true

theorem lookIn_eq_ok_iff {next : Option Entry} : d.lookIn location name = .ok next ↔
    d.IsSearchable location ∧ isTooLong name = false ∧ d.entryAt? (location ++ [name]) = next := by
  rw [lookIn, IsSearchable]
  cases hhere : d.entryAt? location with
  | none => simp
  | some here =>
    cases hdirectory : here.isDirectory <;> cases hsearch : here.allows .search <;>
      cases hlong : isTooLong name <;> simp [hdirectory, hsearch]

/-- How a way is followed up to its next link, case by case.  What is found behind the link is left
to the function that goes on from there. -/
theorem followBy_induction {turn : Location → List Name → Except FileError Location}
    {motive : Location → List Name → Prop} (nil : motive final [])
    (up : ∀ location rest, d.IsSearchable location →
      motive location.dropLast rest → motive location (parentName :: rest))
    (ends : new = true → ∀ location name, d.IsSearchable location → isTooLong name = false →
      name ≠ parentName → final = location ++ [name] → d.entryAt? final = none →
      motive location [name])
    (down : ∀ location name rest entry, d.IsSearchable location → isTooLong name = false →
      name ≠ parentName → d.entryAt? (location ++ [name]) = some entry → entry.target? = none →
      d.followBy new turn (location ++ [name]) rest = .ok final →
      motive (location ++ [name]) rest → motive location (name :: rest))
    (link : ∀ location name rest entry target, d.IsSearchable location →
      isTooLong name = false → name ≠ parentName →
      d.entryAt? (location ++ [name]) = some entry → entry.target? = some target →
      turn (linkStart target location) (target.names ++ rest) = .ok final →
      motive location (name :: rest))
    (h : d.followBy new turn location names = .ok final) : motive location names := by
  induction names generalizing location with
  | nil =>
    obtain rfl : location = final := Except.ok.inj h
    exact nil
  | cons name rest ih =>
    rw [followBy] at h
    cases hlook : d.lookIn location name with
    | error e => simp [hlook] at h
    | ok next =>
      rw [hlook] at h
      obtain ⟨hsearchable, hshort, rfl⟩ := lookIn_eq_ok_iff.mp hlook
      by_cases hname : name = parentName
      · subst hname
        exact up location rest hsearchable (ih (by simpa using h))
      · simp only [if_neg hname] at h
        cases hentry : d.entryAt? (location ++ [name]) with
        | none =>
          simp only [hentry, Bool.and_eq_true, List.isEmpty_iff] at h
          split at h
          next hnew =>
            obtain ⟨hnew, rfl⟩ := hnew
            obtain rfl : location ++ [name] = final := Except.ok.inj h
            exact ends hnew location name hsearchable hshort hname rfl hentry
          · cases h
        | some entry =>
          simp only [hentry] at h
          cases htarget : entry.target? with
          | none =>
            simp only [htarget] at h
            exact down location name rest entry hsearchable hshort hname hentry htarget h (ih h)
          | some target =>
            simp only [htarget] at h
            exact link location name rest entry target hsearchable hshort hname hentry htarget h

/-- **How a way is followed**, case by case. -/
theorem followLinks_induction {motive : Nat → Location → List Name → Prop}
    (nil : ∀ n, motive n final [])
    (up : ∀ n location rest, d.IsSearchable location →
      motive n location.dropLast rest → motive n location (parentName :: rest))
    (ends : new = true → ∀ n location name, d.IsSearchable location → isTooLong name = false →
      name ≠ parentName → final = location ++ [name] → d.entryAt? final = none →
      motive n location [name])
    (down : ∀ n location name rest entry, d.IsSearchable location → isTooLong name = false →
      name ≠ parentName → d.entryAt? (location ++ [name]) = some entry → entry.target? = none →
      d.followLinks new n (location ++ [name]) rest = .ok final →
      motive n (location ++ [name]) rest → motive n location (name :: rest))
    (link : ∀ n location name rest entry target, d.IsSearchable location →
      isTooLong name = false → name ≠ parentName →
      d.entryAt? (location ++ [name]) = some entry → entry.target? = some target →
      d.followLinks new n (linkStart target location) (target.names ++ rest) = .ok final →
      motive n (linkStart target location) (target.names ++ rest) →
      motive (n + 1) location (name :: rest))
    (h : d.followLinks new n location names = .ok final) : motive n location names := by
  induction n generalizing location names with
  | zero =>
    -- No link may be followed here, so the way has met none.
    refine followBy_induction (nil 0) (up 0) (fun hnew => ends hnew 0) (down 0) ?_ h
    intro location name rest entry target _ _ _ _ _ h
    cases h
  | succ n ih =>
    refine followBy_induction (nil (n + 1)) (up (n + 1)) (fun hnew => ends hnew (n + 1))
      (down (n + 1)) ?_ h
    intro location name rest entry target hsearchable hshort hname hentry htarget h
    exact link n location name rest entry target hsearchable hshort hname hentry htarget h (ih h)

theorem followLinks_nil : d.followLinks new n location [] = .ok location := by
  cases n <;> rfl

section

variable (hsearchable : d.IsSearchable location)

include hsearchable

theorem followLinks_cons_up : d.followLinks new n location (parentName :: rest) =
    d.followLinks new n location.dropLast rest := by
  obtain ⟨turn, hturn⟩ := exists_followLinks_eq d new n
  have hlook := lookIn_eq_ok_iff.mpr
    ⟨hsearchable, (by decide : isTooLong parentName = false), rfl⟩
  simp only [hturn, followBy, hlook, if_true]

variable (hshort : isTooLong name = false) (hname : name ≠ parentName)

include hshort hname

theorem followLinks_cons_of_none (hentry : d.entryAt? (location ++ [name]) = none) :
    d.followLinks new n location (name :: rest) =
      if new && rest.isEmpty then .ok (location ++ [name]) else .error .notFound := by
  obtain ⟨turn, hturn⟩ := exists_followLinks_eq d new n
  have hlook := lookIn_eq_ok_iff.mpr ⟨hsearchable, hshort, hentry⟩
  simp only [hturn, followBy, hlook, if_neg hname]

theorem followLinks_cons_down (hentry : d.entryAt? (location ++ [name]) = some entry)
    (htarget : entry.target? = none) : d.followLinks new n location (name :: rest) =
      d.followLinks new n (location ++ [name]) rest := by
  obtain ⟨turn, hturn⟩ := exists_followLinks_eq d new n
  have hlook := lookIn_eq_ok_iff.mpr ⟨hsearchable, hshort, hentry⟩
  simp only [hturn, followBy, hlook, if_neg hname, htarget]

theorem followLinks_cons_link (hentry : d.entryAt? (location ++ [name]) = some entry)
    (htarget : entry.target? = some target) :
    d.followLinks new (n + 1) location (name :: rest) =
      d.followLinks new n (linkStart target location) (target.names ++ rest) := by
  have hlook := lookIn_eq_ok_iff.mpr ⟨hsearchable, hshort, hentry⟩
  simp only [followLinks, followBy, hlook, if_neg hname, htarget]

end

/-- A way that is followed is followed as far as any of its names. -/
theorem exists_followLinks_front {more : List Name}
    (h : d.followLinks new n location (names ++ more) = .ok final) :
    ∃ between, d.followLinks new n location names = .ok between := by
  have hnil (n : Nat) (location : Location) :
      ∃ between, d.followLinks new n location [] = .ok between := ⟨location, followLinks_nil⟩
  refine followLinks_induction (motive := fun n location all => ∀ names more,
    names ++ more = all → ∃ between, d.followLinks new n location names = .ok between)
    ?nil ?up ?ends ?down ?link h names more rfl
  case nil =>
    intro n names more hall
    rw [(List.append_eq_nil_iff.mp hall).1]
    exact hnil n final
  case up =>
    intro n location rest hsearchable ih names more hall
    rcases List.append_eq_cons_iff.mp hall with ⟨rfl, -⟩ | ⟨names, rfl, hrest⟩
    · exact hnil n location
    · rw [followLinks_cons_up hsearchable]
      exact ih names more hrest.symm
  case ends =>
    intro hnew n location name hsearchable hshort hname hfinal hentry names more hall
    rcases List.append_eq_cons_iff.mp hall with ⟨rfl, -⟩ | ⟨names, rfl, hrest⟩
    · exact hnil n location
    · rw [(List.append_eq_nil_iff.mp hrest.symm).1,
        followLinks_cons_of_none hsearchable hshort hname (hfinal ▸ hentry), hnew]
      exact ⟨_, rfl⟩
  case down =>
    intro n location name rest entry hsearchable hshort hname hentry htarget _ ih names more hall
    rcases List.append_eq_cons_iff.mp hall with ⟨rfl, -⟩ | ⟨names, rfl, hrest⟩
    · exact hnil n location
    · rw [followLinks_cons_down hsearchable hshort hname hentry htarget]
      exact ih names more hrest.symm
  case link =>
    intro n location name rest entry target hsearchable hshort hname hentry htarget _ ih names
      more hall
    rcases List.append_eq_cons_iff.mp hall with ⟨rfl, -⟩ | ⟨names, rfl, hrest⟩
    · exact hnil (n + 1) location
    · rw [followLinks_cons_link hsearchable hshort hname hentry htarget]
      exact ih (target.names ++ names) more (by rw [hrest, List.append_assoc])

/-! ## 3. Routes of ways that are followed

The two functions differ in what they look at: a way asks for entries and for the right to search,
and a route asks for links alone.  The route is defined with a limit for links in links, and a way
that is followed has met fewer links than that; hence the lemmas allow any greater limit. -/

theorem target?_of_entryAt? (h : d.entryAt? location = some entry) :
    d.target? location = entry.target? := by
  simp [target?, h]

theorem target?_of_none (h : d.entryAt? location = none) : d.target? location = none := by
  simp [target?, h]

/-- From so many links on, the limit plays no part along some names, nor along the first of them. -/
def IsSettled (target? : Location → Option Path) (n : Nat) (location : Location)
    (names : List Name) : Prop :=
  ∀ front back, front ++ back = names → ∀ depth, n ≤ depth →
    walk target? (depth + 1) location front = walk target? (n + 1) location front

theorem isSettled_nil (target? : Location → Option Path) (n : Nat) (location : Location) :
    IsSettled target? n location [] := by
  intro front back hfront depth _
  rw [(List.append_eq_nil_iff.mp hfront).1]
  rfl

/-- Of a way that begins with a name only the parts that have this name need to be looked at. -/
theorem isSettled_cons {target? : Location → Option Path}
    (h : ∀ front back, front ++ back = rest → ∀ depth, n ≤ depth →
      walk target? (depth + 1) location (name :: front) =
        walk target? (n + 1) location (name :: front)) :
    IsSettled target? n location (name :: rest) := by
  intro front back hfront depth hdepth
  rcases List.append_eq_cons_iff.mp hfront with ⟨rfl, -⟩ | ⟨front, rfl, hrest⟩
  · rfl
  · exact h front back hrest.symm depth hdepth

/-- What is settled along names is settled behind the first of them. -/
theorem IsSettled.behind {target? : Location → Option Path} {first : List Name}
    (h : IsSettled target? n location (first ++ rest)) :
    IsSettled target? n (walk target? (n + 1) location first).place rest := by
  intro front back hfront depth hdepth
  have hfirst := h first rest rfl depth hdepth
  have hwhole := h (first ++ front) back (by rw [List.append_assoc, hfront]) depth hdepth
  rw [walk_succ_append, walk_succ_append, hfirst] at hwhole
  exact Route.andThen_right_injective hwhole

/-- **A route ends where the way ends**, and it is settled with as many links. -/
theorem isSettled_of_followLinks (h : d.followLinks new n location names = .ok final) :
    IsSettled d.target? n location names ∧
      (walk d.target? (n + 1) location names).place = final := by
  refine followLinks_induction (motive := fun n location names =>
    IsSettled d.target? n location names ∧
      (walk d.target? (n + 1) location names).place = final) ?nil ?up ?ends ?down ?link h
  case nil => exact fun n => ⟨isSettled_nil _ n final, rfl⟩
  case up =>
    intro n location rest _ ih
    obtain ⟨hsettled, hplace⟩ := ih
    refine ⟨isSettled_cons fun front back h depth hdepth => ?_, ?_⟩
    · rw [walk_cons_parent, walk_cons_parent, hsettled front back h depth hdepth]
    · rw [walk_cons_parent]
      exact hplace
  case ends =>
    intro _ n location name _ _ hname hfinal hentry
    have htarget : d.target? (location ++ [name]) = none := target?_of_none (hfinal ▸ hentry)
    refine ⟨isSettled_cons fun front back h depth _ => ?_, ?_⟩
    · rw [(List.append_eq_nil_iff.mp h).1, walk_cons_of_none _ hname htarget,
        walk_cons_of_none _ hname htarget]
      rfl
    · rw [walk_cons_of_none _ hname htarget]
      exact hfinal.symm
  case down =>
    intro n location name rest entry _ _ hname hentry hlink _ ih
    obtain ⟨hsettled, hplace⟩ := ih
    have htarget : d.target? (location ++ [name]) = none :=
      (target?_of_entryAt? hentry).trans hlink
    refine ⟨isSettled_cons fun front back h depth hdepth => ?_, ?_⟩
    · rw [walk_cons_of_none _ hname htarget, walk_cons_of_none _ hname htarget,
        hsettled front back h depth hdepth]
    · rw [walk_cons_of_none _ hname htarget]
      exact hplace
  case link =>
    intro n location name rest entry target _ _ hname hentry hlink _ ih
    obtain ⟨hsettled, hplace⟩ := ih
    have htarget : d.target? (location ++ [name]) = some target :=
      (target?_of_entryAt? hentry).trans hlink
    refine ⟨isSettled_cons fun front back h depth hdepth => ?_, ?_⟩
    · obtain ⟨depth, rfl⟩ := Nat.exists_eq_add_one_of_ne_zero (Nat.ne_zero_of_lt hdepth)
      rw [walk_cons_of_some _ hname htarget, walk_cons_of_some _ hname htarget,
        hsettled target.names rest rfl depth (Nat.le_of_succ_le_succ hdepth),
        hsettled.behind front back h (depth + 1) (Nat.le_of_lt hdepth),
        hsettled.behind front back h (n + 1) (Nat.le_succ n)]
    · rw [walk_cons_of_some _ hname htarget]
      simp only [Route.after, Route.andThen]
      rw [hsettled.behind rest [] (List.append_nil _) (n + 1) (Nat.le_succ n)]
      rwa [walk_succ_append] at hplace

theorem walk_of_followLinks (h : d.followLinks new n location names = .ok final) {depth : Nat}
    (hdepth : n ≤ depth) :
    walk d.target? (depth + 1) location names = walk d.target? (n + 1) location names :=
  (isSettled_of_followLinks h).1 names [] (List.append_nil _) depth hdepth

theorem place_of_followLinks (h : d.followLinks new n location names = .ok final) {depth : Nat}
    (hdepth : n ≤ depth) : (walk d.target? (depth + 1) location names).place = final := by
  rw [walk_of_followLinks h hdepth]
  exact (isSettled_of_followLinks h).2

/-- **The route of a way that is followed ends where the way does.** -/
theorem place_route_of_follow (h : d.follow [] names = .ok final) : (d.route names).place = final :=
  place_of_followLinks h (Nat.le_refl _)

theorem place_route_of_spot {path : Path} (h : d.spot path = .ok final) :
    (d.route path.names).place = final :=
  place_of_followLinks h (Nat.le_refl _)

theorem place_route_concat (h : d.follow [] names = .ok location) (hname : name ≠ parentName)
    (hlink : d.target? (location ++ [name]) = none) :
    (d.route (names ++ [name])).place = location ++ [name] := by
  have hplace := place_route_of_follow h
  rw [route] at hplace
  rw [route, walk_succ_append, hplace, walk_cons_of_none _ hname hlink]
  rfl

theorem place_mem_passed_route {more : List Name} (hmore : more ≠ []) :
    (d.route names).place ∈ (d.route (names ++ more)).passed :=
  place_mem_passed_walkBy hmore

/-- At a link a way goes on as if the target of the link were written in its place. -/
theorem walk_link (hname : name ≠ parentName)
    (hentry : d.entryAt? (location ++ [name]) = some entry)
    (hlink : entry.target? = some target)
    (h : d.followLinks new n (linkStart target location) (target.names ++ rest) = .ok final) :
    walk d.target? (n + 2) location (name :: rest) =
      ((walk d.target? (n + 1) (linkStart target location)
        (target.names ++ rest)).after (location ++ [name])).after location := by
  have htarget : d.target? (location ++ [name]) = some target :=
    (target?_of_entryAt? hentry).trans hlink
  have hwhole := walk_of_followLinks h (Nat.le_succ n)
  have halong := (isSettled_of_followLinks h).1 target.names rest rfl (n + 1) (Nat.le_succ n)
  rw [walk_cons_of_some _ hname htarget, ← hwhole, walk_succ_append, halong]

/-! ## 4. Ways on a disk that has changed

A way can be followed as long as everything that it has passed is still there.  It does not matter
what else is there by now. -/

/-- **A way that is followed is followed still**, if what was at the locations that it passes is
there and its end is no link; and then its end is not new any more. -/
theorem followLinks_of_keeps (h : d.followLinks new n location names = .ok final)
    (hkeeps : ∀ l ∈ (walk d.target? (n + 1) location names).passed, ∀ entry,
      d.entryAt? l = some entry → d'.entryAt? l = some entry)
    (hend : ∃ entry, d'.entryAt? final = some entry ∧ entry.target? = none) :
    d'.followLinks false n location names = .ok final := by
  have hsearch {location : Location} {passed : List Location} (hhere : d.IsSearchable location)
      (hkeeps : ∀ l ∈ location :: passed, ∀ entry,
        d.entryAt? l = some entry → d'.entryAt? l = some entry) : d'.IsSearchable location := by
    obtain ⟨here, hentry, hright⟩ := hhere
    exact ⟨here, hkeeps location List.mem_cons_self here hentry, hright⟩
  obtain ⟨last, hlast, hnolink⟩ := hend
  refine followLinks_induction (motive := fun n location names =>
    (∀ l ∈ (walk d.target? (n + 1) location names).passed, ∀ entry,
      d.entryAt? l = some entry → d'.entryAt? l = some entry) →
    d'.followLinks false n location names = .ok final) ?nil ?up ?ends ?down ?link h hkeeps
  case nil =>
    intro n _
    exact followLinks_nil
  case up =>
    intro n location rest hhere ih hkeeps
    rw [walk_cons_parent] at hkeeps
    rw [followLinks_cons_up (hsearch hhere hkeeps)]
    exact ih fun l hl => hkeeps l (List.mem_cons_of_mem _ hl)
  case ends =>
    intro _ n location name hhere hshort hname hfinal hentry hkeeps
    rw [walk_cons_of_none _ hname (target?_of_none (hfinal ▸ hentry))] at hkeeps
    rw [hfinal] at hlast
    rw [followLinks_cons_down (hsearch hhere hkeeps) hshort hname hlast hnolink, hfinal,
      followLinks_nil]
  case down =>
    intro n location name rest entry hhere hshort hname hentry hlink hfollow ih hkeeps
    rw [walk_cons_of_none _ hname ((target?_of_entryAt? hentry).trans hlink)] at hkeeps
    -- The next location is passed if the way goes on from there; if not, the way ends there.
    obtain ⟨next, hnext, hnextLink⟩ :
        ∃ next, d'.entryAt? (location ++ [name]) = some next ∧ next.target? = none := by
      cases rest with
      | nil =>
        rw [followLinks_nil, Except.ok.injEq] at hfollow
        exact ⟨last, hfollow ▸ hlast, hnolink⟩
      | cons second rest =>
        refine ⟨entry, hkeeps _ (List.mem_cons_of_mem _ ?_) entry hentry, hlink⟩
        exact mem_passed_walkBy_cons
    rw [followLinks_cons_down (hsearch hhere hkeeps) hshort hname hnext hnextLink]
    exact ih fun l hl => hkeeps l (List.mem_cons_of_mem _ hl)
  case link =>
    intro n location name rest entry target hhere hshort hname hentry hlink hfollow ih hkeeps
    rw [walk_link hname hentry hlink hfollow] at hkeeps
    have hnext : d'.entryAt? (location ++ [name]) = some entry :=
      hkeeps _ (List.mem_cons_of_mem _ List.mem_cons_self) entry hentry
    rw [followLinks_cons_link (hsearch hhere hkeeps) hshort hname hnext hlink]
    exact ih fun l hl => hkeeps l (List.mem_cons_of_mem _ (List.mem_cons_of_mem _ hl))

/-- Behind a way that is followed one goes on from its end, with the links that are left. -/
theorem exists_followLinks_append (h : d.followLinks false n location names = .ok final)
    (more : List Name) : ∃ m, d.followLinks false n location (names ++ more) =
      d.followLinks false m final more := by
  refine followLinks_induction (motive := fun n location names =>
    ∃ m, d.followLinks false n location (names ++ more) = d.followLinks false m final more)
    ?nil ?up ?ends ?down ?link h
  case nil => exact fun n => ⟨n, rfl⟩
  case up =>
    intro n location rest hhere ih
    rw [List.cons_append, followLinks_cons_up hhere]
    exact ih
  case ends => exact fun hnew => absurd hnew Bool.false_ne_true
  case down =>
    intro n location next rest entry hhere hshort hname hentry hlink _ ih
    rw [List.cons_append, followLinks_cons_down hhere hshort hname hentry hlink]
    exact ih
  case link =>
    intro n location next rest entry target hhere hshort hname hentry hlink _ ih
    rw [List.cons_append, followLinks_cons_link hhere hshort hname hentry hlink,
      ← List.append_assoc]
    exact ih

/-- A way that is followed by one more name comes to a directory in which it is looked up. -/
theorem lookIn_of_follow_concat (h : d.follow [] (names ++ [name]) = .ok final) :
    ∃ location next, d.follow [] names = .ok location ∧ d.lookIn location name = .ok next := by
  obtain ⟨location, hfront⟩ := exists_followLinks_front h
  obtain ⟨m, hm⟩ := exists_followLinks_append hfront [name]
  rw [follow, hm] at h
  obtain ⟨turn, hturn⟩ := exists_followLinks_eq d false m
  rw [hturn, followBy] at h
  cases hlook : d.lookIn location name with
  | error e => simp [hlook] at h
  | ok next => exact ⟨location, next, hfront, hlook⟩

/-- A name that is in no use yet is not found behind a way that is followed. -/
theorem lookUp_eq_notFound_of_lookIn (h : d.follow [] names = .ok location)
    (hlook : d.lookIn location name = .ok none) (hname : name ≠ parentName) :
    d.lookUp (names ++ [name]) = .error .notFound := by
  obtain ⟨hlocation, hshort, hnone⟩ := lookIn_eq_ok_iff.mp hlook
  obtain ⟨m, hm⟩ := exists_followLinks_append h [name]
  have hfollow : d.follow [] (names ++ [name]) = .error .notFound :=
    hm.trans (followLinks_cons_of_none hlocation hshort hname hnone)
  rw [lookUp, hfollow]

/-! ## 5. Ends of ways

A way goes from directory to directory, so only directories are above where it has come to, and no
link can be there: it would have been followed. -/

/-- Whether only directories are above a location, and no link at it. -/
def IsOpen (d : Disk) (location : Location) : Prop :=
  (∀ above : Location, above.isAbove location = true →
    ∃ here, d.entryAt? above = some here ∧ here.isDirectory = true) ∧ d.target? location = none

theorem isOpen_nil (d : Disk) : d.IsOpen [] :=
  ⟨fun _ habove => absurd rfl (Location.ne_nil_of_isAbove habove),
    target?_of_entryAt? d.entryAt?_nil⟩

theorem IsOpen.dropLast (h : d.IsOpen location) : d.IsOpen location.dropLast := by
  refine ⟨fun above habove => h.1 above (Location.isAbove_dropLast habove), ?_⟩
  by_cases hne : location = []
  · rw [hne]
    exact d.isOpen_nil.2
  · obtain ⟨here, hentry, hdirectory⟩ := h.1 _ (Location.dropLast_isAbove hne)
    exact (target?_of_entryAt? hentry).trans (Entry.target?_of_isDirectory hdirectory)

theorem IsOpen.concat (h : d.IsOpen location) (hhere : d.IsSearchable location)
    (hname : d.target? (location ++ [name]) = none) : d.IsOpen (location ++ [name]) := by
  refine ⟨fun above habove => ?_, hname⟩
  rcases Location.eq_or_isAbove_of_prefix (Location.prefix_of_isAbove_concat habove) with
    rfl | habove
  · obtain ⟨here, hentry, hdirectory, -⟩ := hhere
    exact ⟨here, hentry, hdirectory⟩
  · exact h.1 above habove

/-- **A way that is followed ends at no link**, and only directories are above its end. -/
theorem isOpen_of_followLinks (h : d.followLinks new n location names = .ok final)
    (hopen : d.IsOpen location) : d.IsOpen final := by
  refine followLinks_induction (motive := fun _ location _ => d.IsOpen location → d.IsOpen final)
    ?nil ?up ?ends ?down ?link h hopen
  case nil => exact fun _ h => h
  case up => exact fun _ _ _ _ ih h => ih h.dropLast
  case ends =>
    intro _ _ location name hhere _ _ hfinal hentry h
    rw [hfinal] at hentry ⊢
    exact h.concat hhere (target?_of_none hentry)
  case down =>
    intro _ location name _ entry hhere _ _ hentry hlink _ ih h
    exact ih (h.concat hhere ((target?_of_entryAt? hentry).trans hlink))
  case link =>
    intro _ location name rest entry target _ _ _ _ _ _ ih h
    refine ih ?_
    rw [linkStart]
    split
    · exact d.isOpen_nil
    · exact h

/-! ## 6. What accesses have done

An access that succeeds has changed the disk in one place, or not at all.  Making the directories
of a path is a row of such accesses, and has an induction of its own. -/

section

open Access

variable {path : Path} {bytes : Bytes} {front : List Name} {last : Bool}

/-- A directory that is made is new, in a directory that can be reached. -/
theorem outcome_makeDirectory_eq_ok
    (h : (makeDirectory front name last).outcome d = (.ok (), after)) :
    after = d ∨ ∃ location, d.follow [] front = .ok location ∧
      d.entryAt? (location ++ [name]) = none ∧ after = d.put (location ++ [name]) .directory := by
  rw [makeDirectory, outcome_get_bind] at h
  split at h
  next entry hlook =>
    cases hdirectory : entry.isDirectory with
    | false =>
      simp only [hdirectory] at h
      cases h
    | true =>
      simp only [hdirectory] at h
      cases h
      exact .inl rfl
  next e hlook =>
    split at h
    · cases h
    next location hfollow =>
      refine .inr ⟨location, hfollow, ?_⟩
      cases hentry : d.entryAt? (location ++ [name]) with
      | some entry =>
        simp only [hentry] at h
        cases h
      | none =>
        simp only [hentry] at h
        by_cases he : e = .notFound
        · subst he
          cases hpermits : d.permits .write location with
          | false =>
            simp only [ne_eq, not_true_eq_false, if_false, hpermits] at h
            cases h
          | true =>
            simp only [ne_eq, not_true_eq_false, if_false, hpermits] at h
            cases h
            exact ⟨rfl, rfl⟩
        · simp only [ne_eq, he, not_false_eq_true, if_true] at h
          cases h

/-- **What holds of a disk while directories are made** on the way along names holds afterwards, if
it goes on to hold whenever one of them is made. -/
theorem makeFrom_induction {motive : Disk → Prop}
    (make : ∀ d names name location, motive d → front <+: names →
      names ++ [name] <+: front ++ rest → d.follow [] names = .ok location →
      d.entryAt? (location ++ [name]) = none →
      motive (d.put (location ++ [name]) .directory))
    (h : (makeFrom front rest).outcome d = (.ok (), after)) (hd : motive d) : motive after := by
  induction rest generalizing front d with
  | nil =>
    cases h
    exact hd
  | cons name rest ih =>
    obtain ⟨_, between, hfirst, hrest⟩ := outcome_bind_eq_ok h
    have hlater : front ++ [name] ++ rest = front ++ name :: rest := by simp
    refine ih (fun d names name' location hd hfront hnames => ?_) hrest ?_
    · rw [hlater] at hnames
      exact make d names name' location hd ((List.prefix_append _ _).trans hfront) hnames
    · rcases outcome_makeDirectory_eq_ok hfirst with rfl | ⟨location, hfollow, hnone, rfl⟩
      · exact hd
      · refine make d front name location hd (List.prefix_refl _) ?_ hfollow hnone
        rw [← hlater]
        exact List.prefix_append _ _

/-- A file that is written is where its path leads to, and no directory is there. -/
theorem outcome_putFile_eq_ok (h : (putFile path bytes).outcome d = (.ok (), after)) :
    ∃ location, d.spot path = .ok location ∧
      ((d.entryAt? location = none ∧ after = d.put location (.file bytes)) ∨
        ∃ entry, d.entryAt? location = some entry ∧ entry.isDirectory = false ∧
          ((∃ number, entry.number? = some number ∧ after = d.fillShared number bytes) ∨
            (entry.number? = none ∧ after = d.put location (entry.fill bytes)))) := by
  rw [putFile, outcome_get_bind] at h
  split at h
  · cases h
  next location hspot =>
    refine ⟨location, hspot, ?_⟩
    cases hentry : d.entryAt? location with
    | none =>
      simp only [hentry] at h
      cases hpermits : d.permits .write location.dropLast with
      | false =>
        simp only [hpermits] at h
        cases h
      | true =>
        simp only [hpermits] at h
        cases h
        exact .inl ⟨rfl, rfl⟩
    | some entry =>
      simp only [hentry] at h
      refine .inr ⟨entry, rfl, ?_⟩
      cases hdirectory : entry.isDirectory with
      | true =>
        simp only [hdirectory] at h
        cases h
      | false =>
        cases hwrite : entry.allows .write with
        | false =>
          simp only [hdirectory, hwrite] at h
          cases h
        | true =>
          cases hnumber : entry.number? with
          | some number =>
            simp only [hdirectory, hwrite, hnumber] at h
            cases h
            exact ⟨rfl, .inl ⟨number, rfl, rfl⟩⟩
          | none =>
            simp only [hdirectory, hwrite, hnumber] at h
            cases h
            exact ⟨rfl, .inr ⟨rfl, rfl⟩⟩

/-- A file is deleted where its name stands in a directory, unless nothing is found there. -/
theorem outcome_deleteFile_eq_ok {value : Bool}
    (h : (deleteFile path).outcome d = (.ok value, after)) :
    (d.follow [] path.parent.names = .error .notFound ∧ after = d) ∨
      ∃ location, d.follow [] path.parent.names = .ok location ∧ path.names ≠ [] ∧
        path.name ≠ parentName ∧
        ((d.lookIn location path.name = .ok none ∧ after = d) ∨
          ∃ entry, d.lookIn location path.name = .ok (some entry) ∧ entry.isDirectory = false ∧
            after = d.erase (location ++ [path.name])) := by
  rw [deleteFile, outcome_get_bind] at h
  split at h
  next hfollow =>
    cases h
    exact .inl ⟨hfollow, rfl⟩
  · cases h
  next location hfollow =>
    by_cases hname : path.names = [] ∨ path.name = parentName
    · rw [if_pos hname] at h
      cases h
    · rw [if_neg hname] at h
      rw [not_or] at hname
      refine .inr ⟨location, hfollow, hname.1, hname.2, ?_⟩
      cases hlook : d.lookIn location path.name with
      | error e =>
        simp only [hlook] at h
        cases h
      | ok found =>
        cases found with
        | none =>
          simp only [hlook] at h
          cases h
          exact .inl ⟨rfl, rfl⟩
        | some entry =>
          simp only [hlook] at h
          cases hpermits : d.permits .write location with
          | false =>
            simp only [hpermits] at h
            cases h
          | true =>
            cases hdirectory : entry.isDirectory with
            | true =>
              simp only [hpermits, hdirectory] at h
              cases h
            | false =>
              simp only [hpermits, hdirectory] at h
              cases h
              exact .inr ⟨entry, rfl, hdirectory, rfl⟩

end

end Disk

end TaskNotes
