/-
# Identifiers in a text

An identifier of a project stands in a text where the name of the project, a hyphen and a whole run
of digits stand (`StandsBehind`).  The readers are brought back to this:

* `taskId?` reads what stands at the start of a text (`taskId?_eq_some_iff`);
* the search finds the identifier that stands first, and none only where none stands
  (`standsBehind_of_firstTaskId?`, `not_standsBehind_of_firstTaskId?`);
* an identifier that is handed out is read back with its number, unless a digit follows it
  (`taskId?_of_nextId`, `digitsValue_decimal`).

A run of digits is whole if no digit follows it, and this is the one condition that looks beyond an
identifier.  It is why an identifier that was handed out can be read back as another one, when it
is written directly in front of a digit.  Nothing of the kind is asked of what stands in front: the
letters of a project may be the end of a longer word, and they are found there.

A text is searched from the front, one character after the other.  What is found first is found
where no place further to the front has an identifier, and this is all that is known of a search.
-/
import TaskNotes.Proofs.NumberedText
import TaskNotes.Proofs.Lists

namespace TaskNotes

/-! ## 1. Runs of digits -/

/-- A row of digits that is not continued by what follows. -/
structure DigitRun (digits after : List Char) : Prop where
  ne_nil : digits ≠ []
  isDigit_of_mem : ∀ c ∈ digits, isDigit c = true
  not_continued : ∀ c, after.head? = some c → isDigit c = false

section

variable {digits after text : List Char}

theorem DigitRun.takeWhile_eq (h : DigitRun digits after) :
    (digits ++ after).takeWhile isDigit = digits := by
  rw [List.takeWhile_append_of_pos h.isDigit_of_mem]
  cases after with
  | nil => rw [List.takeWhile_nil, List.append_nil]
  | cons c after =>
    have hc : isDigit c = false := h.not_continued c rfl
    rw [List.takeWhile_cons, hc]
    simp

theorem DigitRun.dropWhile_eq (h : DigitRun digits after) :
    (digits ++ after).dropWhile isDigit = after := by
  rw [List.dropWhile_append_of_pos h.isDigit_of_mem]
  cases after with
  | nil => rfl
  | cons c after =>
    have hc : isDigit c = false := h.not_continued c rfl
    rw [List.dropWhile_cons, hc]
    simp

theorem digitRun_takeWhile (h : text.takeWhile isDigit ≠ []) :
    DigitRun (text.takeWhile isDigit) (text.dropWhile isDigit) where
  ne_nil := h
  isDigit_of_mem := fun _ hc => List.mem_takeWhile_imp hc
  not_continued := fun _ => eq_false_of_head?_dropWhile

/-- The digits of a number are a run of digits. -/
theorem digitRun_decimal (n : Nat) (h : ∀ c, after.head? = some c → isDigit c = false) :
    DigitRun (decimal n) after :=
  ⟨Nat.toDigits_ne_nil, fun _ hc => isDigit_of_mem_decimal hc, h⟩

end

/-! ## 2. What is read at the start of a text -/

section

variable {project : ProjectId} {text rest : List Char} {id : TaskId}

theorem dropExact_eq_some_iff :
    ∀ {expected text : List Char}, dropExact expected text = some rest ↔ text = expected ++ rest
  | [], text => by
    rw [dropExact, List.nil_append, Option.some.injEq]
  | e :: expected, [] => by
    simp [dropExact]
  | e :: expected, c :: text => by
    rw [dropExact]
    by_cases h : e = c
    · rw [if_pos h, dropExact_eq_some_iff, List.cons_append, List.cons.injEq]
      simp [h]
    · rw [if_neg h, List.cons_append, List.cons.injEq]
      simp [Ne.symm h]

theorem projectAndHyphen?_eq_some_iff {letters : List Char} :
    projectAndHyphen? (some project) text = some (letters, rest) ↔
      letters = project.letters ∧ text = project.letters ++ '-' :: rest := by
  simp only [projectAndHyphen?, project.valid, if_true, Option.map_eq_some_iff,
    dropExact_eq_some_iff, List.append_assoc, List.singleton_append, Prod.mk.injEq]
  constructor
  · rintro ⟨_, rfl, rfl, rfl⟩
    exact ⟨rfl, rfl⟩
  · rintro ⟨rfl, rfl⟩
    exact ⟨rest, rfl, rfl, rfl⟩

/-- **An identifier is read** where a project, a hyphen and a run of digits stand. -/
theorem taskId?_eq_some_iff :
    taskId? (some project) text = some (id, rest) ↔
      id.project = project.letters ∧ DigitRun id.digits rest ∧
        text = project.letters ++ '-' :: id.digits ++ rest := by
  rw [taskId?]
  constructor
  · intro h
    split at h
    next => cases h
    next letters behind hproject =>
      obtain ⟨rfl, rfl⟩ := projectAndHyphen?_eq_some_iff.mp hproject
      split at h
      next => cases h
      next d digits hdigits =>
        obtain ⟨rfl, rfl⟩ := Prod.mk.inj (Option.some.inj h)
        rw [← hdigits]
        refine ⟨rfl, digitRun_takeWhile (hdigits ▸ List.cons_ne_nil d digits), ?_⟩
        rw [List.append_assoc, List.cons_append, List.takeWhile_append_dropWhile]
  · rintro ⟨hproject, hdigits, rfl⟩
    rw [List.append_assoc, List.cons_append, projectAndHyphen?_letters]
    simp only [hdigits.takeWhile_eq, hdigits.dropWhile_eq]
    split
    next hnil => exact absurd hnil hdigits.ne_nil
    next d digits hcons =>
      obtain ⟨letters, _⟩ := id
      obtain rfl : letters = project.letters := hproject
      obtain rfl : _ = d :: digits := hcons
      rfl

theorem checkProject_toString (project : ProjectId) :
    checkProject project.toString = .ok project := by
  have hname : project.toString.toList = project.letters := String.toList_ofList
  have hvalid : isProjectName project.toString.toList = true := hname ▸ project.valid
  rw [checkProject, ProjectId.ofString?, dif_pos hvalid]
  simp only [hname]

/-- The letters of a project begin with a capital one. -/
theorem exists_cons_letters (project : ProjectId) :
    ∃ c letters, project.letters = c :: letters ∧ c.isUpper = true := by
  have hvalid := project.valid
  simp only [isProjectName, Bool.and_eq_true, decide_eq_true_eq, List.all_eq_true] at hvalid
  obtain ⟨⟨hlength, -⟩, hupper⟩ := hvalid
  cases hletters : project.letters with
  | nil =>
    rw [hletters] at hlength
    cases hlength
  | cons c letters => exact ⟨c, letters, rfl, hupper c (hletters ▸ List.mem_cons_self)⟩

/-- What begins with no capital letter begins with no project. -/
theorem projectAndHyphen?_eq_none {c : Char} (h : c.isUpper = false) (text : List Char) :
    projectAndHyphen? (some project) (c :: text) = none := by
  refine Option.eq_none_iff_forall_ne_some.mpr fun ⟨letters, rest⟩ hsome => ?_
  obtain ⟨-, htext⟩ := projectAndHyphen?_eq_some_iff.mp hsome
  obtain ⟨d, others, hletters, hupper⟩ := exists_cons_letters project
  rw [hletters, List.cons_append] at htext
  rw [(List.cons.inj htext).1, hupper] at h
  cases h

theorem taskId?_eq_none {c : Char} (h : c.isUpper = false) (text : List Char) :
    taskId? (some project) (c :: text) = none := by
  rw [taskId?, projectAndHyphen?_eq_none h]

theorem placeholder?_eq_none {c : Char} (h : c.isUpper = false) (text : List Char) :
    placeholder? (some project) (c :: text) = none := by
  rw [placeholder?, projectAndHyphen?_eq_none h]

/-- A digit asks for no number. -/
theorem isPlaceholderChar_eq_false {c : Char} (h : isDigit c = true) :
    isPlaceholderChar c = false := by
  simp only [isPlaceholderChar, Bool.or_eq_false_iff, beq_eq_false_iff_ne]
  refine ⟨⟨⟨⟨?_, ?_⟩, ?_⟩, ?_⟩, ?_⟩ <;>
    · rintro rfl
      revert h
      decide

theorem placeholder?_eq_some {found : List Char}
    (h : placeholder? (some project) text = some (found, rest)) :
    ∃ c others, text = project.letters ++ '-' :: c :: others ∧ isPlaceholderChar c = true ∧
      continuesWord rest = false := by
  rw [placeholder?] at h
  split at h
  next => cases h
  next => cases h
  next letters c others hproject =>
    obtain ⟨rfl, rfl⟩ := projectAndHyphen?_eq_some_iff.mp hproject
    simp only at h
    split at h
    next hchars =>
      obtain ⟨-, rfl⟩ := Prod.mk.inj (Option.some.inj h)
      rw [Bool.and_eq_true, Bool.not_eq_true'] at hchars
      exact ⟨c, others, rfl, hchars⟩
    next => cases h

/-- What stands at the start of a text is not both an identifier and a placeholder, even if the
text goes on otherwise. -/
theorem placeholder?_eq_none_of_taskId?_append {more : List Char}
    (h : (taskId? (some project) (text ++ more)).isSome = true) :
    placeholder? (some project) text = none := by
  obtain ⟨⟨id, rest⟩, hid⟩ := Option.isSome_iff_exists.mp h
  obtain ⟨-, hdigits, htext⟩ := taskId?_eq_some_iff.mp hid
  refine Option.eq_none_iff_forall_ne_some.mpr fun ⟨found, after⟩ hsome => ?_
  obtain ⟨c, others, rfl, hc, -⟩ := placeholder?_eq_some hsome
  obtain ⟨d, digits, hcons⟩ := List.exists_cons_of_ne_nil hdigits.ne_nil
  have hd : isDigit d = true := hdigits.isDigit_of_mem d (hcons ▸ List.mem_cons_self)
  rw [hcons, List.append_assoc, List.append_assoc, List.append_cancel_left_eq] at htext
  obtain rfl : c = d := (List.cons.inj (List.cons.inj htext).2).1
  rw [isPlaceholderChar_eq_false hd] at hc
  cases hc

theorem placeholder?_eq_none_of_taskId? (h : (taskId? (some project) text).isSome = true) :
    placeholder? (some project) text = none := by
  rw [← List.append_nil text] at h
  exact placeholder?_eq_none_of_taskId?_append h

end

theorem isAlphanumeric_of_isDigit {c : Char} (h : isDigit c = true) : isAlphanumeric c = true := by
  by_cases hsmall : c.toNat < 128
  · rw [isDigit, if_pos hsmall] at h
    rw [isAlphanumeric, if_pos hsmall, Char.isAlphanum, h, Bool.or_true]
  · rw [isAlphanumeric, if_neg hsmall, h, Bool.true_or]

/-- The digits of all scripts continue a word, so none follows a placeholder. -/
theorem isDigit_eq_false_of_placeholder? {project : ProjectId} {text found rest : List Char}
    (h : placeholder? (some project) text = some (found, rest)) :
    ∀ c, rest.head? = some c → isDigit c = false := by
  obtain ⟨-, -, -, -, hends⟩ := placeholder?_eq_some h
  intro c hc
  cases rest with
  | nil => cases hc
  | cons d rest =>
    obtain rfl : d = c := Option.some.inj hc
    rw [continuesWord, isWordChar, Bool.or_eq_false_iff, Bool.or_eq_false_iff] at hends
    by_contra hdigit
    rw [isAlphanumeric_of_isDigit (Bool.of_not_eq_false hdigit)] at hends
    cases hends.1.1

/-! ## 3. Where identifiers stand in a text

`StandsBehind` speaks of a place in a text and says nothing of how it is found.  The lemmas on
searching are about any pattern; the one on identifiers puts them together with what is read at the
start of a text. -/

/-- An identifier of a project stands in a text, with something in front of it. -/
def StandsBehind (project : ProjectId) (text front digits : List Char) : Prop :=
  ∃ after, DigitRun digits after ∧ text = front ++ (project.letters ++ '-' :: digits ++ after)

section

variable {project : ProjectId} {text front digits : List Char}

theorem standsBehind_iff :
    StandsBehind project text front digits ↔
      ∃ back rest, text = front ++ back ∧
        taskId? (some project) back = some (⟨project.letters, digits⟩, rest) := by
  constructor
  · rintro ⟨after, hdigits, rfl⟩
    exact ⟨_, after, rfl, taskId?_eq_some_iff.mpr ⟨rfl, hdigits, rfl⟩⟩
  · rintro ⟨back, rest, rfl, hback⟩
    obtain ⟨-, hdigits, rfl⟩ := taskId?_eq_some_iff.mp hback
    exact ⟨rest, hdigits, rfl⟩

end

/-- What a search finds, it finds where nothing is found further to the front. -/
theorem match?_of_search? {pattern : Pattern} :
    ∀ {text : List Char} {n : Nat} {found : Found}, pattern.search? text = some (n, found) →
      ∃ front back, text = front ++ back ∧ front.length = n ∧ pattern.match? back = some found ∧
        ∀ before behind, text = before ++ behind → before.length < n →
          pattern.match? behind = none
  | [], n, found, h => by
    rw [Pattern.search?, Option.map_eq_some_iff] at h
    obtain ⟨_, hmatch, h⟩ := h
    obtain ⟨rfl, rfl⟩ := Prod.mk.inj h
    exact ⟨[], [], rfl, rfl, hmatch, fun _ _ _ hlt => absurd hlt (Nat.not_lt_zero _)⟩
  | c :: text, n, found, h => by
    rw [Pattern.search?] at h
    split at h
    next _ hmatch =>
      obtain ⟨rfl, rfl⟩ := Prod.mk.inj (Option.some.inj h)
      exact ⟨[], c :: text, rfl, rfl, hmatch, fun _ _ _ hlt => absurd hlt (Nat.not_lt_zero _)⟩
    next hnone =>
      obtain ⟨⟨m, _⟩, hsearch, h⟩ := Option.map_eq_some_iff.mp h
      obtain ⟨rfl, rfl⟩ := Prod.mk.inj h
      obtain ⟨front, back, rfl, rfl, hmatch, hfirst⟩ := match?_of_search? hsearch
      refine ⟨c :: front, back, rfl, rfl, hmatch, fun before behind htext hlt => ?_⟩
      cases before with
      | nil =>
        obtain rfl : c :: (front ++ back) = behind := htext
        exact hnone
      | cons d before =>
        exact hfirst before behind (List.cons.inj htext).2 (Nat.lt_of_succ_lt_succ hlt)

/-- A search that finds nothing has tried every place. -/
theorem match?_eq_none_of_search? {pattern : Pattern} :
    ∀ {text : List Char}, pattern.search? text = none →
      ∀ front back, text = front ++ back → pattern.match? back = none
  | [], h, front, back, htext => by
    obtain ⟨rfl, rfl⟩ := List.append_eq_nil_iff.mp htext.symm
    rwa [Pattern.search?, Option.map_eq_none_iff] at h
  | c :: text, h, front, back, htext => by
    rw [Pattern.search?] at h
    split at h
    next => cases h
    next hnone =>
      cases front with
      | nil =>
        obtain rfl : c :: text = back := htext
        exact hnone
      | cons d front =>
        exact match?_eq_none_of_search? (Option.map_eq_none_iff.mp h) front back
          (List.cons.inj htext).2

section

variable {project : ProjectId} {text : List Char} {id : TaskId}

theorem match?_taskId_eq_none_iff :
    (Pattern.taskId (some project)).match? text = none ↔ taskId? (some project) text = none :=
  Option.map_eq_none_iff

/-- **The identifier that is found stands first.** -/
theorem standsBehind_of_firstTaskId? (h : firstTaskId? (some project) text = some id) :
    ∃ front, StandsBehind project text front id.digits ∧
      ∀ before digits, StandsBehind project text before digits →
        front.length ≤ before.length := by
  rw [firstTaskId?] at h
  split at h
  next n found hsearch =>
    obtain ⟨front, back, htext, rfl, hmatch, hfirst⟩ := match?_of_search? hsearch
    obtain ⟨⟨_, rest⟩, hread, rfl⟩ := Option.map_eq_some_iff.mp hmatch
    obtain rfl := Option.some.inj h
    have hproject := (taskId?_eq_some_iff.mp hread).1
    refine ⟨front, standsBehind_iff.mpr ⟨back, rest, htext, ?_⟩, ?_⟩
    · rw [hread, ← hproject]
    · intro before digits hstands
      obtain ⟨behind, _, hbehind, hread'⟩ := standsBehind_iff.mp hstands
      by_contra hlt
      rw [match?_taskId_eq_none_iff.mp (hfirst before behind hbehind (Nat.lt_of_not_le hlt))]
        at hread'
      cases hread'
  next => cases h

/-- **Where none is found, none stands.** -/
theorem not_standsBehind_of_firstTaskId? (h : firstTaskId? (some project) text = none)
    (front digits : List Char) : ¬ StandsBehind project text front digits := by
  intro hstands
  obtain ⟨back, rest, htext, hread⟩ := standsBehind_iff.mp hstands
  rw [firstTaskId?] at h
  split at h
  next n found hsearch =>
    obtain ⟨-, back, -, -, hmatch, -⟩ := match?_of_search? hsearch
    obtain ⟨_, -, rfl⟩ := Option.map_eq_some_iff.mp hmatch
    cases h
  next hsearch =>
    rw [match?_taskId_eq_none_iff.mp (match?_eq_none_of_search? hsearch front back htext)] at hread
    cases hread

end

/-! ## 4. Identifiers that are handed out

Digits of all scripts are read, but a number is written with those of ASCII, so reading it back is
a fact about decimal numerals. -/

theorem digitValue_of_mem_decimal {n : Nat} {c : Char} (h : c ∈ decimal n) :
    digitValue c = c.toNat - '0'.toNat := by
  have hdigit : c.isDigit = true := Nat.isDigit_of_mem_toDigits (by decide) (by decide) h
  rw [digitValue, if_pos (toNat_lt_of_charIsDigit hdigit), if_pos hdigit]

/-- **A number is read back** from its digits. -/
theorem digitsValue_decimal (n : Nat) : digitsValue (decimal n) = n := by
  have hvalues : digitsValue (decimal n) =
      (decimal n).foldl (fun m c => 10 * m + (c.toNat - '0'.toNat)) 0 := by
    refine List.foldl_ext _ _ _ fun m c hc => ?_
    rw [digitValue_of_mem_decimal hc]
  rw [hvalues, ← Nat.ofDigitChars_eq_foldl]
  exact Nat.ofDigitChars_ten_toDigits

/-- The identifier of a project with a number. -/
def ProjectId.idOf (project : ProjectId) (n : Nat) : TaskId := ⟨project.letters, decimal n⟩

/-- **An identifier that is handed out is read back**, unless a digit follows it. -/
theorem taskId?_of_nextId {project : ProjectId} {a b : Allocator} {id : List Char}
    (h : nextId.run a = .ok (id, b)) (hproject : a.project = project.toString) {rest : List Char}
    (hrest : ∀ c, rest.head? = some c → isDigit c = false) :
    taskId? (some project) (id ++ rest) = some (project.idOf (a.last + 1), rest) := by
  obtain ⟨rfl, -⟩ := nextId_eq_ok h
  refine taskId?_eq_some_iff.mpr ⟨rfl, digitRun_decimal _ hrest, ?_⟩
  rw [hproject, ProjectId.toString, String.toList_ofList]
  rfl

end TaskNotes
