/-
# The number from which numbering goes on

An allocator goes on from the highest number in use.  Of each text it counts the identifier that
stands first, wherever that is: so the numbers it goes by are `firstNumbers`.  The identifiers that
a reader sees are the whole ones (`wholeNumbers`): a text can hold several of them, and behind
another capital letter stands only the tail of an identifier of another project.

The seed is the highest of the first numbers (`isGreatest_of_highestNumber`).  It is the highest of
the whole ones, and what is handed out is new, exactly when the two classes bound each other
(`highestNumber_isGreatest_iff`).

Both classes are sets of numbers, taken over all text nodes of the trees, those in the bodies of
regions included; code and HTML are no texts.  For the first class nothing is left open.  For the
second one neither part of the condition can be dropped: a second identifier in a text may be
higher than the first ones, and then it can be handed out once more, and the tail of a longer
project may be higher than all whole numbers, and then numbers are left out
(`highestNumber_not_isGreatest`).

`IsGreatest` of the class with zero put in stands for the highest number, so that texts without
identifiers need no case of their own.
-/
import TaskNotes.Proofs.DocumentOrder
import TaskNotes.Proofs.Identifier
import Mathlib.Order.Bounds.Basic

namespace TaskNotes

/-! ## 1. First and whole identifiers

Both are said of places in a text.  At one place there is at most one identifier, with all the
digits that follow. -/

/-- An identifier stands in a text, and no other stands further to the front. -/
def StandsFirst (project : ProjectId) (text front digits : List Char) : Prop :=
  StandsBehind project text front digits ∧
    ∀ before others, StandsBehind project text before others → front.length ≤ before.length

/-- An identifier stands in a text, and its project is not the tail of a longer one. -/
def StandsWhole (project : ProjectId) (text front digits : List Char) : Prop :=
  StandsBehind project text front digits ∧ ∀ c, front.getLast? = some c → c.isUpper = false

/-- The numbers of the first identifiers of texts. -/
def firstNumbers (project : ProjectId) (texts : List String) : Set Nat :=
  {n | ∃ text ∈ texts, ∃ front digits,
    StandsFirst project text.toList front digits ∧ digitsValue digits = n}

/-- The numbers of the whole identifiers in texts. -/
def wholeNumbers (project : ProjectId) (texts : List String) : Set Nat :=
  {n | ∃ text ∈ texts, ∃ front digits,
    StandsWhole project text.toList front digits ∧ digitsValue digits = n}

section

variable {project : ProjectId} {text : List Char}

/-- Where an identifier stands, one stands first, and it is found. -/
theorem exists_firstTaskId? {front digits : List Char}
    (h : StandsBehind project text front digits) :
    ∃ id, firstTaskId? (some project) text = some id := by
  cases hfirst : firstTaskId? (some project) text with
  | none => exact absurd h (not_standsBehind_of_firstTaskId? hfirst front digits)
  | some id => exact ⟨id, rfl⟩

theorem standsBehind_unique {front before digits others : List Char}
    (h : StandsBehind project text front digits) (h' : StandsBehind project text before others)
    (hlength : front.length = before.length) : digits = others := by
  obtain ⟨back, rest, htext, hback⟩ := standsBehind_iff.mp h
  obtain ⟨behind, _, htext', hbehind⟩ := standsBehind_iff.mp h'
  obtain ⟨-, rfl⟩ := List.append_inj (htext.symm.trans htext') hlength
  rw [hback] at hbehind
  exact congrArg (fun r => r.1.digits) (Option.some.inj hbehind)

/-- What is found is the first identifier. -/
theorem firstTaskId?_digits_eq {front digits : List Char} {id : TaskId}
    (h : firstTaskId? (some project) text = some id)
    (hfirst : StandsFirst project text front digits) : id.digits = digits := by
  obtain ⟨before, hstands, hmin⟩ := standsBehind_of_firstTaskId? h
  refine standsBehind_unique hstands hfirst.1 ?_
  exact Nat.le_antisymm (hmin front digits hfirst.1) (hfirst.2 before id.digits hstands)

end

section

variable {project : ProjectId} {texts : List String}

theorem mem_firstNumbers_of_firstTaskId? {text : String} {id : TaskId} (htext : text ∈ texts)
    (h : firstTaskId? (some project) text.toList = some id) :
    digitsValue id.digits ∈ firstNumbers project texts := by
  obtain ⟨front, hstands, hmin⟩ := standsBehind_of_firstTaskId? h
  exact ⟨text, htext, front, id.digits, ⟨hstands, hmin⟩, rfl⟩

/-- A text with a whole identifier has a first one. -/
theorem firstNumbers_nonempty_of_mem_wholeNumbers {n : Nat} (h : n ∈ wholeNumbers project texts) :
    (firstNumbers project texts).Nonempty := by
  obtain ⟨text, htext, front, digits, ⟨hstands, -⟩, -⟩ := h
  obtain ⟨id, hid⟩ := exists_firstTaskId? hstands
  exact ⟨_, mem_firstNumbers_of_firstTaskId? htext hid⟩

theorem firstNumbers_cons (text : String) :
    firstNumbers project (text :: texts) =
      firstNumbers project [text] ∪ firstNumbers project texts := by
  ext n
  simp [firstNumbers]

end

/-! ## 2. The highest number in use

The texts are gone through once, and the number is raised by each; the induction is on the texts,
with the number reached so far in the class. -/

theorem isGreatest_insert_union {s t : Set Nat} {k m n : Nat} (hs : IsGreatest (insert k s) m)
    (ht : IsGreatest (insert m t) n) : IsGreatest (insert k (s ∪ t)) n := by
  obtain ⟨hm, hsle⟩ := hs
  obtain ⟨hn, htle⟩ := ht
  have hmn : m ≤ n := htle (Set.mem_insert m t)
  constructor
  · rcases hn with rfl | hn
    · exact Set.insert_subset_insert Set.subset_union_left hm
    · exact .inr (.inr hn)
  · rintro j (rfl | hj | hj)
    · exact (hsle (Set.mem_insert _ _)).trans hmn
    · exact (hsle (.inr hj)).trans hmn
    · exact htle (.inr hj)

section

variable {project : ProjectId} {text : String} {texts : List String} {k n : Nat}

/-- One text raises the number to that of its first identifier. -/
theorem isGreatest_of_raiseTo (h : raiseTo project k text = .ok n) :
    IsGreatest (insert k (firstNumbers project [text])) n := by
  obtain ⟨number, hnumber, rfl⟩ := map_eq_ok_iff.mp h
  rw [firstTaskNumber] at hnumber
  split at hnumber
  next id hid =>
    obtain ⟨value, hvalue, rfl⟩ := map_eq_ok_iff.mp hnumber
    have hdigits : digitsValue id.digits = value := by
      rw [TaskId.number, readNumeral] at hvalue
      split at hvalue
      · exact Except.ok.inj hvalue
      · cases hvalue
    have hfirst : firstNumbers project [text] = {value} := by
      ext m
      constructor
      · rintro ⟨_, hmem, front, digits, hstands, rfl⟩
        obtain rfl := List.mem_singleton.mp hmem
        rw [← firstTaskId?_digits_eq hid hstands, hdigits]
        rfl
      · rintro rfl
        rw [← hdigits]
        exact mem_firstNumbers_of_firstTaskId? (List.mem_singleton_self text) hid
    rw [hfirst]
    exact isGreatest_pair
  next hid =>
    obtain rfl := Except.ok.inj hnumber
    have hfirst : firstNumbers project [text] = ∅ := by
      refine Set.eq_empty_iff_forall_notMem.mpr ?_
      rintro m ⟨_, hmem, front, digits, hstands, -⟩
      obtain rfl := List.mem_singleton.mp hmem
      exact not_standsBehind_of_firstTaskId? hid front digits hstands.1
    rw [hfirst, insert_empty_eq, Option.getD_none, Nat.max_zero]
    exact isGreatest_singleton

/-- Texts raise the number to the highest of their first identifiers. -/
theorem isGreatest_of_foldlM_raiseTo :
    ∀ {texts : List String} {k n : Nat}, texts.foldlM (raiseTo project) k = .ok n →
      IsGreatest (insert k (firstNumbers project texts)) n
  | [], k, n, h => by
    obtain rfl := pure_eq_ok_iff.mp h
    have hfirst : firstNumbers project [] = ∅ := by
      simp [firstNumbers]
    rw [hfirst, insert_empty_eq]
    exact isGreatest_singleton
  | text :: texts, k, n, h => by
    rw [List.foldlM_cons] at h
    obtain ⟨m, hm, hn⟩ := bind_eq_ok_iff.mp h
    rw [firstNumbers_cons]
    exact isGreatest_insert_union (isGreatest_of_raiseTo hm) (isGreatest_of_foldlM_raiseTo hn)

/-- **The seed is the highest of the first numbers**, or zero. -/
theorem isGreatest_of_highestNumber {trees : List Node}
    (h : highestNumber project.toString trees = .ok n) :
    IsGreatest (insert 0 (firstNumbers project (trees.flatMap Node.texts))) n := by
  rw [highestNumber] at h
  split at h
  next htexts =>
    obtain rfl := Except.ok.inj h
    rw [htexts]
    exact isGreatest_of_foldlM_raiseTo rfl
  next =>
    rw [checkProject_toString] at h
    exact isGreatest_of_foldlM_raiseTo (ofNumeral_eq_ok_iff.mp h)

end

/-! ## 3. When the seed is exact

What is left is a comparison of two classes of numbers. -/

/-- A whole number is at most the seed exactly when it is at most a first number. -/
theorem le_iff_exists_firstNumbers {project : ProjectId} {texts : List String} {n w : Nat}
    (hseed : IsGreatest (insert 0 (firstNumbers project texts)) n)
    (hw : w ∈ wholeNumbers project texts) :
    w ≤ n ↔ ∃ f ∈ firstNumbers project texts, w ≤ f := by
  obtain ⟨hn, hle⟩ := hseed
  constructor
  · intro hwn
    rcases hn with rfl | hn
    · obtain ⟨f, hf⟩ := firstNumbers_nonempty_of_mem_wholeNumbers hw
      exact ⟨f, hf, hwn.trans (Nat.zero_le f)⟩
    · exact ⟨n, hn, hwn⟩
  · rintro ⟨f, hf, hwf⟩
    exact hwf.trans (hle (.inr hf))

/-- **The seed, and when it is exact.**  The seed is the highest of the first numbers.  No whole
identifier has a number that is still to be handed out exactly when no whole number exceeds all
first ones; and the seed is the highest of the whole numbers exactly when, besides, no first number
exceeds all whole ones. -/
theorem highestNumber_isGreatest_iff {project : ProjectId} {trees : List Node} {n : Nat}
    (h : highestNumber project.toString trees = .ok n) :
    IsGreatest (insert 0 (firstNumbers project (trees.flatMap Node.texts))) n ∧
      ((∀ m, n < m → m ∉ wholeNumbers project (trees.flatMap Node.texts)) ↔
        ∀ w ∈ wholeNumbers project (trees.flatMap Node.texts),
          ∃ f ∈ firstNumbers project (trees.flatMap Node.texts), w ≤ f) ∧
      (IsGreatest (insert 0 (wholeNumbers project (trees.flatMap Node.texts))) n ↔
        (∀ w ∈ wholeNumbers project (trees.flatMap Node.texts),
          ∃ f ∈ firstNumbers project (trees.flatMap Node.texts), w ≤ f) ∧
        ∀ f ∈ firstNumbers project (trees.flatMap Node.texts),
          ∃ w ∈ insert 0 (wholeNumbers project (trees.flatMap Node.texts)), f ≤ w) := by
  have hseed := isGreatest_of_highestNumber h
  generalize trees.flatMap Node.texts = texts at hseed ⊢
  have hbelow (w : Nat) (hw : w ∈ wholeNumbers project texts) :
      w ≤ n ↔ ∃ f ∈ firstNumbers project texts, w ≤ f := le_iff_exists_firstNumbers hseed hw
  refine ⟨hseed, ?_, ?_⟩
  · constructor
    · intro hnew w hw
      exact (hbelow w hw).mp (Nat.le_of_not_lt fun hlt => hnew w hlt hw)
    · intro hbound m hm hw
      exact absurd ((hbelow m hw).mpr (hbound m hw)) (Nat.not_le_of_lt hm)
  · constructor
    · rintro ⟨hwhole, hwholeLe⟩
      exact ⟨fun w hw => (hbelow w hw).mp (hwholeLe (.inr hw)),
        fun f hf => ⟨n, hwhole, hseed.2 (.inr hf)⟩⟩
    · rintro ⟨hbound, hreached⟩
      have hwholeLe : n ∈ upperBounds (insert 0 (wholeNumbers project texts)) := by
        rintro w (rfl | hw)
        · exact Nat.zero_le n
        · exact (hbelow w hw).mpr (hbound w hw)
      refine ⟨?_, hwholeLe⟩
      rcases hseed.1 with rfl | hn
      · exact Set.mem_insert 0 _
      · obtain ⟨w, hw, hnw⟩ := hreached n hn
        rwa [Nat.le_antisymm hnw (hwholeLe hw)]

/-- Two texts, each with its highest identifier in front. -/
def mentions : Node :=
  .root [.paragraph [.text "TODO-3, after ABC-9"],
    .list false none false [.listItem (some true) false [.text "TODO-07 and TODO-4"]]]

theorem texts_mentions :
    [mentions].flatMap Node.texts = ["TODO-3, after ABC-9", "TODO-07 and TODO-4"] := by
  rw [List.flatMap_singleton, Node.texts, Node.walk_eq_preorder]
  rfl

theorem highestNumber_isGreatest_mentions :
    highestNumber ProjectId.default.toString [mentions] = .ok 7 ∧
      IsGreatest (insert 0 (firstNumbers .default ([mentions].flatMap Node.texts))) 7 := by
  have h : highestNumber ProjectId.default.toString [mentions] = .ok 7 := by
    rw [highestNumber, texts_mentions]
    rfl
  exact ⟨h, (highestNumber_isGreatest_iff h).1⟩

/-- A text with a higher identifier behind the first one. -/
def laterMention : Node := .root [.paragraph [.text "TODO-1 TODO-5"]]

/-- A text with an identifier of another project whose name ends in the same letters. -/
def longerProject : Node := .root [.paragraph [.text "ATODO-5"]]

theorem texts_laterMention : [laterMention].flatMap Node.texts = ["TODO-1 TODO-5"] := by
  rw [List.flatMap_singleton, Node.texts, Node.walk_eq_preorder]
  rfl

theorem texts_longerProject : [longerProject].flatMap Node.texts = ["ATODO-5"] := by
  rw [List.flatMap_singleton, Node.texts, Node.walk_eq_preorder]
  rfl

theorem five_mem_wholeNumbers_laterMention :
    5 ∈ wholeNumbers .default ([laterMention].flatMap Node.texts) := by
  rw [texts_laterMention]
  refine ⟨_, List.mem_singleton_self _, ['T', 'O', 'D', 'O', '-', '1', ' '], ['5'], ?_, rfl⟩
  have hdigits : DigitRun ['5'] [] :=
    ⟨by decide, List.forall_mem_singleton.mpr (by decide), nofun⟩
  refine ⟨⟨[], hdigits, rfl⟩, ?_⟩
  rintro c hc
  obtain rfl : ' ' = c := Option.some.inj hc
  decide

theorem wholeNumbers_longerProject :
    wholeNumbers .default ([longerProject].flatMap Node.texts) = ∅ := by
  rw [texts_longerProject]
  refine Set.eq_empty_iff_forall_notMem.mpr ?_
  rintro n ⟨_, hmem, front, digits, ⟨hstands, hwhole⟩, -⟩
  obtain rfl := List.mem_singleton.mp hmem
  obtain ⟨back, rest, htext, hread⟩ := standsBehind_iff.mp hstands
  -- the one place where an identifier is read lies behind a capital letter
  have hplaces : ∀ k ≤ 7,
      (taskId? (some .default) ("ATODO-5".toList.drop k)).isSome = true →
        ("ATODO-5".toList.take k).getLast?.any Char.isUpper = true := by
    decide
  have hlength : front.length ≤ 7 := by
    have := congrArg List.length htext
    rw [List.length_append, show "ATODO-5".toList.length = 7 from rfl] at this
    omega
  have hupper := hplaces front.length hlength
  rw [htext, List.drop_left, List.take_left, hread] at hupper
  obtain ⟨c, hc, hupper⟩ := (Option.any_eq_true _ _).mp (hupper rfl)
  rw [hwhole c hc] at hupper
  cases hupper

/-- The seed misses a number behind the first one, and counts that of another project. -/
theorem highestNumber_not_isGreatest :
    (highestNumber ProjectId.default.toString [laterMention] = .ok 1 ∧
        ¬ IsGreatest (insert 0 (wholeNumbers .default ([laterMention].flatMap Node.texts))) 1) ∧
      highestNumber ProjectId.default.toString [longerProject] = .ok 5 ∧
        ¬ IsGreatest (insert 0 (wholeNumbers .default ([longerProject].flatMap Node.texts))) 5 := by
  have hlater : highestNumber ProjectId.default.toString [laterMention] = .ok 1 := by
    rw [highestNumber, texts_laterMention]
    rfl
  have hlonger : highestNumber ProjectId.default.toString [longerProject] = .ok 5 := by
    rw [highestNumber, texts_longerProject]
    rfl
  refine ⟨⟨hlater, ?_⟩, hlonger, ?_⟩
  · rintro ⟨-, hle⟩
    exact absurd (hle (.inr five_mem_wholeNumbers_laterMention)) (by decide)
  · rw [wholeNumbers_longerProject, insert_empty_eq]
    rintro ⟨hmem, -⟩
    exact absurd hmem (by decide)

end TaskNotes
