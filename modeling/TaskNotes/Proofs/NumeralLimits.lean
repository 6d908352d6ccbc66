/-
# When numbering fails

A numeral is read and written only up to a length, and nothing else can fail while documents are
numbered.  How many numbers are drawn does not depend on what they are, so a computation that draws
a certain count of them succeeds exactly when the last one can be written (`Draws`); numbering a
tree draws one for each carrier in need (`draws_rebuild`).

So documents are numbered exactly when the identifier that stands first in each text can be read and
the highest of their numbers leaves room for the carriers in need (`numbering_succeeds_iff`).

Reading and writing have one limit, and zeros in front count for reading.  So a number can be below
the limit and its numeral too long to be read; and a number that can be read can be followed by one
that cannot be written.  Both occur (`numbering_fails_of_long_numerals`).

In each text only the identifier that stands first is read.  A longer one behind it is never looked
at and does no harm.
-/
import TaskNotes.Proofs.Drawing
import TaskNotes.Proofs.InPlace
import Mathlib.Algebra.Ring.Nat

namespace TaskNotes

/-! ## 1. Computations that draw numbers

Counts add up along a computation, and the condition for a sum is the condition for its last
number, as numbers are drawn in ascending order.  If nothing is drawn, then the seed may be as high
as it likes. -/

/-- Whether the next so many numbers of an allocator can be written. -/
def Allocator.CanDraw (a : Allocator) (count : Nat) : Prop :=
  0 < count → a.last + count < 10 ^ numeralLimit

/-- A computation draws so many numbers: it succeeds exactly when they can be written. -/
structure Draws {α : Type} (x : Numbering α) (count : Nat) : Prop where
  succeeds_iff : ∀ a : Allocator, (∃ r, x.run a = .ok r) ↔ a.CanDraw count
  last_eq : ∀ {a b : Allocator} {r : α}, x.run a = .ok (r, b) → b.last = a.last + count

theorem exists_writeNumeral_iff {n : Nat} :
    (∃ digits, writeNumeral n = .ok digits) ↔ n < 10 ^ numeralLimit := by
  have hlength : (decimal n).length ≤ numeralLimit ↔ n < 10 ^ numeralLimit :=
    Nat.length_toDigits_le_iff (by decide) (by decide)
  rw [← hlength, writeNumeral]
  by_cases h : (decimal n).length ≤ numeralLimit
  · exact iff_of_true ⟨_, if_pos h⟩ h
  · refine iff_of_false ?_ h
    rintro ⟨digits, hdigits⟩
    rw [if_neg h] at hdigits
    cases hdigits

section

variable {α β : Type}

theorem draws_pure (r : α) : Draws (pure r) 0 where
  succeeds_iff a := iff_of_true ⟨_, numbering_pure_eq_ok_iff.mpr rfl⟩ nofun
  last_eq h := by
    cases numbering_pure_eq_ok_iff.mp h
    rfl

/-- The numbers of one computation are drawn, then those of the other. -/
theorem Draws.bind {x : Numbering α} {f : α → Numbering β} {count others : Nat}
    (hx : Draws x count) (hf : ∀ r, Draws (f r) others) : Draws (x >>= f) (count + others) where
  succeeds_iff a := by
    simp only [numbering_bind_eq_ok_iff]
    constructor
    · rintro ⟨r, ⟨q, b⟩, hq, hr⟩
      have hfirst := (hx.succeeds_iff a).mp ⟨_, hq⟩
      have hothers := ((hf q).succeeds_iff b).mp ⟨r, hr⟩
      rw [Allocator.CanDraw, hx.last_eq hq] at hothers
      intro hpos
      rcases Nat.eq_zero_or_pos others with rfl | hothersPos
      · exact hfirst hpos
      · rw [← Nat.add_assoc]
        exact hothers hothersPos
    · intro hroom
      obtain ⟨⟨q, b⟩, hq⟩ := (hx.succeeds_iff a).mpr fun hpos =>
        Nat.lt_of_le_of_lt (by omega) (hroom (by omega))
      have hothers : b.CanDraw others := by
        intro hpos
        rw [hx.last_eq hq, Nat.add_assoc]
        exact hroom (by omega)
      obtain ⟨r, hr⟩ := ((hf q).succeeds_iff b).mpr hothers
      exact ⟨r, ⟨q, b⟩, hq, hr⟩
  last_eq h := by
    obtain ⟨⟨q, between⟩, hq, hr⟩ := numbering_bind_eq_ok_iff.mp h
    rw [(hf q).last_eq hr, hx.last_eq hq, Nat.add_assoc]

theorem draws_nextId : Draws nextId 1 where
  succeeds_iff a := by
    have hroom : a.CanDraw 1 ↔ a.last + 1 < 10 ^ numeralLimit :=
      ⟨fun h => h Nat.one_pos, fun h _ => h⟩
    rw [hroom, ← exists_writeNumeral_iff, nextId_run]
    simp only [map_eq_ok_iff]
    exact ⟨fun ⟨_, digits, hdigits, _⟩ => ⟨digits, hdigits⟩,
      fun ⟨digits, hdigits⟩ => ⟨_, digits, hdigits, rfl⟩⟩
  last_eq h := by
    rw [(nextId_eq_ok h).2]
    rfl

theorem draws_nextId_bind (f : List Char → α) :
    Draws (do let id ← nextId; pure (f id)) 1 :=
  draws_nextId.bind fun _ => draws_pure _

end

/-! ## 2. Texts -/

section

variable {project : ProjectId}

theorem draws_numberHeadingText (project : ProjectId) (text : List Char) :
    Draws (numberHeadingText project text) (headingNeedsNumber project text).toNat := by
  have hrule := headingRule project text
  generalize numberHeadingText project text = x at hrule ⊢
  cases hrule with
  | kept hid =>
    rw [headingNeedsNumber_eq_false hid]
    exact draws_pure _
  | replacedBehindBox hid _ =>
    rw [(headingNeedsNumber_of_not_startsWithId hid).1]
    exact draws_nextId_bind _
  | inserted hbare =>
    rw [(headingNeedsNumber_of_bare fun inner hinner => (hbare inner hinner).1).1]
    exact draws_nextId_bind _
  | boxed hbox hid =>
    rw [headingNeedsNumber_of_box?_eq_none hbox, placeholder?_eq_none_of_taskId? hid]
    exact draws_pure _
  | replaced hbox _ hasked =>
    rw [headingNeedsNumber_of_box?_eq_none hbox, hasked]
    exact draws_nextId_bind _
  | other hbox _ hasked =>
    rw [headingNeedsNumber_of_box?_eq_none hbox, hasked]
    exact draws_pure _

theorem draws_numberItemText (project : ProjectId) (checked : Option Bool) (text : List Char) :
    Draws (numberItemText project checked text)
      (itemNeedsNumber project checked (some text)).toNat := by
  have hrule := itemRule project checked text
  generalize numberItemText project checked text = x at hrule ⊢
  cases hrule with
  | boxed hid =>
    rw [itemNeedsNumber_eq_false hid]
    exact draws_pure _
  | replaced hid hasked =>
    rw [itemNeedsNumber_of_placeholder? hid hasked]
    exact draws_nextId_bind _
  | inserted hid _ =>
    rw [itemNeedsNumber_of_box hid]
    exact draws_nextId_bind _
  | other _ hasked =>
    rw [itemNeedsNumber, starts_placeholder, hasked, Option.isSome_none]
    exact draws_pure _

/-! ## 3. Trees

Taking a step at a branch and going on with its children draws the numbers of both. -/

/-- What cannot carry a task needs no number. -/
theorem needsNumber_of_not_isCarrier {kind : Branch} (h : kind.isCarrier = false)
    (cs : List Node) : (Node.branch kind cs).needsNumber project = false := by
  cases kind with
  | heading depth => cases h
  | listItem checked spread => cases h
  | _ => rfl

/-- **A number is drawn for a branch iff it needs one.** -/
theorem draws_numberTask (project : ProjectId) (kind : Branch) (cs : List Node) :
    Draws (numberTask project kind cs) ((Node.branch kind cs).needsNumber project).toNat := by
  have hrule := taskRule project kind cs
  generalize numberTask project kind cs = x at hrule ⊢
  cases hrule with
  | other hkind =>
    rw [needsNumber_of_not_isCarrier hkind]
    exact draws_pure _
  | heading htext =>
    rw [Node.needsNumber, htext, Option.any_some]
    exact (draws_numberHeadingText _ _).bind fun _ => draws_pure _
  | headingWithoutText htext =>
    rw [Node.needsNumber, htext, Option.any_none]
    exact draws_pure _
  | item htext =>
    rw [Node.needsNumber, htext, Option.map_some]
    exact (draws_numberItemText _ _ _).bind fun _ => draws_pure _
  | itemFilled htext =>
    rw [Node.needsNumber, htext, Option.map_none]
    exact draws_nextId_bind _
  | itemWithoutText htext =>
    rw [Node.needsNumber, htext, Option.map_none]
    exact draws_pure _

/-- How many carriers of trees need a number. -/
def countNeeds (project : ProjectId) (trees : List Node) : Nat :=
  (trees.flatMap Node.carriers).countP (Node.needsNumber project)

mutual
/-- **Numbering a tree draws a number for each carrier in need.** -/
theorem draws_rebuild (project : ProjectId) (tree : Node) :
    Draws (tree.rebuild .kept (numberTask project))
      (tree.carriers.countP (Node.needsNumber project)) := by
  match tree with
  | .leaf kind =>
    rw [Node.rebuild]
    exact draws_pure _
  | .branch kind cs =>
    have hcount : (Node.branch kind cs).carriers.countP (Node.needsNumber project) =
        ((Node.branch kind cs).needsNumber project).toNat +
          ((carriersAmong none cs).countP (Node.needsNumber project) + 0) := by
      rw [Node.carriers, Nat.add_zero]
      cases hkind : kind.isCarrier with
      | false =>
        rw [needsNumber_of_not_isCarrier hkind, if_neg Bool.false_ne_true, Bool.toNat_false,
          Nat.zero_add]
      | true =>
        rw [if_pos rfl, List.countP_cons, Nat.add_comm]
        cases (Node.branch kind cs).needsNumber project <;> rfl
    rw [Node.rebuild, hcount]
    exact (draws_numberTask project kind cs).bind fun _ =>
      (draws_rebuildAll project none cs).bind fun _ => draws_pure _

/-- So do siblings, behind the body of a region and elsewhere. -/
theorem draws_rebuildAll (project : ProjectId) (skipping : Option String) (cs : List Node) :
    Draws (rebuildAll .kept (numberTask project) skipping cs)
      ((carriersAmong skipping cs).countP (Node.needsNumber project)) := by
  match cs, skipping with
  | [], _ =>
    rw [rebuildAll_nil, carriersAmong]
    exact draws_pure _
  | c :: cs, some name =>
    rw [rebuildAll_skip, carriersAmong_skip]
    exact draws_rebuildAll project _ cs
  | c :: cs, none =>
    cases hbegin : regionBegin? regionNames c with
    | none =>
      rw [rebuildAll_of_not_begin hbegin, carriersAmong_of_not_begin hbegin, List.countP_append]
      exact (draws_rebuild project c).bind fun _ =>
        (draws_rebuildAll project none cs).bind fun _ => draws_pure _
    | some name =>
      rw [rebuildAll_of_begin hbegin, carriersAmong_of_begin hbegin]
      exact (draws_rebuildAll project _ cs).bind fun _ => draws_pure _
end

end

/-! ## 4. Documents

Documents share one allocator, so their counts add up too; the seed comes from all texts of all of
them. -/

/-- Numbers documents one after the other, as one computation. -/
def numberEach (project : ProjectId) : List (Path × Node) → Numbering (List Document)
  | [] => pure []
  | (path, tree) :: others => do
    let tree ← tree.number project .kept
    let later ← numberEach project others
    pure (⟨path, tree⟩ :: later)

section

variable {project : ProjectId} {a : Allocator}

theorem numberTree_eq_ok_iff (hproject : a.project = project.toString) {tree : Node}
    {r : Node × Allocator} :
    numberTree .kept a tree = .ok r ↔ (tree.number project .kept).run a = .ok r := by
  rw [numberTree, hproject, checkProject_toString]
  exact ofNumeral_eq_ok_iff

theorem numberDocuments_eq_ok_iff (hproject : a.project = project.toString)
    {trees : List (Path × Node)} {docs : List Document} {last : Allocator} :
    numberDocuments a trees = .ok (docs, last) ↔
      (numberEach project trees).run a = .ok (docs, last) := by
  induction trees generalizing a docs last with
  | nil => simp only [numberDocuments, numberEach, numbering_pure_eq_ok_iff, Except.ok.injEq]
  | cons first others ih =>
    obtain ⟨path, tree⟩ := first
    have hbetween {out : Node} {between : Allocator}
        (h : (tree.number project .kept).run a = .ok (out, between)) :
        between.project = project.toString :=
      (onlyDraws_rebuild (onlyDraws_numberTask project) tree a between out h).project_eq.trans
        hproject
    simp only [numberDocuments, numberEach, numbering_bind_eq_ok_iff, numbering_pure_eq_ok_iff,
      bind_eq_ok_iff, pure_eq_ok_iff, numberTree_eq_ok_iff hproject, Prod.exists]
    constructor
    · rintro ⟨out, between, htree, later, after, hlater, heq⟩
      exact ⟨out, between, htree, later, after, (ih (hbetween htree)).mp hlater, heq⟩
    · rintro ⟨out, between, htree, later, after, hlater, heq⟩
      exact ⟨out, between, htree, later, after, (ih (hbetween htree)).mpr hlater, heq⟩

theorem draws_numberEach (project : ProjectId) (trees : List (Path × Node)) :
    Draws (numberEach project trees) (countNeeds project (trees.map Prod.snd)) := by
  induction trees with
  | nil => exact draws_pure _
  | cons first others ih =>
    rw [numberEach, List.map_cons, countNeeds, List.flatMap_cons, List.countP_append]
    exact (draws_rebuild project first.2).bind fun _ => ih.bind fun _ => draws_pure _

/-- **Documents are numbered iff the numbers they need can be written.** -/
theorem exists_numberDocuments_iff (hproject : a.project = project.toString)
    {trees : List (Path × Node)} :
    (∃ docs last, numberDocuments a trees = .ok (docs, last)) ↔
      a.CanDraw (countNeeds project (trees.map Prod.snd)) := by
  rw [← (draws_numberEach project trees).succeeds_iff a]
  simp only [numberDocuments_eq_ok_iff hproject, Prod.exists]

/-- A text is readable iff the identifier that stands first in it is not too long. -/
theorem isReadable_iff {text : String} :
    IsReadable project text ↔ ∀ front digits, StandsFirst project text.toList front digits →
      digits.length ≤ numeralLimit := by
  cases hfirst : firstTaskId? (some project) text.toList with
  | none =>
    refine iff_of_true ⟨none, by rw [firstTaskNumber, hfirst]⟩ fun front digits hstands => ?_
    exact absurd hstands.1 (not_standsBehind_of_firstTaskId? hfirst front digits)
  | some id =>
    have hnumber : IsReadable project text ↔ id.digits.length ≤ numeralLimit := by
      rw [IsReadable, firstTaskNumber, hfirst]
      simp only [map_eq_ok_iff, TaskId.number, readNumeral]
      by_cases hlength : id.digits.length ≤ numeralLimit
      · exact iff_of_true ⟨_, _, if_pos hlength, rfl⟩ hlength
      · refine iff_of_false ?_ hlength
        rintro ⟨_, _, hread, -⟩
        rw [if_neg hlength] at hread
        cases hread
    rw [hnumber]
    constructor
    · intro hlength front digits hstands
      rw [← firstTaskId?_digits_eq hfirst hstands]
      exact hlength
    · intro hlengths
      obtain ⟨front, hstands, hmin⟩ := standsBehind_of_firstTaskId? hfirst
      exact hlengths front id.digits ⟨hstands, hmin⟩

/-- **An allocator is made iff every text is readable.** -/
theorem exists_ofTrees_iff {trees : List Node} :
    (∃ seed, Allocator.ofTrees project.toString trees = .ok seed) ↔
      ∀ text ∈ trees.flatMap Node.texts, IsReadable project text := by
  rw [← @exists_foldlM_raiseTo_iff project (trees.flatMap Node.texts) 0]
  simp only [Allocator.ofTrees, map_eq_ok_iff, highestNumber_eq_foldlM, ofNumeral_eq_ok_iff]
  exact ⟨fun ⟨_, n, hn, _⟩ => ⟨n, hn⟩, fun ⟨n, hn⟩ => ⟨_, n, hn, rfl⟩⟩

/-- An allocator goes on from the highest of the first numbers. -/
theorem last_eq_iff_isGreatest {trees : List Node} {seed : Allocator}
    (h : Allocator.ofTrees project.toString trees = .ok seed) {highest : Nat} :
    IsGreatest (insert 0 (firstNumbers project (trees.flatMap Node.texts))) highest ↔
      seed.last = highest := by
  obtain ⟨n, hn, rfl⟩ := map_eq_ok_iff.mp h
  have hgreatest := isGreatest_of_highestNumber hn
  exact ⟨fun hother => hgreatest.unique hother, fun heq => heq ▸ hgreatest⟩

end

/-! ## 5. When documents are numbered -/

/-- **When documents are numbered.**  An allocator is made from trees and all of them are numbered
with it exactly when the identifier that stands first in each text is not too long to be read, and
the numbers behind the highest one, of which each carrier in need is given one, are not too long
to be written. -/
theorem numbering_succeeds_iff {project : ProjectId} {trees : List (Path × Node)} :
    (∃ seed docs last, Allocator.ofTrees project.toString (trees.map Prod.snd) = .ok seed ∧
        numberDocuments seed trees = .ok (docs, last)) ↔
      (∀ text ∈ (trees.map Prod.snd).flatMap Node.texts, ∀ front digits,
        StandsFirst project text.toList front digits → digits.length ≤ numeralLimit) ∧
      ∀ highest, IsGreatest
          (insert 0 (firstNumbers project ((trees.map Prod.snd).flatMap Node.texts))) highest →
        0 < countNeeds project (trees.map Prod.snd) →
          highest + countNeeds project (trees.map Prod.snd) < 10 ^ numeralLimit := by
  have hseeds := @exists_ofTrees_iff project (trees.map Prod.snd)
  simp only [isReadable_iff] at hseeds
  rw [← hseeds]
  constructor
  · rintro ⟨seed, docs, last, hseed, hdocs⟩
    refine ⟨⟨seed, hseed⟩, fun highest hhighest => ?_⟩
    rw [← (last_eq_iff_isGreatest hseed).mp hhighest]
    exact (exists_numberDocuments_iff (project_of_ofTrees hseed)).mp ⟨docs, last, hdocs⟩
  · rintro ⟨⟨seed, hseed⟩, hroom⟩
    obtain ⟨docs, last, hdocs⟩ := (exists_numberDocuments_iff (project_of_ofTrees hseed)).mpr
      (hroom seed.last ((last_eq_iff_isGreatest hseed).mpr rfl))
    exact ⟨seed, docs, last, hseed, hdocs⟩

/-- A document with a heading that needs a number, and with an identifier. -/
def mentionOf (digits : List Char) : Node :=
  .root [.heading .one [.text "[ ] x"],
    .paragraph [.text (String.ofList ("TODO-".toList ++ digits))]]

theorem texts_mentionOf (digits : List Char) :
    (mentionOf digits).texts = ["[ ] x", String.ofList ("TODO-".toList ++ digits)] := by
  rw [Node.texts, Node.walk_eq_preorder]
  rfl

theorem countNeeds_mentionOf (digits : List Char) : countNeeds .default [mentionOf digits] = 1 := by
  have hcarriers : [mentionOf digits].flatMap Node.carriers = [.heading .one [.text "[ ] x"]] := rfl
  rw [countNeeds, hcarriers]
  decide +kernel

/-- Its identifier stands first in its text. -/
theorem standsFirst_mentionOf {digits : List Char} (h : DigitRun digits []) :
    ∃ text ∈ [mentionOf digits].flatMap Node.texts,
      StandsFirst .default text.toList [] digits := by
  refine ⟨String.ofList ("TODO-".toList ++ digits), ?_, ⟨[], h, ?_⟩, fun _ _ _ => Nat.zero_le _⟩
  · rw [List.flatMap_singleton, texts_mentionOf]
    exact List.mem_cons_of_mem _ List.mem_cons_self
  · rw [String.toList_ofList, List.append_nil, List.nil_append]
    rfl

/-- No longer identifier stands first in a text of it. -/
theorem length_le_of_standsFirst_mentionOf {digits : List Char} (h : DigitRun digits [])
    {text : String} (htext : text ∈ [mentionOf digits].flatMap Node.texts)
    {front others : List Char} (hothers : StandsFirst .default text.toList front others) :
    others.length ≤ digits.length := by
  obtain ⟨⟨after, -, heq⟩, hmin⟩ := hothers
  rw [List.flatMap_singleton, texts_mentionOf] at htext
  rcases List.mem_cons.mp htext with rfl | hmention
  · -- the heading has no hyphen
    have hhyphen : '-' ∈ "[ ] x".toList := by
      rw [heq]
      simp
    exact absurd hhyphen (by decide)
  · cases List.mem_singleton.mp hmention
    rw [String.toList_ofList] at heq hmin
    have hfront : front = [] := List.length_eq_zero_iff.mp <| Nat.le_zero.mp <|
      hmin [] digits ⟨[], h, by rw [List.append_nil]; rfl⟩
    have hdigits : digits = others ++ after := by
      rw [hfront, List.nil_append, List.append_assoc] at heq
      have heq : (ProjectId.letters .default ++ ['-']) ++ digits =
          (ProjectId.letters .default ++ ['-']) ++ (others ++ after) := heq
      exact List.append_cancel_left heq
    rw [hdigits, List.length_append]
    exact Nat.le_add_right _ _

theorem digitRun_nines {n : Nat} (hn : n ≠ 0) : DigitRun (List.replicate n '9') [] where
  ne_nil h := hn (List.replicate_eq_nil_iff _ |>.mp h)
  isDigit_of_mem _ hmem := by
    rw [List.eq_of_mem_replicate hmem]
    decide
  not_continued := nofun

theorem digitRun_zeros_seven (n : Nat) : DigitRun (List.replicate n '0' ++ ['7']) [] where
  ne_nil := List.append_ne_nil_of_right_ne_nil _ (List.cons_ne_nil _ _)
  isDigit_of_mem c hmem := by
    rcases List.mem_append.mp hmem with hzero | hseven
    · rw [List.eq_of_mem_replicate hzero]
      decide
    · rw [List.mem_singleton.mp hseven]
      decide
  not_continued := nofun

theorem digitsValue_replicate_nine (n : Nat) :
    digitsValue (List.replicate n '9') + 1 = 10 ^ n := by
  induction n with
  | zero => rfl
  | succ n ih =>
    rw [List.replicate_succ', digitsValue, List.foldl_append]
    change 10 * digitsValue (List.replicate n '9') + 9 + 1 = 10 ^ (n + 1)
    rw [Nat.pow_succ]
    omega

/-- The number `7` behind zeros is too long to be read, and the number behind one of as many nines
as can be read is too long to be written. -/
theorem numbering_fails_of_long_numerals :
    (¬ ∃ seed, Allocator.ofTrees ProjectId.default.toString
        [mentionOf (List.replicate numeralLimit '0' ++ ['7'])] = .ok seed) ∧
      (∃ seed, Allocator.ofTrees ProjectId.default.toString
        [mentionOf (List.replicate numeralLimit '9')] = .ok seed) ∧
      ¬ ∃ seed docs last, Allocator.ofTrees ProjectId.default.toString
          [mentionOf (List.replicate numeralLimit '9')] = .ok seed ∧
        numberDocuments seed [(.ofString "/n/a.md", mentionOf (List.replicate numeralLimit '9'))] =
          .ok (docs, last) := by
  have hnines : DigitRun (List.replicate numeralLimit '9') [] := digitRun_nines (by decide)
  refine ⟨fun hseed => ?_, ?_, ?_⟩
  · obtain ⟨text, htext, hfirst⟩ := standsFirst_mentionOf (digitRun_zeros_seven numeralLimit)
    have hlength := isReadable_iff.mp (exists_ofTrees_iff.mp hseed text htext) _ _ hfirst
    rw [List.length_append, List.length_replicate] at hlength
    exact absurd hlength (by decide)
  · refine exists_ofTrees_iff.mpr fun text htext => isReadable_iff.mpr fun front digits hfirst => ?_
    have hlength := length_le_of_standsFirst_mentionOf hnines htext hfirst
    rwa [List.length_replicate] at hlength
  · rintro ⟨seed, docs, last, hseed, hdocs⟩
    obtain ⟨text, htext, hfirst⟩ := standsFirst_mentionOf hnines
    have hle : digitsValue (List.replicate numeralLimit '9') ≤ seed.last :=
      ((last_eq_iff_isGreatest hseed).mpr rfl).2
        (Set.mem_insert_of_mem _ ⟨text, htext, [], _, hfirst, rfl⟩)
    have hroom := (exists_numberDocuments_iff (project_of_ofTrees hseed)).mp ⟨docs, last, hdocs⟩
    have hneeds := countNeeds_mentionOf (List.replicate numeralLimit '9')
    rw [List.map_singleton, Allocator.CanDraw, hneeds] at hroom
    have hvalue := digitsValue_replicate_nine numeralLimit
    have hlt := hroom Nat.one_pos
    generalize 10 ^ numeralLimit = limit at hvalue hlt
    omega

end TaskNotes
