/-
# Texts that need no number

Numbering looks at one text of a task, and there are texts that it leaves as they are: those that
have their identifier already, and those that do not begin like a task.

* An identifier that is handed out is recognised where it has been written, whatever follows it
  (`startsWithId_of_nextId`).
* What is made of a text needs no number (`headingNumbered_of_run`, `itemNumbered_of_run`).
* A text that needs no number stays, and no number is drawn for it
  (`numberHeadingText_of_numbered`, `numberItemText_of_numbered`).

These are the two halves of idempotence, for one text: numbering makes texts that need no number,
and leaves such texts alone.  For a whole tree they are carried through the traversal in
`Proofs/NumberedTree`.

A text that needs no number is described by how it begins, without mention of numbering.  In a
heading the box stands in the text, and in a list item it has been split off; hence two
descriptions.
-/
import TaskNotes.Proofs.NumberingRules
import TaskNotes.Proofs.Success

namespace TaskNotes

/-! ## 1. Identifiers that are handed out

Decimal digits are ASCII digits, and there is at least one.  What follows may continue the number,
but there is an identifier at the start in any case, and nothing more is asked. -/

theorem dropExact_append (expected text : List Char) :
    dropExact expected (expected ++ text) = some text := by
  induction expected with
  | nil => rfl
  | cons c expected ih => simp [dropExact, ih]

theorem projectAndHyphen?_letters (project : ProjectId) (rest : List Char) :
    projectAndHyphen? (some project) (project.letters ++ '-' :: rest) =
      some (project.letters, rest) := by
  have hdrop := dropExact_append (project.letters ++ ['-']) rest
  rw [List.append_assoc, List.singleton_append] at hdrop
  simp [projectAndHyphen?, project.valid, hdrop]

theorem toNat_lt_of_charIsDigit {c : Char} (h : c.isDigit = true) : c.toNat < 128 := by
  simp only [Char.isDigit, Bool.and_eq_true, decide_eq_true_eq] at h
  have := UInt32.le_iff_toNat_le.mp h.2
  change c.toNat ≤ 57 at this
  omega

theorem isDigit_of_charIsDigit {c : Char} (h : c.isDigit = true) : isDigit c = true := by
  rw [isDigit, if_pos (toNat_lt_of_charIsDigit h), h]

theorem isDigit_of_mem_decimal {n : Nat} {c : Char} (h : c ∈ decimal n) : isDigit c = true :=
  isDigit_of_charIsDigit (Nat.isDigit_of_mem_toDigits (by decide) (by decide) h)

/-- Digits behind a project and a hyphen make an identifier, whatever follows. -/
theorem startsWithId_append {project : ProjectId} {digits : List Char} (hne : digits ≠ [])
    (hdigits : ∀ c ∈ digits, isDigit c = true) (rest : List Char) :
    StartsWithId project (project.letters ++ '-' :: digits ++ rest) := by
  cases digits with
  | nil => exact absurd rfl hne
  | cons d digits =>
    have hd : isDigit d = true := hdigits d List.mem_cons_self
    rw [StartsWithId, taskId?, List.append_assoc, List.cons_append, projectAndHyphen?_letters]
    simp [hd]

/-- The project of the allocator and the next number make the next identifier, if the number can be
written. -/
theorem nextId_run (a : Allocator) :
    nextId.run a = (writeNumeral (a.last + 1)).map fun digits =>
      (a.project.toList ++ '-' :: digits, a.next) := by
  have hsteps : nextId.run a = (writeTaskId a.project (a.last + 1) >>= fun id =>
      pure (id, a.next)) >>= fun r => pure (r.1.toList, r.2) := rfl
  rw [hsteps, writeTaskId]
  cases writeNumeral (a.last + 1) with
  | error e => rfl
  | ok digits =>
    have htext : (a.project ++ "-" ++ String.ofList digits).toList =
        a.project.toList ++ '-' :: digits := by
      simp
    exact congrArg (fun text => Except.ok (text, a.next)) htext

/-- What is handed out: the project of the allocator, a hyphen and the next number. -/
theorem nextId_eq_ok {a b : Allocator} {id : List Char} (h : nextId.run a = .ok (id, b)) :
    id = a.project.toList ++ '-' :: decimal (a.last + 1) ∧ b = a.next := by
  rw [nextId_run] at h
  obtain ⟨digits, hdigits, h⟩ := map_eq_ok_iff.mp h
  obtain ⟨rfl, rfl⟩ := Prod.mk.inj h
  rw [writeNumeral] at hdigits
  split at hdigits
  · rw [← Except.ok.inj hdigits]
    exact ⟨rfl, rfl⟩
  · cases hdigits

/-- **An identifier that is handed out is recognised**, and the allocator stays with its
project. -/
theorem startsWithId_of_nextId {project : ProjectId} {a b : Allocator} {id : List Char}
    (h : nextId.run a = .ok (id, b)) (hproject : a.project = project.toString) :
    b.project = a.project ∧ ∀ rest, StartsWithId project (id ++ rest) := by
  obtain ⟨rfl, rfl⟩ := nextId_eq_ok h
  refine ⟨rfl, fun rest => ?_⟩
  rw [hproject, ProjectId.toString, String.toList_ofList]
  exact startsWithId_append Nat.toDigits_ne_nil (fun c hc => isDigit_of_mem_decimal hc) rest

/-! ## 2. Headings

Every rule for headings ends in a text with box and identifier, or leaves a text that begins like
no task. -/

/-- Whether a text starts with a box, one space and an identifier of a project. -/
def StartsWithBoxAndId (project : ProjectId) (text : List Char) : Prop :=
  (Pattern.boxAndTaskId (some project)).starts text = true

theorem startsWithBoxAndId_marker {project : ProjectId} {inner : List Char}
    (h : StartsWithId project inner) (state : BoxState) :
    StartsWithBoxAndId project (state.marker ++ ' ' :: inner) := by
  rw [StartsWithBoxAndId, starts_boxAndTaskId (boxAndSpace?_marker state inner)]
  exact h

/-- Whether the text of a heading needs no number: it has its box and identifier, or it starts
with none of a box, an identifier and a placeholder. -/
def HeadingNumbered (project : ProjectId) (text : List Char) : Prop :=
  StartsWithBoxAndId project text ∨
    (box? text = none ∧ ¬ StartsWithId project text ∧ placeholder? (some project) text = none)

section

variable {project : ProjectId} {a b : Allocator} {text out : List Char}

/-- An identifier that is handed out is put behind a box. -/
theorem headingNumbered_of_nextId {state : BoxState} {rest : List Char}
    (h : (do let id ← nextId; pure (state.marker ++ ' ' :: id ++ rest) :
      Numbering (List Char)).run a = .ok (out, b))
    (hproject : a.project = project.toString) :
    HeadingNumbered project out ∧ b.project = a.project := by
  obtain ⟨⟨id, _⟩, hid, h⟩ := numbering_bind_eq_ok_iff.mp h
  obtain ⟨rfl, rfl⟩ := Prod.mk.inj (numbering_pure_eq_ok_iff.mp h)
  obtain ⟨hkept, hstarts⟩ := startsWithId_of_nextId hid hproject
  refine ⟨.inl ?_, hkept⟩
  rw [List.append_assoc, List.cons_append]
  exact startsWithBoxAndId_marker (hstarts rest) state

/-- **What is made of the text of a heading needs no number.** -/
theorem headingNumbered_of_run (h : (numberHeadingText project text).run a = .ok (out, b))
    (hproject : a.project = project.toString) :
    HeadingNumbered project out ∧ b.project = a.project := by
  have hrule := headingRule project text
  generalize numberHeadingText project text = x at h hrule
  cases hrule with
  | kept hid =>
    cases numbering_pure_eq_ok_iff.mp h
    exact ⟨.inl (startsWithBoxAndId_marker hid _), rfl⟩
  | replacedBehindBox _ _ => exact headingNumbered_of_nextId h hproject
  | inserted _ => exact headingNumbered_of_nextId h hproject
  | boxed _ hid =>
    cases numbering_pure_eq_ok_iff.mp h
    exact ⟨.inl (startsWithBoxAndId_marker hid _), rfl⟩
  | replaced _ _ _ => exact headingNumbered_of_nextId h hproject
  | other hbox hid hasked =>
    cases numbering_pure_eq_ok_iff.mp h
    exact ⟨.inr ⟨hbox, hid, hasked⟩, rfl⟩

/-- **The text of a heading that needs no number stays**, and none is drawn for it. -/
theorem numberHeadingText_of_numbered (h : HeadingNumbered project text) (a : Allocator) :
    (numberHeadingText project text).run a = .ok (text, a) := by
  rcases h with hstarts | ⟨hbox, hid, hplaceholder⟩
  · rw [StartsWithBoxAndId] at hstarts
    rw [numberHeadingText, if_pos hstarts]
    rfl
  · rw [StartsWithId] at hid
    have hspace := boxAndSpace?_eq_none_of_box? hbox
    rw [numberHeadingText, starts_boxAndTaskId_of_none hspace, if_neg Bool.false_ne_true, hspace,
      hbox, hplaceholder]
    simp only
    rw [if_neg hid]
    rfl

end

/-! ## 3. List items

The same for list items, whose text may be missing: an item with a box and no text gets one. -/

/-- Whether a list item needs no number, given its box and the text it begins with: it has both a
box and an identifier, or it has no box and its text starts with neither an identifier nor a
placeholder. -/
def ItemNumbered (project : ProjectId) : Option Bool → Option (List Char) → Prop
  | some _, some text => StartsWithId project text
  | some _, none => False
  | none, some text => ¬ StartsWithId project text ∧ placeholder? (some project) text = none
  | none, none => True

section

variable {project : ProjectId} {a b : Allocator} {text out : List Char}
  {checked after : Option Bool}

/-- **What is made of a list item that begins with a text needs no number.** -/
theorem itemNumbered_of_run
    (h : (numberItemText project checked text).run a = .ok ((after, out), b))
    (hproject : a.project = project.toString) :
    ItemNumbered project after (some out) ∧ b.project = a.project := by
  have hrule := itemRule project checked text
  generalize numberItemText project checked text = x at h hrule
  cases hrule with
  | boxed hid =>
    cases numbering_pure_eq_ok_iff.mp h
    exact ⟨hid, rfl⟩
  | replaced _ _ =>
    obtain ⟨⟨id, _⟩, hid, h⟩ := numbering_bind_eq_ok_iff.mp h
    cases numbering_pure_eq_ok_iff.mp h
    obtain ⟨hkept, hstarts⟩ := startsWithId_of_nextId hid hproject
    exact ⟨hstarts _, hkept⟩
  | inserted _ _ =>
    obtain ⟨⟨id, _⟩, hid, h⟩ := numbering_bind_eq_ok_iff.mp h
    cases numbering_pure_eq_ok_iff.mp h
    obtain ⟨hkept, hstarts⟩ := startsWithId_of_nextId hid hproject
    exact ⟨hstarts _, hkept⟩
  | other hid hasked =>
    cases numbering_pure_eq_ok_iff.mp h
    exact ⟨⟨hid, hasked⟩, rfl⟩

/-- **A list item that needs no number stays**, and none is drawn for it. -/
theorem numberItemText_of_numbered (h : ItemNumbered project checked (some text))
    (a : Allocator) :
    (numberItemText project checked text).run a = .ok ((checked, text), a) := by
  cases checked with
  | some box =>
    have hstarts : (taskId? (some project) text).isSome = true := h
    rw [numberItemText, if_pos hstarts]
    rfl
  | none =>
    obtain ⟨hstarts, hplaceholder⟩ := h
    rw [StartsWithId] at hstarts
    rw [numberItemText, if_neg hstarts, hplaceholder]
    rfl

end

end TaskNotes
