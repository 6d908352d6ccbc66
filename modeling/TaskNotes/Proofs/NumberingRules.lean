/-
# The rules of numbering

Numbering looks at a text or a branch and decides what to do: to leave it as it is, to put a box in
front, or to draw a number and write it in one place or another.  Here each decision is a relation
with a constructor for each case, which says when the case comes up and what is computed then:
`HeadingRule` for the text of a heading, `ItemRule` for the box and the text of a list item, and
`TaskRule` for a branch.

The rules are all that numbering does (`headingRule`, `itemRule`, `taskRule`), so a fact about
numbering is proved from them, case by case, and not from how the cases are told apart.

A rule has two indices: the text or branch that is looked at, and the computation that is run for
it.  So taking a rule apart tells what the text looks like and what happens at the same time, and
what is drawn can be seen from the computation.

A case also holds what must not be so for it to come up, since a proof may need this: that an
identifier is put into a text means that there was none.
-/
import TaskNotes.Task.Numbering

namespace TaskNotes

/-! ## 1. Boxes and identifiers at the start of a text

A text that begins with a box is its marker and what follows, so the rules can be written with the
marker in front. -/

/-- Whether a text starts with an identifier of a project. -/
def StartsWithId (project : ProjectId) (text : List Char) : Prop :=
  (taskId? (some project) text).isSome = true

theorem ofChar?_char (state : BoxState) : BoxState.ofChar? state.char = some state := by
  cases state <;> rfl

theorem box?_marker (state : BoxState) (rest : List Char) :
    box? (state.marker ++ rest) = some (state, rest) := by
  rw [BoxState.marker, List.cons_append, List.cons_append, List.cons_append, List.nil_append]
  simp only [box?, ofChar?_char, Option.map_some]

theorem boxAndSpace?_marker (state : BoxState) (inner : List Char) :
    boxAndSpace? (state.marker ++ ' ' :: inner) = some (state, inner) := by
  simp only [boxAndSpace?, box?_marker]

section

variable {project : ProjectId} {text inner rest : List Char} {state : BoxState}

theorem eq_marker_of_box? (h : box? text = some (state, rest)) : text = state.marker ++ rest := by
  unfold box? at h
  split at h
  next c rest =>
    obtain ⟨_, hstate, h⟩ := Option.map_eq_some_iff.mp h
    obtain ⟨rfl, rfl⟩ := Prod.mk.inj h
    unfold BoxState.ofChar? at hstate
    split at hstate
    · cases hstate
      rfl
    · cases hstate
      rfl
    · cases hstate
      rfl
    · cases hstate
  next => cases h

theorem box?_of_boxAndSpace? (h : boxAndSpace? text = some (state, inner)) :
    box? text = some (state, ' ' :: inner) := by
  rw [boxAndSpace?] at h
  split at h
  next hbox =>
    obtain ⟨rfl, rfl⟩ := Prod.mk.inj (Option.some.inj h)
    exact hbox
  next => cases h

theorem eq_marker_of_boxAndSpace? (h : boxAndSpace? text = some (state, inner)) :
    text = state.marker ++ ' ' :: inner :=
  eq_marker_of_box? (box?_of_boxAndSpace? h)

theorem boxAndSpace?_eq_none_of_box? (h : box? text = none) : boxAndSpace? text = none := by
  rw [boxAndSpace?, h]

theorem starts_boxAndTaskId (h : boxAndSpace? text = some (state, inner)) :
    (Pattern.boxAndTaskId (some project)).starts text = (taskId? (some project) inner).isSome := by
  rw [Pattern.starts, Pattern.match?, h]
  exact Option.isSome_map

theorem starts_boxAndTaskId_of_none (h : boxAndSpace? text = none) :
    (Pattern.boxAndTaskId (some project)).starts text = false := by
  rw [Pattern.starts, Pattern.match?, h]
  rfl

end

/-! ## 2. Texts of headings

The box of a heading is part of its text, and an identifier counts only one space behind it. -/

/-- What is left of the text behind a box where an identifier is put between the two. -/
def behindNewId (rest : List Char) : List Char :=
  if rest.isEmpty then [] else ' ' :: rest.dropWhile isSpaceOrTab

/-- Whether behind a box there is neither an identifier nor a placeholder, one space in front. -/
def BareBehindBox (project : ProjectId) (rest : List Char) : Prop :=
  ∀ inner, rest = ' ' :: inner →
    ¬ StartsWithId project inner ∧ placeholder? (some project) inner = none

/-- What is done with the text of a heading. -/
inductive HeadingRule (project : ProjectId) : List Char → Numbering (List Char) → Prop
  /-- Behind a box and one space, an identifier stays. -/
  | kept {state : BoxState} {inner : List Char} (hid : StartsWithId project inner) :
      HeadingRule project (state.marker ++ ' ' :: inner) (pure (state.marker ++ ' ' :: inner))
  /-- Behind a box and one space, a placeholder gives way to an identifier. -/
  | replacedBehindBox {state : BoxState} {inner asked rest : List Char}
      (hid : ¬ StartsWithId project inner)
      (hasked : placeholder? (some project) inner = some (asked, rest)) :
      HeadingRule project (state.marker ++ ' ' :: inner)
        (do let id ← nextId; pure (state.marker ++ ' ' :: id ++ rest))
  /-- Behind a bare box an identifier is put in. -/
  | inserted {state : BoxState} {rest : List Char} (hbare : BareBehindBox project rest) :
      HeadingRule project (state.marker ++ rest)
        (do let id ← nextId; pure (state.marker ++ ' ' :: id ++ behindNewId rest))
  /-- In front of an identifier a box is put. -/
  | boxed {text : List Char} (hbox : box? text = none) (hid : StartsWithId project text) :
      HeadingRule project text (pure (newBox ++ ' ' :: text))
  /-- A placeholder gives way to a box and an identifier. -/
  | replaced {text asked rest : List Char} (hbox : box? text = none)
      (hid : ¬ StartsWithId project text)
      (hasked : placeholder? (some project) text = some (asked, rest)) :
      HeadingRule project text (do let id ← nextId; pure (newBox ++ ' ' :: id ++ rest))
  /-- What starts with none of the three is no task. -/
  | other {text : List Char} (hbox : box? text = none) (hid : ¬ StartsWithId project text)
      (hasked : placeholder? (some project) text = none) : HeadingRule project text (pure text)

/-- **The text of a heading is numbered by the rules.** -/
theorem headingRule (project : ProjectId) (text : List Char) :
    HeadingRule project text (numberHeadingText project text) := by
  unfold numberHeadingText
  cases hspace : boxAndSpace? text with
  | some found =>
    obtain ⟨state, inner⟩ := found
    obtain rfl := eq_marker_of_boxAndSpace? hspace
    rw [starts_boxAndTaskId hspace]
    split
    next hid => exact .kept hid
    next hid =>
      simp only
      split
      next hasked => exact .replacedBehindBox hid hasked
      next hasked =>
        refine .inserted fun behind hbehind => ?_
        obtain rfl := (List.cons.inj hbehind).2
        exact ⟨hid, hasked⟩
  | none =>
    rw [starts_boxAndTaskId_of_none hspace, if_neg Bool.false_ne_true]
    simp only
    split
    next state rest hbox =>
      obtain rfl := eq_marker_of_box? hbox
      refine .inserted fun inner hinner => ?_
      rw [hinner, boxAndSpace?_marker] at hspace
      cases hspace
    next hbox =>
      split
      next hid => exact .boxed hbox hid
      next hid =>
        split
        next hasked => exact .replaced hbox hid hasked
        next hasked => exact .other hbox hid hasked

/-! ## 3. Texts of list items

The box of an item stands beside its text.  An identifier or a placeholder makes a task of an item
without a box, and the box is put in. -/

/-- What is done with the box and the text of a list item. -/
inductive ItemRule (project : ProjectId) :
    Option Bool → List Char → Numbering (Option Bool × List Char) → Prop
  /-- A text that starts with an identifier stays, behind an open box if there was none. -/
  | boxed {checked : Option Bool} {text : List Char} (hid : StartsWithId project text) :
      ItemRule project checked text (pure (some (checked.getD false), text))
  /-- A placeholder gives way to an identifier, behind an open box if there was none. -/
  | replaced {checked : Option Bool} {text asked rest : List Char}
      (hid : ¬ StartsWithId project text)
      (hasked : placeholder? (some project) text = some (asked, rest)) :
      ItemRule project checked text
        (do let id ← nextId; pure (some (checked.getD false), id ++ rest))
  /-- Behind a box an identifier is put in. -/
  | inserted {box : Bool} {text : List Char} (hid : ¬ StartsWithId project text)
      (hasked : placeholder? (some project) text = none) :
      ItemRule project (some box) text (do let id ← nextId; pure (some box, id ++ ' ' :: text))
  /-- What has no box and starts with none of the two is no task. -/
  | other {text : List Char} (hid : ¬ StartsWithId project text)
      (hasked : placeholder? (some project) text = none) :
      ItemRule project none text (pure (none, text))

/-- **The text of a list item is numbered by the rules.** -/
theorem itemRule (project : ProjectId) (checked : Option Bool) (text : List Char) :
    ItemRule project checked text (numberItemText project checked text) := by
  unfold numberItemText
  split
  next hid => exact .boxed hid
  next hid =>
    split
    next hasked => exact .replaced hid hasked
    next hasked =>
      cases checked with
      | none => exact .other hid hasked
      | some box => exact .inserted hid hasked

/-! ## 4. Branches

A branch is given back with what is to be done to its children once these are numbered themselves.
-/

/-- Whether a branch can carry a task. -/
def Branch.isCarrier : Branch → Bool
  | .heading _ | .listItem _ _ => true
  | _ => false

/-- What is done with a branch that has certain children. -/
inductive TaskRule (project : ProjectId) (cs : List Node) :
    Branch → Numbering (Branch × (List Node → List Node)) → Prop
  /-- What can carry no task stays. -/
  | other {kind : Branch} (hkind : kind.isCarrier = false) :
      TaskRule project cs kind (pure (kind, id))
  /-- Of a heading the first text is numbered. -/
  | heading {depth : Depth} {text : String} (htext : firstText? cs = some text) :
      TaskRule project cs (.heading depth) (do
        let text ← numberHeadingText project text.toList
        pure (.heading depth, replaceFirstText text))
  /-- A heading that begins with no text is no task. -/
  | headingWithoutText {depth : Depth} (htext : firstText? cs = none) :
      TaskRule project cs (.heading depth) (pure (.heading depth, id))
  /-- Of a list item the leading text is numbered. -/
  | item {checked : Option Bool} {spread : Bool} {text : String}
      (htext : leadingText? cs = some text) :
      TaskRule project cs (.listItem checked spread) (do
        let (checked, text) ← numberItemText project checked text.toList
        pure (.listItem checked spread, replaceLeadingText text))
  /-- A list item with a box and without a leading text is filled with an identifier. -/
  | itemFilled {box spread : Bool} (htext : leadingText? cs = none) :
      TaskRule project cs (.listItem (some box) spread) (do
        let id ← nextId
        pure (.listItem (some box) spread, insertLeadingText (id ++ [' '])))
  /-- A list item without both is no task. -/
  | itemWithoutText {spread : Bool} (htext : leadingText? cs = none) :
      TaskRule project cs (.listItem none spread) (pure (.listItem none spread, id))

/-- **A branch is numbered by the rules.** -/
theorem taskRule (project : ProjectId) (kind : Branch) (cs : List Node) :
    TaskRule project cs kind (numberTask project kind cs) := by
  unfold numberTask
  split
  next depth =>
    split
    next htext => exact .heading htext
    next htext => exact .headingWithoutText htext
  next checked spread =>
    split
    next htext => exact .item htext
    next htext =>
      cases checked with
      | some box => exact .itemFilled htext
      | none => exact .itemWithoutText htext
  next hheading hitem =>
    refine .other ?_
    cases kind with
    | heading depth => exact absurd rfl (hheading depth)
    | listItem checked spread => exact absurd rfl (hitem checked spread)
    | _ => rfl

end TaskNotes
