/-
# Boxes of list items, written and recognised

Two tests say what a box at the start of a list item is: `looksLikeBox` decides whether the content
of an item without a box has to be escaped, and `itemBox?` recognises a box when an item is read.
They agree except where a box stands alone on its line and the content goes on behind the line
(`itemBox?_eq_none_iff`): the first test wants a blank or the end behind the box, and the second
takes a line feed too.

So the box of an item is always recognised as it was written, and an item without a box is
recognised as such unless its content begins with such a line (`itemBox?_renderBlock`).

The content of an item is one text, put together from its blocks, and the two tests look at its
start.  So nothing has to be known of how blocks are written, and the statement covers every item
whose content is not empty.  An item with a box and no content is written as the box alone, which
is no box when it is read, because nothing follows it.
-/
import TaskNotes.Markup.Tree
import TaskNotes.Render.Block

namespace TaskNotes

open Markup

/-! ## 1. The two tests -/

/-- Whether a box stands alone on the first line of a text that goes on behind the line. -/
def beginsWithBoxLine : List Char → Bool
  | '[' :: c :: ']' :: '\n' :: _ :: _ => c == ' ' || c == 'x' || c == 'X'
  | _ => false

theorem looksLikeBox_eq_false_of_boxLine {cs : List Char} (h : beginsWithBoxLine cs = true) :
    looksLikeBox cs = false := by
  unfold beginsWithBoxLine at h
  split at h
  · simp [looksLikeBox, endsMarker, isSpaceOrTab]
  · cases h

/-- **Where no box has to be escaped**, one is recognised on a line of its own and nowhere else. -/
theorem itemBox?_eq_none_iff {cs : List Char} (h : looksLikeBox cs = false) :
    itemBox? cs = none ↔ beginsWithBoxLine cs = false := by
  unfold itemBox?
  split
  next mark gap rest =>
    by_cases hmark : mark = ' ' ∨ mark = 'x' ∨ mark = 'X'
    · have hmark' : (mark == ' ' || mark == 'x' || mark == 'X') = true := by
        simp [hmark, or_assoc]
      have hblank : isSpaceOrTab gap = false := by
        simp only [looksLikeBox, hmark', endsMarker, Bool.true_and, Bool.or_eq_false_iff] at h
        exact h.1
      by_cases hfeed : gap = '\n'
      · subst hfeed
        cases rest with
        | nil => simp [looksLikeBox, hmark'] at h
        | cons c rest => simp [beginsWithBoxLine, hmark, hblank, hmark']
      · simp [beginsWithBoxLine, hmark, hblank, hfeed]
    · have hmark' : (mark == ' ' || mark == 'x' || mark == 'X') = false := by
        simpa [not_or, and_assoc] using hmark
      simp only [hmark, if_false, true_iff]
      unfold beginsWithBoxLine
      split
      next heq =>
        simp only [List.cons.injEq] at heq
        rw [← heq.2.1]
        exact hmark'
      next => rfl
  next hnone =>
    simp only [true_iff]
    unfold beginsWithBoxLine
    split
    next c d rest => exact absurd rfl (hnone _ _ _)
    next => rfl

/-! ## 2. The content of an item -/

/-- **A box that is written is recognised** if something follows it. -/
theorem itemBox?_boxedContent_some (checked : Bool) {content : List Char} (h : content ≠ []) :
    itemBox? (boxedContent (some checked) content) =
      some (checked, content.dropWhile isSpaceOrTab) := by
  cases checked with
  | false => simp [boxedContent, h, BoxState.ofChecked, BoxState.marker, BoxState.char, itemBox?,
      isSpaceOrTab]
  | true => simp [boxedContent, h, BoxState.ofChecked, BoxState.marker, BoxState.char, itemBox?,
      isSpaceOrTab]

/-- **Without a box none is recognised**, except one on a line of its own. -/
theorem itemBox?_boxedContent_none_iff (content : List Char) :
    itemBox? (boxedContent none content) = none ↔ beginsWithBoxLine content = false := by
  simp only [boxedContent]
  cases hlooks : looksLikeBox content with
  | false =>
    simp only [Bool.false_eq_true, if_false]
    exact itemBox?_eq_none_iff hlooks
  | true =>
    cases hline : beginsWithBoxLine content with
    | false => simp [itemBox?]
    | true =>
      rw [looksLikeBox_eq_false_of_boxLine hline] at hlooks
      cases hlooks

/-! ## 3. Items -/

/-- What the blocks of an item are written as, its box apart. -/
def itemContent (spread : Bool) (children : List Node) : List Char :=
  joinBlocks (gap spread) (renderBlocks .start children)

theorem renderBlock_inList (checked : Option Bool) (spread : Bool) (children : List Node) :
    renderBlock .inList (.listItem checked spread children) =
      boxedContent checked (itemContent spread children) := by
  simp [renderBlock, Place.mark, itemContent]

/-- **The box of an item is read back as it was written**: what an item that is not empty stands for
behind its marker begins with exactly its box, and with none if it has none, unless the content of
an item without a box begins with a line that is a box and nothing else. -/
theorem itemBox?_renderBlock (checked : Option Bool) (spread : Bool) (children : List Node)
    (hcontent : itemContent spread children ≠ []) :
    (∀ state, checked = some state →
      itemBox? (renderBlock .inList (.listItem checked spread children)) =
        some (state, (itemContent spread children).dropWhile isSpaceOrTab)) ∧
    (checked = none →
      (itemBox? (renderBlock .inList (.listItem checked spread children)) = none ↔
        beginsWithBoxLine (itemContent spread children) = false)) := by
  rw [renderBlock_inList]
  constructor
  · rintro state rfl
    exact itemBox?_boxedContent_some state hcontent
  · rintro rfl
    exact itemBox?_boxedContent_none_iff _

/-- A box in front of text that looks like another one. -/
theorem itemBox?_renderBlock_doubleBox :
    itemContent false [.paragraph [.text "[x] done"]] ≠ [] ∧
      itemBox? (renderBlock .inList (.listItem (some false) false [.paragraph [.text "[x] done"]]))
        = some (false, "[x] done".toList) := by
  have hcontent : itemContent false [.paragraph [.text "[x] done"]] = "[x] done".toList := by
    decide +kernel
  have hne : itemContent false [.paragraph [.text "[x] done"]] ≠ [] := by
    rw [hcontent]
    decide
  refine ⟨hne, ?_⟩
  rw [(itemBox?_renderBlock (some false) false _ hne).1 false rfl, hcontent]
  decide

/-- A list whose item has no box, but a text that begins with a box on a line of its own. -/
def boxLineList : Node :=
  .root [.list false none false [.listItem none false [.paragraph [.text "[ ]\nliteral"]]]]

/-- The box of a line of its own is not escaped and turns the item into a task. -/
theorem itemBox?_renderBlock_boxLine :
    itemBox? (renderBlock .inList (.listItem none false [.paragraph [.text "[ ]\nliteral"]])) =
        some (false, "literal".toList) ∧
      boxLineList.render = "- [ ]\n  literal\n" ∧
      Node.read boxLineList.render =
        .root [.list false none false
          [.listItem (some false) false [.paragraph [.text "literal"]]]] := by
  decide +kernel

end TaskNotes
