/-
# Neighbouring lists

Two lists of one kind that follow each other in a text are read as one unless their items are marked
differently, so the marks of neighbouring lists alternate.  Which mark a list gets depends on the
siblings in front of it: the usual one behind an even number of lists of its kind that come directly
before it, inline nodes aside, and the alternate one behind an odd number (`listRun`).

What counts as a neighbour in the text is what the blocks are after those that are written as
nothing have been left out (`writtenBlocks`).  So two lists that are neighbours in the text have
different marks exactly if the numbers of lists before them are of different parity
(`neighbouring_listMarks_ne_iff`).  That is so whenever only inline nodes stand between them.  A
block that is written as nothing can make the numbers agree, and the two lists are read as one
(`neighbouring_listMarks_of_blankParagraph`).

The renderer goes along the siblings and remembers the kind of the last list and whether it took
the alternate mark.  What it remembers is compared here with the siblings in front
(`Siblings.Remembers`), which is a statement about the input: a number of lists, counted back from
where the renderer stands.  One step keeps it (`Siblings.Remembers.after`), and from this a run
tells the mark of every list (`text_of_mem_siblingBlocks`).

An inline node among blocks is written as part of a paragraph, and the renderer does not begin anew
for it.  So lists that are kept apart by such a paragraph alternate too, which does no harm.
-/
import TaskNotes.Markup.Tree
import TaskNotes.Render.Block
import Mathlib.Algebra.Ring.Parity
import Mathlib.Tactic.Tauto

namespace TaskNotes

/-! ## 1. The mark of a list

A list that is written as something begins with the marker of its first item, whatever the items
hold.  Bullets alternate between `-` and `*`, and numbers are followed by a full stop or a
parenthesis. -/

/-- What tells lists of one kind apart: the usual mark and the alternate one. -/
def listMark (ordered alternate : Bool) : Char :=
  if ordered then (if alternate then ')' else '.') else (if alternate then '*' else '-')

/-- What stands in front of the mark of an item. -/
def itemNumber (ordered : Bool) (start : Option Int) (offset : Nat) : List Char :=
  if ordered then decimalInt (start.getD 1 + offset) else []

/-- The mark that a written list begins with: the character behind the number of its first item,
or the very first one if its items are not numbered. -/
def listMark? (ordered : Bool) (text : List Char) : Option Char :=
  if ordered then (text.dropWhile fun c => c.isDigit || c == '-').head? else text.head?

theorem itemMarker_eq_append (ordered : Bool) (start : Option Int) (alternate : Bool)
    (offset : Nat) :
    itemMarker ordered start alternate offset =
      itemNumber ordered start offset ++ [listMark ordered alternate, ' '] := by
  cases ordered <;> simp [itemMarker, itemNumber, listMark]

theorem isDigit_or_of_mem_decimalInt {n : Int} {c : Char} (h : c ∈ decimalInt n) :
    (c.isDigit || c == '-') = true := by
  have hdecimal {m : Nat} (h : c ∈ decimal m) : c.isDigit = true :=
    Nat.isDigit_of_mem_toDigits (by decide) (by decide) h
  cases n with
  | ofNat m => simp [hdecimal h]
  | negSucc m =>
    rcases List.mem_cons.mp h with rfl | h
    · simp
    · simp [hdecimal h]

/-- The mark is found behind the number. -/
theorem listMark?_append (ordered : Bool) (start : Option Int) (alternate : Bool) (offset : Nat)
    (rest : List Char) :
    listMark? ordered (itemNumber ordered start offset ++ listMark ordered alternate :: rest) =
      some (listMark ordered alternate) := by
  cases ordered with
  | false => simp [listMark?, itemNumber]
  | true =>
    have hmark : ((listMark true alternate).isDigit || listMark true alternate == '-') = false := by
      cases alternate <;> decide
    simp only [listMark?, itemNumber, if_true]
    rw [List.dropWhile_append_of_pos fun c hc => isDigit_or_of_mem_decimalInt hc,
      List.dropWhile_cons, hmark]
    simp

/-- A marker is written in front of any content, up to its blank. -/
theorem exists_indentBehind_eq {mark : Char} (hmark : isBlank mark = false)
    (number content : List Char) :
    ∃ rest, indentBehind (number ++ [mark, ' ']) content = number ++ mark :: rest := by
  unfold indentBehind
  split
  · exact ⟨[], by simp [dropEndWhile, hmark, show isBlank ' ' = true by decide]⟩
  · split
    · exact ⟨[' '], rfl⟩
    next first others _ =>
      unfold joinLines
      cases others with
      | nil => exact ⟨' ' :: first, by simp [joinWith]⟩
      | cons line others => simp [joinWith]

/-- **Every item of a list is written behind its number and the mark of the list.** -/
theorem exists_of_mem_renderItems {ordered alternate : Bool} {start : Option Int}
    {item : List Char} :
    ∀ {offset : Nat} {items : List Node},
      item ∈ renderItems (itemMarker ordered start alternate) offset items →
        ∃ place rest, item = itemNumber ordered start place ++ listMark ordered alternate :: rest
  | _, [], h => by simp [renderItems] at h
  | offset, c :: cs, h => by
    rw [renderItems] at h
    rcases List.mem_cons.mp h with rfl | h
    · have hmark : isBlank (listMark ordered alternate) = false := by
        cases ordered <;> cases alternate <;> decide
      rw [itemMarker_eq_append]
      exact ⟨offset, exists_indentBehind_eq hmark _ _⟩
    · exact exists_of_mem_renderItems h

/-- **A list that is written as something begins with its mark.** -/
theorem listMark?_renderBlock {place : Place} {ordered spread : Bool} {start : Option Int}
    {items : List Node} (h : renderBlock place (.list ordered start spread items) ≠ []) :
    listMark? ordered (renderBlock place (.list ordered start spread items)) =
      some (listMark ordered place.alternate) := by
  rw [renderBlock] at h ⊢
  cases hitems : renderItems (itemMarker ordered start place.alternate) 0 items with
  | nil => simp [hitems, joinWith] at h
  | cons item others =>
    obtain ⟨offset, rest, hitem⟩ := exists_of_mem_renderItems (hitems ▸ List.mem_cons_self)
    rw [hitem]
    cases others with
    | nil => exact listMark?_append ..
    | cons next others =>
      rw [joinWith, List.append_assoc, List.append_assoc, List.cons_append]
      exact listMark?_append ..

/-! ## 2. Lists in front of a list

The siblings in front are counted from the back, up to the first one that is neither inline nor a
list of the kind. -/

/-- Whether a node is a list of a kind. -/
def isListOf (ordered : Bool) : Node → Bool
  | .list kind _ _ _ => kind == ordered
  | _ => false

/-- How many lists of a kind stand at the end of siblings, inline nodes aside. -/
def listRun (ordered : Bool) (before : List Node) : Nat :=
  ((before.filter fun c => !c.isPhrasing).reverse.takeWhile (isListOf ordered)).length

section

variable {ordered : Bool} {before : List Node} {c : Node}

/-- Inline nodes do not count. -/
theorem listRun_append_of_isPhrasing {between : List Node}
    (h : ∀ c ∈ between, c.isPhrasing = true) :
    listRun ordered (before ++ between) = listRun ordered before := by
  have hnone : between.filter (fun c => !c.isPhrasing) = [] := by
    simpa [List.filter_eq_nil_iff] using h
  rw [listRun, List.filter_append, hnone, List.append_nil, listRun]

theorem listRun_append_block (h : c.isPhrasing = false) :
    listRun ordered (before ++ [c]) =
      if isListOf ordered c then listRun ordered before + 1 else 0 := by
  rw [listRun, List.filter_append, List.filter_cons, h, List.filter_nil, Bool.not_false, if_pos rfl,
    List.reverse_append, List.reverse_singleton, List.singleton_append, List.takeWhile_cons]
  split
  · rw [List.length_cons, listRun]
  · rfl

end

/-- What is remembered behind siblings tells whether a list that comes next takes the alternate
marks: it does behind an odd number of lists of its kind. -/
def Siblings.Remembers (s : Siblings) (before : List Node) : Prop :=
  ∀ ordered, s.alternates ordered = decide (Odd (listRun ordered before))

section

variable {s : Siblings} {before : List Node} {c : Node}

theorem remembers_start : Siblings.start.Remembers [] := by
  intro ordered
  simp [Siblings.alternates, Siblings.start, listRun]

theorem Siblings.Remembers.extend (h : s.Remembers before) (hc : c.isPhrasing = true)
    (written : List Char) : (s.extend written).Remembers (before ++ [c]) := by
  intro ordered
  rw [listRun_append_of_isPhrasing (by simpa using hc)]
  exact h ordered

/-- **A step**: a list takes the other marks than the one before it, and all else begins anew. -/
theorem Siblings.Remembers.after (h : s.Remembers before) (hc : c.isPhrasing = false) :
    (s.after c).Remembers (before ++ [c]) := by
  intro ordered
  rw [listRun_append_block hc]
  by_cases hlist : ∃ kind start spread items, c = .list kind start spread items
  · obtain ⟨kind, start, spread, items, rfl⟩ := hlist
    have hkind := h kind
    simp only [Siblings.after, isListOf, beq_iff_eq]
    by_cases heq : kind = ordered
    · subst heq
      simp only [Siblings.alternates] at hkind ⊢
      simp [hkind, Nat.odd_add_one, -Nat.not_odd_iff_even]
    · simp [Siblings.alternates, heq]
  · have hprevious : (s.after c).previousList = none := by
      unfold Siblings.after
      split
      next kind start spread items => exact absurd ⟨kind, start, spread, items, rfl⟩ hlist
      next => rfl
    have hnone : isListOf ordered c = false := by
      unfold isListOf
      split
      next kind start spread items => exact absurd ⟨kind, start, spread, items, rfl⟩ hlist
      next => rfl
    simp [Siblings.alternates, hprevious, hnone]

end

/-! ## 3. Blocks and what they are made of -/

/-- A block among siblings: the siblings in front of it, the node that it is made of unless that is
a run of inline nodes, and how it is written. -/
structure SiblingBlock where
  before : List Node
  node? : Option Node
  text : List Char
deriving DecidableEq

/-- Whether a block is a list of a kind. -/
def SiblingBlock.isListOf (ordered : Bool) (b : SiblingBlock) : Bool :=
  b.node?.any (TaskNotes.isListOf ordered)

/-- The blocks that siblings make, empty ones included; `before` are the siblings in front. -/
def siblingBlocks (s : Siblings) (before : List Node) : List Node → List SiblingBlock
  | [] => s.flush.map fun text => ⟨before, none, text⟩
  | c :: cs =>
    if c.isPhrasing then
      siblingBlocks (s.extend (renderInline s.atLineStart c)) (before ++ [c]) cs
    else
      (s.flush.map fun text => ⟨before, none, text⟩)
        ++ ⟨before, some c, renderBlock (s.place c) c⟩
          :: siblingBlocks (s.after c) (before ++ [c]) cs

/-- The blocks that are joined: those that are written as something. -/
def writtenBlocks (siblings : List Node) : List SiblingBlock :=
  (siblingBlocks .start [] siblings).filter fun b => !b.text.isEmpty

theorem map_text_siblingBlocks (s : Siblings) (before cs : List Node) :
    (siblingBlocks s before cs).map SiblingBlock.text = renderBlocks s cs := by
  induction cs generalizing s before with
  | nil => simp [siblingBlocks, renderBlocks, Function.comp_def]
  | cons c cs ih =>
    rw [siblingBlocks, renderBlocks]
    split
    · exact ih _ _
    · simp [ih, Function.comp_def]

/-- **What siblings are written as** is these blocks with a gap between them. -/
theorem joinBlocks_renderBlocks (separator : List Char) (siblings : List Node) :
    joinBlocks separator (renderBlocks .start siblings) =
      joinWith separator ((writtenBlocks siblings).map SiblingBlock.text) := by
  rw [joinBlocks, ← map_text_siblingBlocks .start [], List.filter_map, writtenBlocks]
  rfl

section

variable {s : Siblings} {before cs siblings : List Node} {b x y : SiblingBlock} {ordered : Bool}

theorem eq_of_mem_flush (h : b ∈ s.flush.map fun text => (⟨before, none, text⟩ : SiblingBlock)) :
    b.before = before ∧ b.node? = none := by
  obtain ⟨text, -, rfl⟩ := List.mem_map.mp h
  exact ⟨rfl, rfl⟩

/-- The siblings in front of the first block are in front of every block. -/
theorem prefix_of_mem_siblingBlocks (h : b ∈ siblingBlocks s before cs) : before <+: b.before := by
  induction cs generalizing s before with
  | nil => simp [(eq_of_mem_flush h).1]
  | cons c cs ih =>
    rw [siblingBlocks] at h
    split at h
    · exact (List.prefix_append before [c]).trans (ih h)
    · rcases List.mem_append.mp h with h | h
      · simp [(eq_of_mem_flush h).1]
      · rcases List.mem_cons.mp h with rfl | h
        · exact List.prefix_rfl
        · exact (List.prefix_append before [c]).trans (ih h)

/-- What a block is made of stands in front of every later block. -/
def SiblingBlock.Precedes (x y : SiblingBlock) : Prop :=
  ∀ node ∈ x.node?, x.before ++ [node] <+: y.before

theorem pairwise_siblingBlocks (s : Siblings) (before cs : List Node) :
    (siblingBlocks s before cs).Pairwise SiblingBlock.Precedes := by
  have hflush (s : Siblings) (before : List Node) :
      ∀ x ∈ s.flush.map fun text => (⟨before, none, text⟩ : SiblingBlock), ∀ y, x.Precedes y := by
    intro x hx y node hnode
    rw [(eq_of_mem_flush hx).2] at hnode
    cases hnode
  induction cs generalizing s before with
  | nil => exact List.pairwise_of_forall_mem_list fun x hx y _ => hflush s before x hx y
  | cons c cs ih =>
    rw [siblingBlocks]
    split
    · exact ih _ _
    · rw [List.pairwise_append, List.pairwise_cons]
      refine ⟨?_, ⟨?_, ih _ _⟩, fun x hx y _ => hflush s before x hx y⟩
      · exact List.pairwise_of_forall_mem_list fun x hx y _ => hflush s before x hx y
      · intro y hy node hnode
        cases hnode
        exact prefix_of_mem_siblingBlocks hy

/-- **A run**: every list stands in the text with the mark that the siblings in front of it
decide. -/
theorem text_of_mem_siblingBlocks (hs : s.Remembers before) (hb : b ∈ siblingBlocks s before cs)
    {start : Option Int} {spread : Bool} {items : List Node}
    (hnode : b.node? = some (.list ordered start spread items)) :
    b.text = renderBlock (.amongBlocks (decide (Odd (listRun ordered b.before))))
      (.list ordered start spread items) := by
  induction cs generalizing s before with
  | nil =>
    rw [(eq_of_mem_flush hb).2] at hnode
    cases hnode
  | cons c cs ih =>
    rw [siblingBlocks] at hb
    split at hb
    next hphrasing => exact ih (hs.extend hphrasing _) hb
    next hphrasing =>
      rcases List.mem_append.mp hb with hb | hb
      · rw [(eq_of_mem_flush hb).2] at hnode
        cases hnode
      · rcases List.mem_cons.mp hb with rfl | hb
        · cases hnode
          simp only [Siblings.place, hs ordered]
        · exact ih (hs.after (Bool.of_not_eq_true hphrasing)) hb

theorem exists_of_isListOf (h : b.isListOf ordered = true) :
    ∃ start spread items, b.node? = some (.list ordered start spread items) := by
  obtain ⟨node, hnode, hlist⟩ := (Option.any_eq_true _ _).mp h
  unfold TaskNotes.isListOf at hlist
  split at hlist
  next kind start spread items =>
    rw [← beq_iff_eq.mp hlist]
    exact ⟨start, spread, items, hnode⟩
  next => cases hlist

/-- **The mark of a written list** is the alternate one behind an odd number of lists of its
kind. -/
theorem listMark?_of_mem_writtenBlocks (hb : b ∈ writtenBlocks siblings)
    (hlist : b.isListOf ordered = true) :
    listMark? ordered b.text =
      some (listMark ordered (decide (Odd (listRun ordered b.before)))) := by
  obtain ⟨hmem, hwritten⟩ := List.mem_filter.mp hb
  obtain ⟨start, spread, items, hnode⟩ := exists_of_isListOf hlist
  have htext := text_of_mem_siblingBlocks remembers_start hmem hnode
  rw [htext] at hwritten ⊢
  exact listMark?_renderBlock (by simpa using hwritten)

theorem listMark_ne_iff (ordered a b : Bool) :
    listMark ordered a ≠ listMark ordered b ↔ a ≠ b := by
  cases ordered <;> cases a <;> cases b <;> decide

end

/-! ## 4. Neighbours in the text

Two blocks are neighbours if they stand side by side among those that are written.  Between the
lists that they are made of there may be siblings, inline nodes or blocks that are written as
nothing, and the numbers are counted with these. -/

/-- **Two lists of one kind that are neighbours in a text have different marks exactly if the
numbers of lists of their kind directly before them are of different parity**; so they have if
nothing but inline nodes stands between them.  Neighbours are what is joined with a gap between
it. -/
theorem neighbouring_listMarks_ne_iff (siblings : List Node) {x y : SiblingBlock} {ordered : Bool}
    (hnext : [x, y] <:+: writtenBlocks siblings) (hx : x.isListOf ordered = true)
    (hy : y.isListOf ordered = true) :
    (∀ separator, joinBlocks separator (renderBlocks .start siblings) =
        joinWith separator ((writtenBlocks siblings).map SiblingBlock.text)) ∧
      (listMark? ordered x.text ≠ listMark? ordered y.text ↔
        Odd (listRun ordered x.before + listRun ordered y.before)) ∧
      ∃ list between, x.node? = some list ∧ y.before = x.before ++ list :: between ∧
        ((∀ c ∈ between, c.isPhrasing = true) →
          listMark? ordered x.text ≠ listMark? ordered y.text) := by
  have hmarks : listMark? ordered x.text ≠ listMark? ordered y.text ↔
      Odd (listRun ordered x.before + listRun ordered y.before) := by
    have hxmem : x ∈ writtenBlocks siblings := hnext.subset (by simp)
    have hymem : y ∈ writtenBlocks siblings := hnext.subset (by simp)
    rw [listMark?_of_mem_writtenBlocks hxmem hx, listMark?_of_mem_writtenBlocks hymem hy,
      Ne, Option.some.injEq, ← Ne, listMark_ne_iff, Ne, decide_eq_decide, Nat.odd_add,
      ← Nat.not_odd_iff_even]
    tauto
  refine ⟨fun separator => joinBlocks_renderBlocks separator siblings, hmarks, ?_⟩
  obtain ⟨start, spread, items, hnode⟩ := exists_of_isListOf hx
  have hprecedes : x.Precedes y :=
    List.pairwise_iff_forall_sublist.mp (pairwise_siblingBlocks .start [] siblings)
      (hnext.sublist.trans List.filter_sublist)
  obtain ⟨between, hbetween⟩ := hprecedes _ hnode
  refine ⟨_, between, hnode, by simp [← hbetween], fun hphrasing => hmarks.mpr ?_⟩
  have hrun : listRun ordered y.before = listRun ordered x.before + 1 := by
    rw [← hbetween, listRun_append_of_isPhrasing hphrasing, listRun_append_block rfl]
    simp [isListOf]
  rw [hrun]
  exact ⟨listRun ordered x.before, by omega⟩

/-- A list with one item. -/
def shortList (ordered : Bool) (label : String) : Node :=
  .list ordered (if ordered then some 3 else none) false
    [.listItem none false [.paragraph [.text label]]]

/-- Two numbered lists with an empty text between them. -/
def emptyTextLists : List Node := [shortList true "a", .text "", shortList true "b"]

theorem neighbouring_listMarks_ne_iff_emptyText :
    ∃ x y : SiblingBlock, [x, y] <:+: writtenBlocks emptyTextLists ∧
      x.isListOf true = true ∧ y.isListOf true = true ∧
      listMark? true x.text ≠ listMark? true y.text ∧
      (Node.root emptyTextLists).render = "3. a\n\n3) b\n" := by
  obtain ⟨x, y, hblocks, hx, hy, hodd⟩ : ∃ x y : SiblingBlock,
      writtenBlocks emptyTextLists = [x, y] ∧ x.isListOf true = true ∧ y.isListOf true = true ∧
        Odd (listRun true x.before + listRun true y.before) :=
    ⟨⟨[], some (shortList true "a"), "3. a".toList⟩,
      ⟨[shortList true "a", .text ""], some (shortList true "b"), "3) b".toList⟩,
      by decide +kernel, by decide, by decide, by decide⟩
  have hnext : [x, y] <:+: writtenBlocks emptyTextLists := hblocks ▸ List.infix_rfl
  refine ⟨x, y, hnext, hx, hy, ?_, by decide +kernel⟩
  exact (neighbouring_listMarks_ne_iff emptyTextLists hnext hx hy).2.1.mpr hodd

/-- Two lists with a paragraph between them that holds nothing but a space. -/
def blankParagraphLists : List Node :=
  [shortList false "a", .paragraph [.text " "], shortList false "b"]

/-- The paragraph is written as nothing, but the second list begins with the usual mark again.  The
two lists are read as one. -/
theorem neighbouring_listMarks_of_blankParagraph :
    (∃ x y : SiblingBlock, [x, y] <:+: writtenBlocks blankParagraphLists ∧
      x.isListOf false = true ∧ y.isListOf false = true ∧
      listMark? false x.text = listMark? false y.text) ∧
    Node.read "- a\n\n&#32;\n\n- b\n" = .root blankParagraphLists ∧
    (Node.root blankParagraphLists).render = "- a\n\n- b\n" ∧
    Node.read "- a\n\n- b\n" =
      .root [.list false none true
        [.listItem none true [.paragraph [.text "a"]],
          .listItem none true [.paragraph [.text "b"]]]] := by
  refine ⟨⟨⟨[], some (shortList false "a"), "- a".toList⟩,
    ⟨[shortList false "a", .paragraph [.text " "]], some (shortList false "b"),
      "- b".toList⟩, ?_⟩, ?_⟩
  · decide +kernel
  · decide +kernel

end TaskNotes
