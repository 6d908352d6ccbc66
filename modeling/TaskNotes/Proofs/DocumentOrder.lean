/-
# The stack and the tree

A traversal that keeps a stack takes the last node from it, yields that node and pushes its
children, the last one first (`Traversal.turn`).  What it has yielded after some turns is the start
of the document order, and what is on the stack are the trees whose document order is still to come
(`yielded_iterate_turn`).

The document order itself is told without a traversal: a place in a tree is a row of positions of
children, and the nodes come in the lexicographic order of their places, one at each
(`map_at?_places`).  The plain text is what the nodes contribute in this order
(`plainText_eq_join`).

The traversal is told as a state and a turn, and not as a function, since that is what a caller
sees of it: it can be stopped after any number of turns.  The invariant is one equation, that the
nodes yielded so far and those that remain are together the document order; how the stack looks is
derived from it, and nothing else about the stack is needed.
-/
import TaskNotes.Node.Walk
import Mathlib.Data.List.Basic
import Mathlib.Logic.Function.Iterate

namespace TaskNotes

/-! ## 1. Turns

`remaining` reads the stack from its end, since the next node is the last one.  Pushing the
children in reverse then puts them, read in this way, in front of what was there. -/

/-- A traversal under way: the nodes that are still to be visited, the next one last, and those
that have been yielded. -/
structure Traversal where
  stack : List Node
  yielded : List Node

namespace Traversal

/-- Before the first turn. -/
def start (node : Node) : Traversal := ⟨[node], []⟩

/-- Takes the last node from the stack, yields it, and pushes its children in reverse. -/
def turn (t : Traversal) : Traversal :=
  match t.stack.getLast? with
  | none => t
  | some current => ⟨t.stack.dropLast ++ current.children.reverse, t.yielded ++ [current]⟩

/-- The nodes that are still to be yielded, in document order. -/
def remaining (t : Traversal) : List Node := Node.walkFrom t.stack.reverse

theorem turn_nil (yielded : List Node) : turn ⟨[], yielded⟩ = ⟨[], yielded⟩ := rfl

theorem turn_concat (stack yielded : List Node) (current : Node) :
    turn ⟨stack ++ [current], yielded⟩ =
      ⟨stack ++ current.children.reverse, yielded ++ [current]⟩ := by
  simp [turn]

theorem remaining_nil (yielded : List Node) : remaining ⟨[], yielded⟩ = [] := by
  simp [remaining, Node.walkFrom]

theorem remaining_concat (stack yielded : List Node) (current : Node) :
    remaining ⟨stack ++ [current], yielded⟩ =
      current :: remaining (turn ⟨stack ++ [current], yielded⟩) := by
  simp [remaining, turn_concat, Node.walkFrom]

theorem stack_eq_nil_iff (t : Traversal) : t.stack = [] ↔ t.remaining = [] := by
  obtain ⟨stack, yielded⟩ := t
  rcases List.eq_nil_or_concat stack with rfl | ⟨stack, current, rfl⟩
  · simp [remaining_nil]
  · simp [remaining_concat]

/-- **What one turn does:** the first node of those that remain is yielded, if there is one. -/
theorem turn_eq (t : Traversal) :
    t.turn.yielded = t.yielded ++ t.remaining.take 1 ∧ t.turn.remaining = t.remaining.tail := by
  obtain ⟨stack, yielded⟩ := t
  rcases List.eq_nil_or_concat stack with rfl | ⟨stack, current, rfl⟩
  · simp [turn_nil, remaining_nil]
  · simp only [List.concat_eq_append, remaining_concat, List.tail_cons, and_true]
    simp [turn_concat]

/-- **What a number of turns does:** so many nodes of the document order have been yielded, and the
stack holds the rest. -/
theorem iterate_turn (node : Node) (n : Nat) :
    (turn^[n] (start node)).yielded = node.walk.take n ∧
      (turn^[n] (start node)).remaining = node.walk.drop n := by
  induction n with
  | zero => exact ⟨rfl, rfl⟩
  | succ n ih =>
    obtain ⟨hyielded, hremaining⟩ := ih
    obtain ⟨hturn, hrest⟩ := turn_eq (turn^[n] (start node))
    rw [Function.iterate_succ_apply', hturn, hrest, hyielded, hremaining]
    exact ⟨(List.take_add).symm, List.tail_drop⟩

end Traversal

namespace Node

/-! ## 2. Recursion -/

/-- The walk with a stack yields what the recursion over the tree does. -/
theorem walk_eq_preorder (node : Node) : node.walk = node.preorder := by
  rw [walk, walkFrom_eq_preorderAll, preorderAll, preorderAll, List.append_nil]

theorem preorderAll_eq_flatMap (nodes : List Node) :
    preorderAll nodes = nodes.flatMap preorder := by
  induction nodes with
  | nil => rfl
  | cons node nodes ih => rw [preorderAll, ih, List.flatMap_cons]

/-- **A node comes before its children**, and these come one after the other. -/
theorem walk_eq_cons (node : Node) : node.walk = node :: node.children.flatMap walk := by
  rw [walk_eq_preorder, preorder_eq_cons, preorderAll_eq_flatMap, funext walk_eq_preorder]

/-! ## 3. Places

That the order is the right one is said without a second traversal.  Places are rows of positions,
`at?` goes down along one, and the list of places is in lexicographic order, where a row comes
before those that continue it.  So a node comes before what is inside of it, and siblings come one
after the other. -/

/-- The node at a place: a row of positions of children, the outermost first. -/
def at? : Node → List Nat → Option Node
  | node, [] => some node
  | node, position :: place =>
    match node.children[position]? with
    | none => none
    | some child => child.at? place

mutual
/-- The places in a tree, in document order. -/
def places : Node → List (List Nat)
  | .branch _ cs => [] :: placesFrom 0 cs
  | .leaf _ => [[]]

/-- The places in several trees, the first of which is at a position. -/
def placesFrom (position : Nat) : List Node → List (List Nat)
  | [] => []
  | c :: cs => c.places.map (position :: ·) ++ placesFrom (position + 1) cs
end

theorem places_eq_cons (node : Node) : node.places = [] :: placesFrom 0 node.children := by
  cases node <;> rfl

/-- A place in several trees begins with the position of one of them. -/
theorem exists_of_mem_placesFrom {place : List Nat} :
    ∀ {cs : List Node} {position : Nat}, place ∈ placesFrom position cs →
      ∃ n rest, position ≤ n ∧ place = n :: rest
  | [], _, h => by cases h
  | c :: cs, position, h => by
    rcases List.mem_append.mp h with h | h
    · obtain ⟨rest, -, rfl⟩ := List.mem_map.mp h
      exact ⟨position, rest, Nat.le_refl _, rfl⟩
    · obtain ⟨n, rest, hn, rfl⟩ := exists_of_mem_placesFrom h
      exact ⟨n, rest, Nat.le_of_succ_le hn, rfl⟩

mutual
/-- Places are listed in lexicographic order, so none is listed twice. -/
theorem pairwise_places : ∀ node : Node, node.places.Pairwise (· < ·)
  | .branch _ cs => by
    refine List.pairwise_cons.mpr ⟨fun place h => ?_, pairwise_placesFrom 0 cs⟩
    obtain ⟨n, rest, -, rfl⟩ := exists_of_mem_placesFrom h
    exact List.nil_lt_cons n rest
  | .leaf _ => List.pairwise_singleton _ _

theorem pairwise_placesFrom (position : Nat) :
    ∀ cs : List Node, (placesFrom position cs).Pairwise (· < ·)
  | [] => .nil
  | c :: cs => by
    refine List.pairwise_append.mpr ⟨?_, pairwise_placesFrom (position + 1) cs, ?_⟩
    · refine List.pairwise_map.mpr ((pairwise_places c).imp fun h => ?_)
      exact List.cons_lt_cons_iff.mpr (.inr ⟨rfl, h⟩)
    · intro place hplace other hother
      obtain ⟨rest, -, rfl⟩ := List.mem_map.mp hplace
      obtain ⟨n, more, hn, rfl⟩ := exists_of_mem_placesFrom hother
      exact List.cons_lt_cons_iff.mpr (.inl hn)
end

theorem at?_cons {node child : Node} {position : Nat} (h : node.children[position]? = some child)
    (place : List Nat) : node.at? (position :: place) = child.at? place := by
  rw [at?, h]

mutual
/-- **One node stands at each place**, and they are listed in the order of the places. -/
theorem map_at?_places : ∀ node : Node, node.places.map node.at? = node.preorder.map some
  | .branch kind cs => by
    rw [places, preorder, List.map_cons, List.map_cons, at?]
    exact congrArg _ (map_at?_placesFrom (.branch kind cs) [] cs rfl)
  | .leaf _ => rfl

theorem map_at?_placesFrom (node : Node) (front : List Node) :
    ∀ cs : List Node, node.children = front ++ cs →
      (placesFrom front.length cs).map node.at? = (preorderAll cs).map some
  | [], _ => rfl
  | c :: cs, h => by
    have hchild : node.children[front.length]? = some c := by simp [h]
    have hothers := map_at?_placesFrom node (front ++ [c]) cs (by simp [h])
    rw [List.length_append, List.length_singleton] at hothers
    rw [placesFrom, preorderAll, List.map_append, List.map_append, hothers, List.map_map,
      ← map_at?_places c]
    simp [Function.comp_def, at?_cons hchild]
end

/-- A place in a tree, behind the position of the tree among its siblings, is one of their places.
-/
theorem cons_mem_placesFrom {child : Node} {place : List Nat} (hplace : place ∈ child.places) :
    ∀ {cs : List Node} {n : Nat} (position : Nat), cs[n]? = some child →
      (position + n) :: place ∈ placesFrom position cs
  | c :: cs, 0, position, h => by
    obtain rfl : c = child := Option.some.inj h
    exact List.mem_append_left _ (List.mem_map_of_mem hplace)
  | c :: cs, n + 1, position, h => by
    refine List.mem_append_right _ ?_
    rw [Nat.add_comm n 1, ← Nat.add_assoc]
    exact cons_mem_placesFrom hplace (position + 1) (by simpa using h)

/-- **All places at which there is a node are listed.** -/
theorem mem_places_iff {node : Node} {place : List Nat} :
    place ∈ node.places ↔ (node.at? place).isSome = true := by
  constructor
  · intro h
    have hat : node.at? place ∈ node.preorder.map some := by
      rw [← map_at?_places]
      exact List.mem_map_of_mem h
    obtain ⟨found, -, hfound⟩ := List.mem_map.mp hat
    rw [← hfound, Option.isSome_some]
  · intro h
    rw [places_eq_cons]
    induction place generalizing node with
    | nil => exact List.mem_cons_self
    | cons position place ih =>
      rw [at?] at h
      split at h
      · cases h
      next child hchild =>
        refine List.mem_cons_of_mem _ ?_
        have hplace : place ∈ child.places := by
          rw [places_eq_cons]
          exact ih h
        simpa using cons_mem_placesFrom hplace 0 hchild

/-! ## 4. Texts -/

/-- The text that a node contributes by itself. -/
def ownText? : Node → Option String
  | .text value | .inlineCode value | .code _ value | .html value => some value
  | .image _ _ alt => some alt
  | _ => none

theorem ownText?_branch (kind : Branch) (cs : List Node) : ownText? (.branch kind cs) = none := by
  cases kind <;> rfl

theorem join_ownText?_leaf (kind : Leaf) :
    String.join ([Node.leaf kind].filterMap ownText?) = leafPlainText kind := by
  cases kind with
  | thematicBreak | hardBreak => rfl
  | _ => simp [ownText?, leafPlainText, String.join]

mutual
/-- **The plain text is what the nodes contribute in document order.** -/
theorem plainText_eq_join :
    ∀ node : Node, node.plainText = String.join (node.preorder.filterMap ownText?)
  | .branch kind cs => by
    rw [plainText, preorder, List.filterMap_cons_none (ownText?_branch kind cs),
      plainTexts_eq_join cs]
  | .leaf kind => (join_ownText?_leaf kind).symm

theorem plainTexts_eq_join :
    ∀ cs : List Node, plainTexts cs = String.join ((preorderAll cs).filterMap ownText?)
  | [] => rfl
  | c :: cs => by
    rw [plainTexts, preorderAll, List.filterMap_append, String.join_append, plainText_eq_join c,
      plainTexts_eq_join cs]
end

end Node

/-! ## 5. The traversal -/

/-- **The traversal with a stack follows the document order.**  It ends: after some turns it has
yielded so many nodes of the order, and its stack is empty as soon as there are no more.  The order
is a node, then those of its children one after the other; it goes through the places of the tree
in lexicographic order, every place once.  And the plain text of a node consists of the texts that
the nodes contribute in this order. -/
theorem walk_in_document_order (node : Node) :
    (∀ n, ((Traversal.turn^[n] (.start node)).yielded = node.walk.take n) ∧
      ((Traversal.turn^[n] (.start node)).stack = [] ↔ node.walk.length ≤ n)) ∧
      node.walk = node :: node.children.flatMap Node.walk ∧
      (∃ places : List (List Nat), places.Pairwise (· < ·) ∧
        (∀ place, place ∈ places ↔ (node.at? place).isSome = true) ∧
        places.map node.at? = node.walk.map some) ∧
      node.plainText = String.join (node.walk.filterMap Node.ownText?) := by
  refine ⟨fun n => ?_, node.walk_eq_cons, ⟨node.places, node.pairwise_places,
    fun place => Node.mem_places_iff, ?_⟩, ?_⟩
  · obtain ⟨hyielded, hremaining⟩ := Traversal.iterate_turn node n
    rw [Traversal.stack_eq_nil_iff, hremaining, List.drop_eq_nil_iff]
    exact ⟨hyielded, Iff.rfl⟩
  · rw [Node.walk_eq_preorder]
    exact node.map_at?_places
  · rw [Node.walk_eq_preorder]
    exact node.plainText_eq_join

end TaskNotes
