/-
# Document order

Pre-order traversal, twice: `Node.walk` keeps the nodes still to visit on an explicit stack and
`Node.preorder` follows the tree.  Both list a node before its children and the children in
their order.  The plain text of a node is what its texts, code, raw HTML and image descriptions
hold, in that order.

The traversal with a stack is the one that is run, since its depth does not grow with that of the
tree.  It terminates because a node on the stack gives way to its children, which have fewer nodes
in all (`sizeAll_children_lt`), and it lists the same nodes as the other
(`walkFrom_eq_preorderAll`).
-/
import TaskNotes.Node

namespace TaskNotes

namespace Node

/-! ## 1. The recursive traversal -/

mutual
/-- A node, then its descendants in document order. -/
def preorder : Node → List Node
  | .branch kind cs => .branch kind cs :: preorderAll cs
  | .leaf kind => [.leaf kind]

/-- The traversals of several nodes, one after the other. -/
def preorderAll : List Node → List Node
  | [] => []
  | c :: cs => preorder c ++ preorderAll cs
end

mutual
/-- How many nodes a tree has. -/
def size : Node → Nat
  | .branch _ cs => 1 + sizeAll cs
  | .leaf _ => 1

/-- How many nodes several trees have together. -/
def sizeAll : List Node → Nat
  | [] => 0
  | c :: cs => size c + sizeAll cs
end

/-! ## 2. The traversal with a stack -/

theorem sizeAll_append (as bs : List Node) : sizeAll (as ++ bs) = sizeAll as + sizeAll bs := by
  induction as with
  | nil => simp [sizeAll]
  | cons a as ih => simp [sizeAll, ih, Nat.add_assoc]

theorem sizeAll_children_lt (node : Node) : sizeAll node.children < size node := by
  cases node <;> simp [children, size, sizeAll]

/-- Visits the node on top of the stack and puts its children in its place. -/
def walkFrom : List Node → List Node
  | [] => []
  | current :: stack => current :: walkFrom (current.children ++ stack)
termination_by stack => sizeAll stack
decreasing_by
  rw [sizeAll_append]
  have := sizeAll_children_lt current
  simp only [sizeAll]
  omega

/-- A node and its descendants, in document order. -/
def walk (node : Node) : List Node := walkFrom [node]

theorem preorderAll_append (as bs : List Node) :
    preorderAll (as ++ bs) = preorderAll as ++ preorderAll bs := by
  induction as with
  | nil => simp [preorderAll]
  | cons a as ih => simp [preorderAll, ih]

theorem preorder_eq_cons (node : Node) :
    preorder node = node :: preorderAll node.children := by
  cases node <;> simp [preorder, preorderAll, children]

/-- The stack holds the trees whose traversals are still to come. -/
theorem walkFrom_eq_preorderAll (stack : List Node) : walkFrom stack = preorderAll stack := by
  fun_induction walkFrom stack with
  | case1 => simp [preorderAll]
  | case2 current stack ih =>
    simp [ih, preorderAll, preorderAll_append, preorder_eq_cons current]

/-! ## 3. Texts

Only text nodes count as texts of a tree, and so they do where tasks and identifiers are looked
for.  The plain text is what is left of a node without its formatting. -/

/-- The values of the text nodes of a tree, in document order. -/
def texts (node : Node) : List String := node.walk.filterMap textValue?

/-- What a leaf contributes to the plain text. -/
def leafPlainText : Leaf → String
  | .text value | .inlineCode value | .code _ value | .html value => value
  | .image _ _ alt => alt
  | .thematicBreak | .hardBreak => ""

mutual
/-- The textual content of a node, without any formatting. -/
def plainText : Node → String
  | .branch _ cs => plainTexts cs
  | .leaf kind => leafPlainText kind

/-- The textual content of several nodes. -/
def plainTexts : List Node → String
  | [] => ""
  | c :: cs => plainText c ++ plainTexts cs
end

end Node

end TaskNotes
