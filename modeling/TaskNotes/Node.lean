/-
# Document trees

A document is a tree of seventeen kinds of node.  Ten kinds hold other nodes (`Branch`), seven
do not (`Leaf`); a node is a branch with its children or a leaf, so that a traversal has two
cases and not seventeen.  Nodes say what a document means and nothing about where it stood in a
text.

Trees are values: a transformation builds a new tree.  Equality of trees is decidable.

The names of the kinds, one for each (section 2), are patterns as well as functions, so a
definition can be written over the seventeen kinds where it has to tell them apart, and over the
two cases where it has not.

The depth of a heading carries its bounds, so no tree has a heading that cannot be written.
-/
namespace TaskNotes

/-! ## 1. Kinds of node

The fields of a kind are what a document says with it and nothing that could be computed from the
children. -/

/-- The depth of a heading, from one to six. -/
structure Depth where
  val : Nat
  one_le : 1 ≤ val := by decide
  le_six : val ≤ 6 := by decide
deriving DecidableEq, Repr

namespace Depth

/-- The depth of a document's title. -/
def one : Depth := ⟨1, by decide, by decide⟩

/-- The depth of a section. -/
def two : Depth := ⟨2, by decide, by decide⟩

/-- The depth of a section's part. -/
def three : Depth := ⟨3, by decide, by decide⟩

/-- The depth with the given number, if there is one. -/
def ofNat? (n : Nat) : Option Depth :=
  if h : 1 ≤ n ∧ n ≤ 6 then some ⟨n, h.1, h.2⟩ else none

end Depth

/-- The kinds of node that hold other nodes. -/
inductive Branch
  /-- A whole document. -/
  | root
  | heading (depth : Depth)
  | paragraph
  | blockquote
  /-- A list: numbered from `start` when it is ordered, and `spread` when its items stand
  apart. -/
  | list (ordered : Bool) (start : Option Int) (spread : Bool)
  /-- A list item: `checked` is its box, if it has one. -/
  | listItem (checked : Option Bool) (spread : Bool)
  | emphasis
  | strong
  /-- Text struck through. -/
  | delete
  | link (url : String) (title : Option String)
deriving DecidableEq, Repr

/-- The kinds of node that hold no other nodes. -/
inductive Leaf
  /-- A block of code, with its info string. -/
  | code (lang : Option String) (value : String)
  /-- Raw HTML, as a block or inside a line. -/
  | html (value : String)
  | thematicBreak
  | text (value : String)
  | inlineCode (value : String)
  | image (url : String) (title : Option String) (alt : String)
  /-- A hard line break. -/
  | hardBreak
deriving DecidableEq, Repr

/-- A node of a document tree. -/
inductive Node
  | branch (kind : Branch) (children : List Node)
  | leaf (kind : Leaf)
deriving Repr

/-! ## 2. One name for each kind -/

namespace Node

@[match_pattern] abbrev root (children : List Node) : Node := .branch .root children
@[match_pattern] abbrev heading (depth : Depth) (children : List Node) : Node :=
  .branch (.heading depth) children
@[match_pattern] abbrev paragraph (children : List Node) : Node := .branch .paragraph children
@[match_pattern] abbrev blockquote (children : List Node) : Node := .branch .blockquote children
@[match_pattern] abbrev list (ordered : Bool) (start : Option Int) (spread : Bool)
    (children : List Node) : Node := .branch (.list ordered start spread) children
@[match_pattern] abbrev listItem (checked : Option Bool) (spread : Bool)
    (children : List Node) : Node := .branch (.listItem checked spread) children
@[match_pattern] abbrev emphasis (children : List Node) : Node := .branch .emphasis children
@[match_pattern] abbrev strong (children : List Node) : Node := .branch .strong children
@[match_pattern] abbrev delete (children : List Node) : Node := .branch .delete children
@[match_pattern] abbrev link (url : String) (title : Option String) (children : List Node) :
    Node := .branch (.link url title) children
@[match_pattern] abbrev code (lang : Option String) (value : String) : Node :=
  .leaf (.code lang value)
@[match_pattern] abbrev html (value : String) : Node := .leaf (.html value)
@[match_pattern] abbrev thematicBreak : Node := .leaf .thematicBreak
@[match_pattern] abbrev text (value : String) : Node := .leaf (.text value)
@[match_pattern] abbrev inlineCode (value : String) : Node := .leaf (.inlineCode value)
@[match_pattern] abbrev image (url : String) (title : Option String) (alt : String) : Node :=
  .leaf (.image url title alt)
@[match_pattern] abbrev hardBreak : Node := .leaf .hardBreak

/-! ## 3. Questions about a node

Blocks stand on lines of their own, and phrasing content stands inside a line.  Any kind can hold
any other here; what stands where it is not expected is written as well as it can be. -/

/-- Whether a node can hold other nodes. -/
def isParent : Node → Bool
  | .branch _ _ => true
  | .leaf _ => false

/-- The nodes a node holds. -/
def children : Node → List Node
  | .branch _ cs => cs
  | .leaf _ => []

end Node

/-- Whether a branch stands inside a line. -/
def Branch.isPhrasing : Branch → Bool
  | .emphasis | .strong | .delete | .link _ _ => true
  | _ => false

/-- Whether a leaf stands inside a line.  Raw HTML can do so but is counted as a block. -/
def Leaf.isPhrasing : Leaf → Bool
  | .text _ | .inlineCode _ | .image _ _ _ | .hardBreak => true
  | _ => false

namespace Node

/-- Whether a node belongs inside a line of text. -/
def isPhrasing : Node → Bool
  | .branch kind _ => kind.isPhrasing
  | .leaf kind => kind.isPhrasing

/-- The value of a text node. -/
def textValue? : Node → Option String
  | .leaf (.text value) => some value
  | _ => none

/-! ## 4. Equality is decidable

By recursion on both trees.  Lists of children are compared in a second function, since `deriving`
does not reach through them. -/

mutual
/-- Decides whether two nodes are equal. -/
def decEq : (a b : Node) → Decidable (a = b)
  | .leaf k, .leaf l =>
    if h : k = l then isTrue (h ▸ rfl) else isFalse (fun e => h (Node.leaf.inj e))
  | .leaf _, .branch _ _ => isFalse (fun e => by cases e)
  | .branch _ _, .leaf _ => isFalse (fun e => by cases e)
  | .branch k cs, .branch l ds =>
    if h : k = l then
      match decEqs cs ds with
      | isTrue hs => isTrue (h ▸ hs ▸ rfl)
      | isFalse hs => isFalse (fun e => hs (Node.branch.inj e).2)
    else isFalse (fun e => h (Node.branch.inj e).1)

/-- Decides whether two lists of nodes are equal. -/
def decEqs : (as bs : List Node) → Decidable (as = bs)
  | [], [] => isTrue rfl
  | [], _ :: _ => isFalse (fun e => by cases e)
  | _ :: _, [] => isFalse (fun e => by cases e)
  | a :: as, b :: bs =>
    match decEq a b with
    | isFalse h => isFalse (fun e => h (List.cons.inj e).1)
    | isTrue h =>
      match decEqs as bs with
      | isFalse hs => isFalse (fun e => hs (List.cons.inj e).2)
      | isTrue hs => isTrue (h ▸ hs ▸ rfl)
end

instance : DecidableEq Node := decEq

end Node

end TaskNotes
