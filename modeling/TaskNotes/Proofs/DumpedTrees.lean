/-
# Dumped trees

A tree that is written as JSON and read again is the same tree (`ofJson_toJson`): of every kind,
each field is written under the name it is read by, and what is written of it passes its check.
Reading also takes values that no tree is written as: with absent fields, unknown ones, or numbers
and truth values spelled otherwise.  Written again, such a value has become one that reads as the
same tree.

That a checked value survives is a consequence and needs no second proof: what has been checked is
a tree, whatever it was read from.  The content of the module is therefore the first half, and
there the only thing to watch is the union of kinds.  A kind is found by its name, so no kind may
have the name of another, and none of the field names of a kind may hide its type or its children.
-/
import TaskNotes.Node.Schema
import Mathlib.Control.Monad.Basic

namespace TaskNotes

/-! ## 1. Fields

A field that may be absent is dumped as null when it is, so a value that is there must not be
dumped as null. -/

/-- A value that may be absent passes its check as it is written. -/
theorem checkOption_ofOption {α : Type} {check : Json → Checked α} {write : α → Json}
    (hcheck : ∀ a, check (write a) = .ok a) (hnull : ∀ a, write a ≠ .null) (value : Option α) :
    checkOption check (.ofOption write value) = .ok value := by
  cases value with
  | none => rfl
  | some a =>
    have hwritten := hcheck a
    rw [Json.ofOption]
    cases hvalue : write a with
    | null => exact absurd hvalue (hnull a)
    | _ =>
      rw [hvalue] at hwritten
      simp only [checkOption, hwritten]

theorem checkDepth_int (depth : Depth) : checkDepth (.int depth.val) = .ok depth := by
  obtain ⟨n, hone, hsix⟩ := depth
  have hone' : (1 : Int) ≤ n := by omega
  have hsix' : (n : Int) ≤ 6 := by omega
  simp [checkDepth, checkInt, hone', hsix']

theorem checkOption_string (value : Option String) :
    checkOption checkString (.ofOption .string value) = .ok value :=
  checkOption_ofOption (fun text : String => rfl) (fun _ h => by cases h) value

theorem checkOption_bool (value : Option Bool) :
    checkOption checkBool (.ofOption .bool value) = .ok value :=
  checkOption_ofOption (fun truth : Bool => rfl) (fun _ h => by cases h) value

theorem checkOption_int (value : Option Int) :
    checkOption checkInt (.ofOption .int value) = .ok value :=
  checkOption_ofOption (fun n : Int => rfl) (fun _ h => by cases h) value

/-! ## 2. Kinds -/

section

open Checked

variable {children : Checked (List Node)} {cs : List Node}

/-- **The fields of a leaf** are read by the names they are written under. -/
theorem nodeOfFields_leaf (kind : Leaf) (children : Checked (List Node)) :
    nodeOfFields kind.name (Json.field? (("type", .string kind.name) :: kind.fields)) children =
      .ok (.leaf kind) := by
  cases kind <;>
    simp [nodeOfFields, Leaf.name, Leaf.fields, Json.field?, requiredField, optionalField,
      checkOption_string, checkString, under, map₂, map₃, Except.map]

/-- **The fields of a branch** are read by the names they are written under. -/
theorem nodeOfFields_branch (kind : Branch) (items : Json) (cs : List Node) :
    nodeOfFields kind.name
        (Json.field? (("type", .string kind.name) :: kind.fields ++ [("children", items)]))
        (.ok cs) =
      .ok (.branch kind cs) := by
  cases kind <;>
    simp [nodeOfFields, Branch.name, Branch.fields, Json.field?, requiredField, optionalField,
      checkOption_string, checkOption_bool, checkOption_int, checkDepth_int, checkString, checkBool,
      under, map₂, map₃, map₄, Except.map]

/-- The children of a branch are read from the field they are written under. -/
theorem childrenOfFields_branch (kind : Branch) (items : Json) :
    childrenOfFields (("type", .string kind.name) :: kind.fields ++ [("children", items)]) =
      (childrenOfJson items).under (.name "children") := by
  cases kind <;> simp [childrenOfFields, Branch.fields]

theorem nodeOfKind_string {kind : String} (hkind : kindNames.contains kind = true)
    {field : String → Option Json} {node : Node}
    (h : nodeOfFields kind field children = .ok node) :
    nodeOfKind (.string kind) field children = .ok node := by
  rw [nodeOfKind, if_pos hkind, h, under]

theorem contains_kindNames_leaf (kind : Leaf) : kindNames.contains kind.name = true := by
  cases kind <;> rfl

theorem contains_kindNames_branch (kind : Branch) : kindNames.contains kind.name = true := by
  cases kind <;> rfl

end

/-! ## 3. Trees

The recursion is over nodes and lists of nodes.  Children are checked with the position at which
they stand, since a fault says where it is; the position plays no part when there is no fault. -/

theorem field?_type (kind : String) (fields : List (String × Json)) :
    Json.field? (("type", .string kind) :: fields) "type" = some (.string kind) := by
  simp [Json.field?]

mutual
/-- **A dumped tree is read back.** -/
theorem ofJson_toJson : ∀ node : Node, Node.ofJson node.toJson = .ok node
  | .leaf kind => by
    rw [Node.toJson, Node.ofJson, field?_type]
    exact nodeOfKind_string (contains_kindNames_leaf kind) (nodeOfFields_leaf kind _)
  | .branch kind cs => by
    rw [Node.toJson, Node.ofJson, List.cons_append, field?_type]
    refine nodeOfKind_string (contains_kindNames_branch kind) ?_
    rw [← List.cons_append, childrenOfFields_branch, childrenOfJson, nodesOfItems_jsonOfNodes]
    exact nodeOfFields_branch kind _ cs

theorem nodesOfItems_jsonOfNodes (position : Nat) :
    ∀ cs : List Node, nodesOfItems position (jsonOfNodes cs) = .ok cs
  | [] => rfl
  | c :: cs => by
    rw [jsonOfNodes, nodesOfItems, ofJson_toJson c, nodesOfItems_jsonOfNodes (position + 1) cs]
    rfl
end

/-! ## 4. Trees survive dumping -/

/-- **Trees survive dumping.**  A dumped tree is checked without a fault and is the same tree; so
is the tree of any value that has been checked, however that value was written. -/
theorem trees_survive_dumping :
    (∀ node : Node, Node.ofJson node.toJson = .ok node) ∧
      ∀ (value : Json) (node : Node), Node.ofJson value = .ok node →
        Node.ofJson node.toJson = .ok node :=
  ⟨ofJson_toJson, fun _ node _ => ofJson_toJson node⟩

/-- A document with a list: some fields are absent and one is unknown, and numbers and truth values
are not spelled as they are dumped. -/
def looseValue : Json :=
  let heading := .object [("type", .string "heading"), ("depth", .string " 02 ")]
  let item := .object [("type", .string "listItem"), ("checked", .int 1),
    ("colour", .string "red"), ("children", .array [heading])]
  let list := .object [("start", .number 70 1), ("type", .string "list"),
    ("ordered", .string "Yes"), ("children", .array [item])]
  .object [("children", .array [list]), ("type", .string "root")]

/-- What is read of it. -/
def looseTree : Node :=
  .root [.list true (some 7) false [.listItem (some true) false [.heading .two []]]]

/-- The value is checked, and the dump of its tree, which is another value, is checked as the same
tree. -/
theorem trees_survive_dumping_looseTree :
    Node.ofJson looseValue = .ok looseTree ∧ Node.ofJson looseTree.toJson = .ok looseTree := by
  have hchecked : Node.ofJson looseValue = .ok looseTree := by decide +kernel
  exact ⟨hchecked, trees_survive_dumping.2 looseValue looseTree hchecked⟩

end TaskNotes
