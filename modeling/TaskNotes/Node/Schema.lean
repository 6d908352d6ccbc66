/-
# Trees as JSON

A node is written as an object with its kind under `type` and exactly the fields of that kind
(`Node.toJson`).  Reading one (`Node.ofJson`) picks the kind by `type`, fills in the defaults of
absent fields and ignores unknown ones.  Faults are reported depth first.

Each field has its own check, and a field that is absent has a default or is a fault.  The faults
of all fields of a node are collected, and those of its children come with the path that leads to
them; so one reading tells of everything that is wrong with a value.

Reading what was written gives the tree back (`Proofs/DumpedTrees`).
-/
import TaskNotes.Node
import TaskNotes.Check

namespace TaskNotes

/-! ## 1. Reading

The recursion is on the value.  Children are looked for among the fields of an object before its
kind is known, and are used by the kinds that have them. -/

/-- A whole number between one and six. -/
def checkDepth (value : Json) : Checked Depth :=
  match checkInt value with
  | .error faults => .error faults
  | .ok n =>
    if h : 1 ≤ n then
      if h' : n ≤ 6 then .ok ⟨n.toNat, by omega, by omega⟩
      else fault .lessThanEqual
    else fault .greaterThanEqual

/-- The names of the kinds, in their order. -/
def kindNames : List String :=
  ["root", "heading", "paragraph", "blockquote", "list", "listItem", "code", "html",
    "thematicBreak", "text", "emphasis", "strong", "delete", "inlineCode", "link", "image",
    "break"]

/-- Builds a node of a kind from the values of its fields; `children` is what the field of that
name was found to hold. -/
def nodeOfFields (kind : String) (field : String → Option Json)
    (children : Checked (List Node)) : Checked Node :=
  let url := requiredField "url" checkString (field "url")
  let title := optionalField "title" none (checkOption checkString) (field "title")
  let spread := optionalField "spread" false checkBool (field "spread")
  let value := requiredField "value" checkString (field "value")
  match kind with
  | "root" => children.map Node.root
  | "heading" => .map₂ Node.heading (requiredField "depth" checkDepth (field "depth")) children
  | "paragraph" => children.map Node.paragraph
  | "blockquote" => children.map Node.blockquote
  | "list" =>
    .map₄ Node.list (optionalField "ordered" false checkBool (field "ordered"))
      (optionalField "start" none (checkOption checkInt) (field "start")) spread children
  | "listItem" =>
    .map₃ Node.listItem (optionalField "checked" none (checkOption checkBool) (field "checked"))
      spread children
  | "code" =>
    .map₂ Node.code (optionalField "lang" none (checkOption checkString) (field "lang"))
      (optionalField "value" "" checkString (field "value"))
  | "html" => value.map Node.html
  | "thematicBreak" => .ok Node.thematicBreak
  | "text" => value.map Node.text
  | "emphasis" => children.map Node.emphasis
  | "strong" => children.map Node.strong
  | "delete" => children.map Node.delete
  | "inlineCode" => value.map Node.inlineCode
  | "link" => .map₃ Node.link url title children
  | "image" =>
    .map₃ Node.image url title (optionalField "alt" "" checkString (field "alt"))
  | "break" => .ok Node.hardBreak
  | _ => fault .unionTagInvalid

/-- Checks a node whose kind is known. -/
def nodeOfKind (type : Json) (field : String → Option Json)
    (children : Checked (List Node)) : Checked Node :=
  match type with
  | .string kind =>
    if kindNames.contains kind then (nodeOfFields kind field children).under (.name kind)
    else fault .unionTagInvalid
  | _ => fault .unionTagInvalid

mutual
/-- Checks a value as a node. -/
def Node.ofJson : Json → Checked Node
  | .object fields =>
    match Json.field? fields "type" with
    | some type => nodeOfKind type (Json.field? fields) (childrenOfFields fields)
    | none => fault .unionTagNotFound
  | _ => fault .notAnObject

/-- The nodes of the field `children`, none when there is no such field. -/
def childrenOfFields : List (String × Json) → Checked (List Node)
  | [] => .ok []
  | (name, value) :: fields =>
    if name == "children" then (childrenOfJson value).under (.name "children")
    else childrenOfFields fields

/-- Checks a value as a list of nodes. -/
def childrenOfJson : Json → Checked (List Node)
  | .array items => nodesOfItems 0 items
  | _ => fault .listType

/-- Checks the items of a list from a position on. -/
def nodesOfItems (position : Nat) : List Json → Checked (List Node)
  | [] => .ok []
  | item :: items =>
    .map₂ List.cons ((Node.ofJson item).under (.index position))
      (nodesOfItems (position + 1) items)
end

/-! ## 2. Writing

Every field of a kind is written, also one that has its default value. -/

/-- A value that may be absent. -/
def Json.ofOption {α : Type} (write : α → Json) : Option α → Json
  | none => .null
  | some a => write a

/-- The name of a kind of leaf. -/
def Leaf.name : Leaf → String
  | .code _ _ => "code"
  | .html _ => "html"
  | .thematicBreak => "thematicBreak"
  | .text _ => "text"
  | .inlineCode _ => "inlineCode"
  | .image _ _ _ => "image"
  | .hardBreak => "break"

/-- The name of a kind of branch. -/
def Branch.name : Branch → String
  | .root => "root"
  | .heading _ => "heading"
  | .paragraph => "paragraph"
  | .blockquote => "blockquote"
  | .list _ _ _ => "list"
  | .listItem _ _ => "listItem"
  | .emphasis => "emphasis"
  | .strong => "strong"
  | .delete => "delete"
  | .link _ _ => "link"

/-- The name of the kind of a node. -/
def Node.kindName : Node → String
  | .leaf kind => kind.name
  | .branch kind _ => kind.name

/-- The fields of a leaf besides its kind. -/
def Leaf.fields : Leaf → List (String × Json)
  | .code lang value => [("lang", .ofOption .string lang), ("value", .string value)]
  | .html value | .text value | .inlineCode value => [("value", .string value)]
  | .thematicBreak | .hardBreak => []
  | .image url title alt =>
    [("url", .string url), ("title", .ofOption .string title), ("alt", .string alt)]

/-- The fields of a branch besides its kind and its children. -/
def Branch.fields : Branch → List (String × Json)
  | .heading depth => [("depth", .int depth.val)]
  | .list ordered start spread =>
    [("ordered", .bool ordered), ("start", .ofOption .int start), ("spread", .bool spread)]
  | .listItem checked spread =>
    [("checked", .ofOption .bool checked), ("spread", .bool spread)]
  | .link url title => [("url", .string url), ("title", .ofOption .string title)]
  | .root | .paragraph | .blockquote | .emphasis | .strong | .delete => []

mutual
/-- Writes a node with all fields of its kind. -/
def Node.toJson : Node → Json
  | .leaf kind => .object (("type", .string kind.name) :: kind.fields)
  | .branch kind cs =>
    .object (("type", .string kind.name) :: kind.fields ++ [("children", .array (jsonOfNodes cs))])

/-- Writes several nodes. -/
def jsonOfNodes : List Node → List Json
  | [] => []
  | c :: cs => c.toJson :: jsonOfNodes cs
end

end TaskNotes
