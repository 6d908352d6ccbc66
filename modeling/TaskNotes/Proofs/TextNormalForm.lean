/-
# Texts are whole

A tree is in text normal form when none of its texts is empty and no two texts stand next to each
other (`Node.TextNormal`).  What looks at one text at a time, as the search for boxes and for
identifiers does, then sees all there is up to the next node of another kind.

* Reading puts every text together from spans of several sorts, drops the empty ones and cuts the
  box off the first text of an item; what is read is in this form (`textNormal_node`).
* Numbering puts other texts in the place of texts and new ones in front of nodes.  It keeps the
  form (`textNormal_of_number`), since it makes edits only (`Node.Edited`) and each of them does.

The form is stated of all nodes of a tree, and used sibling by sibling: a text can be put in front
of siblings exactly if they do not begin with one.  So the lemmas say of each node what may follow
it, and of siblings what they begin with.

Documents are taken with whatever blocks and spans they may have, and not only those that the
reader makes.  So nothing has to be known of the reader: the form is owed to how a tree is put
together.
-/
import TaskNotes.Markup.Tree
import TaskNotes.Proofs.Edits
import TaskNotes.Proofs.RegionBodies
import Mathlib.Data.List.Chain

namespace TaskNotes

/-! ## 1. The form

Only texts can be empty or run together; code, HTML and breaks between them keep them apart. -/

/-- At most one of two neighbours is a text. -/
def TextsApart (c d : Node) : Prop := c.textValue? = none ∨ d.textValue? = none

instance : DecidableRel TextsApart := fun c d =>
  inferInstanceAs (Decidable (c.textValue? = none ∨ d.textValue? = none))

/-- No text of a tree is empty, and no two texts are neighbours. -/
structure Node.TextNormal (tree : Node) : Prop where
  text_ne_empty : ∀ node ∈ tree.preorder, node.textValue? ≠ some ""
  texts_apart : ∀ node ∈ tree.preorder, node.children.IsChain TextsApart

/-- The same of siblings: each of them is in this form, and no two texts are neighbours. -/
structure SiblingsNormal (cs : List Node) : Prop where
  each : ∀ c ∈ cs, c.TextNormal
  apart : cs.IsChain TextsApart

/-- A block in the form: it is no text, and holds none that is empty or next to another. -/
structure Node.BlockNormal (node : Node) : Prop where
  textValue?_eq : node.textValue? = none
  normal : node.TextNormal

instance (tree : Node) : Decidable tree.TextNormal :=
  decidable_of_iff
    ((tree.preorder.all fun node => node.textValue? != some "") ∧
      tree.preorder.all fun node => decide (node.children.IsChain TextsApart))
    ⟨fun h => ⟨by simpa using h.1, by simpa using h.2⟩,
      fun h => ⟨by simpa using h.text_ne_empty, by simpa using h.texts_apart⟩⟩

example : Node.TextNormal (.paragraph [.text "a", .emphasis [.text "b"], .text "c"]) := by decide

example : ¬ Node.TextNormal (.paragraph [.emphasis [.text "a", .text "b"]]) := by decide

/-! ## 2. The form from node to node

Simp lemmas for the ways in which siblings begin. -/

section

variable {kind : Branch} {c : Node} {cs : List Node} {value : String}

theorem mem_preorderAll_iff {node : Node} :
    node ∈ Node.preorderAll cs ↔ ∃ c ∈ cs, node ∈ c.preorder := by
  induction cs with
  | nil => simp [Node.preorderAll]
  | cons c cs ih => simp [Node.preorderAll, ih]

@[simp] theorem textNormal_leaf_iff {kind : Leaf} :
    (Node.leaf kind).TextNormal ↔ kind ≠ .text "" := by
  constructor
  · rintro h rfl
    exact h.text_ne_empty (.text "") List.mem_cons_self rfl
  · intro h
    refine ⟨?_, ?_⟩
    · simp only [Node.preorder, List.forall_mem_singleton]
      intro hvalue
      cases kind <;> simp_all [Node.textValue?]
    · simp [Node.preorder, Node.children]

/-- **A branch is in the form** iff its children are. -/
@[simp] theorem textNormal_branch_iff : (Node.branch kind cs).TextNormal ↔ SiblingsNormal cs := by
  constructor
  · rintro ⟨hvalues, hchains⟩
    simp only [Node.preorder, List.forall_mem_cons, mem_preorderAll_iff] at hvalues hchains
    refine ⟨fun c hc => ⟨fun node hnode => ?_, fun node hnode => ?_⟩, hchains.1⟩
    · exact hvalues.2 node ⟨c, hc, hnode⟩
    · exact hchains.2 node ⟨c, hc, hnode⟩
  · rintro ⟨heach, hapart⟩
    constructor <;> simp only [Node.preorder, List.forall_mem_cons, mem_preorderAll_iff]
    · refine ⟨by simp [Node.textValue?], ?_⟩
      rintro node ⟨c, hc, hnode⟩
      exact (heach c hc).text_ne_empty node hnode
    · refine ⟨hapart, ?_⟩
      rintro node ⟨c, hc, hnode⟩
      exact (heach c hc).texts_apart node hnode

theorem firstText?_eq_bind_head? : ∀ cs : List Node,
    firstText? cs = cs.head?.bind Node.textValue?
  | [] => rfl
  | .branch _ _ :: _ => rfl
  | .leaf kind :: _ => by cases kind <;> rfl

@[simp] theorem siblingsNormal_nil : SiblingsNormal [] := ⟨List.forall_mem_nil _, .nil⟩

theorem siblingsNormal_cons_iff :
    SiblingsNormal (c :: cs) ↔
      c.TextNormal ∧ (c.textValue? = none ∨ firstText? cs = none) ∧ SiblingsNormal cs := by
  have hhead : (∀ d ∈ cs.head?, TextsApart c d) ↔
      (c.textValue? = none ∨ firstText? cs = none) := by
    rw [firstText?_eq_bind_head?]
    cases cs <;> simp [TextsApart]
  constructor
  · rintro ⟨heach, hapart⟩
    rw [List.forall_mem_cons] at heach
    rw [List.isChain_cons, hhead] at hapart
    exact ⟨heach.1, hapart.1, heach.2, hapart.2⟩
  · rintro ⟨hc, hfirst, heach, hapart⟩
    refine ⟨List.forall_mem_cons.mpr ⟨hc, heach⟩, ?_⟩
    rw [List.isChain_cons, hhead]
    exact ⟨hfirst, hapart⟩

@[simp] theorem siblingsNormal_cons_text_iff :
    SiblingsNormal (.text value :: cs) ↔
      value ≠ "" ∧ firstText? cs = none ∧ SiblingsNormal cs := by
  rw [siblingsNormal_cons_iff, textNormal_leaf_iff]
  simp [Node.textValue?]

@[simp] theorem siblingsNormal_cons_branch_iff {inner : List Node} :
    SiblingsNormal (.branch kind inner :: cs) ↔ SiblingsNormal inner ∧ SiblingsNormal cs := by
  rw [siblingsNormal_cons_iff, textNormal_branch_iff]
  simp [Node.textValue?]

theorem siblingsNormal_cons_iff_of_not_text (h : c.textValue? = none) :
    SiblingsNormal (c :: cs) ↔ c.TextNormal ∧ SiblingsNormal cs := by
  rw [siblingsNormal_cons_iff, h]
  simp

/-- A node that is no text keeps what stands before it apart from what stands behind it. -/
theorem siblingsNormal_append_cons_iff {body : List Node} (h : c.textValue? = none) :
    SiblingsNormal (body ++ c :: cs) ↔
      SiblingsNormal body ∧ c.TextNormal ∧ SiblingsNormal cs := by
  induction body with
  | nil =>
    rw [List.nil_append, siblingsNormal_cons_iff_of_not_text h]
    exact (and_iff_right siblingsNormal_nil).symm
  | cons d body ih =>
    have hfirst : firstText? (body ++ c :: cs) = none ↔ firstText? body = none := by
      rw [firstText?_eq_bind_head?, firstText?_eq_bind_head?]
      cases body <;> simp [h]
    rw [List.cons_append, siblingsNormal_cons_iff, siblingsNormal_cons_iff, hfirst, ih]
    simp only [and_assoc]

theorem siblingsNormal_of_blockNormal (h : ∀ c ∈ cs, c.BlockNormal) : SiblingsNormal cs := by
  induction cs with
  | nil => exact siblingsNormal_nil
  | cons c cs ih =>
    rw [List.forall_mem_cons] at h
    exact (siblingsNormal_cons_iff_of_not_text h.1.textValue?_eq).mpr ⟨h.1.normal, ih h.2⟩

theorem blockNormal_branch (h : SiblingsNormal cs) : (Node.branch kind cs).BlockNormal :=
  ⟨rfl, textNormal_branch_iff.mpr h⟩

/-- Blocks stand apart by themselves. -/
theorem blockNormal_branch_of_blocks (h : ∀ c ∈ cs, c.BlockNormal) :
    (Node.branch kind cs).BlockNormal :=
  blockNormal_branch (siblingsNormal_of_blockNormal h)

end

/-! ## 3. Reading

Spans are put together from the last one to the first.  Each text is put in front of what is there
already, and joined with the text there if there is one. -/

namespace Markup

/-- **A text that is put in front is joined with the text there**, and dropped if it is empty. -/
theorem siblingsNormal_prependText {cs : List Node} (h : SiblingsNormal cs) (value : String) :
    SiblingsNormal (prependText value cs) := by
  unfold prependText
  split
  next => exact h
  next hvalue =>
    rw [String.isEmpty_iff] at hvalue
    split
    next more others =>
      obtain ⟨-, hfirst, hothers⟩ := siblingsNormal_cons_text_iff.mp h
      refine siblingsNormal_cons_text_iff.mpr ⟨?_, hfirst, hothers⟩
      intro happend
      exact hvalue (String.append_eq_empty_iff.mp happend).1
    next hother =>
      refine siblingsNormal_cons_text_iff.mpr ⟨hvalue, ?_, h⟩
      unfold firstText?
      split
      next more others => exact absurd rfl (hother more others)
      next => rfl

mutual
theorem siblingsNormal_prepend {cs : List Node} (s : Span) (h : SiblingsNormal cs) :
    SiblingsNormal (s.prepend cs) := by
  match s with
  | .text value => exact siblingsNormal_prependText h _
  | .softBreak => exact siblingsNormal_prependText h _
  | .hardBreak | .code _ | .html _ | .image _ _ _ =>
    exact (siblingsNormal_cons_iff_of_not_text rfl).mpr ⟨by simp, h⟩
  | .emphasis _ children | .strong _ children | .strike children | .link _ children =>
    exact siblingsNormal_cons_branch_iff.mpr ⟨siblingsNormal_spanNodes children, h⟩
  | .autolink _ shown =>
    refine siblingsNormal_cons_branch_iff.mpr ⟨?_, h⟩
    exact siblingsNormal_prependText siblingsNormal_nil _

/-- **The nodes of a line are in the form.** -/
theorem siblingsNormal_spanNodes (ss : List Span) : SiblingsNormal (spanNodes ss) := by
  match ss with
  | [] => exact siblingsNormal_nil
  | s :: ss => exact siblingsNormal_prepend s (siblingsNormal_spanNodes ss)
end

/-- **The box of an item is cut off whole.**  What is left of the text is put back unless it is
empty, and is not joined with what follows, which is no text. -/
theorem blockNormal_splitBox {cs : List Node} (h : ∀ c ∈ cs, c.BlockNormal) :
    ∀ c ∈ (splitBox cs).2, c.BlockNormal := by
  unfold splitBox
  split
  next value others blocks =>
    split
    next checked rest hbox =>
      split
      next => exact h
      next =>
        rw [List.forall_mem_cons] at h ⊢
        have hfirst := textNormal_branch_iff.mp h.1.normal
        obtain ⟨-, hnotext, hothers⟩ := siblingsNormal_cons_text_iff.mp hfirst
        refine ⟨blockNormal_branch ?_, h.2⟩
        split
        next => exact hothers
        next hrest =>
          refine siblingsNormal_cons_text_iff.mpr ⟨?_, hnotext, hothers⟩
          simpa using hrest
    next => exact h
  next => exact h

theorem blockNormal_itemNode {cs : List Node} (tight : Bool) (blocks : List (Block Inline))
    (h : ∀ c ∈ cs, c.BlockNormal) : (itemNode tight blocks cs).BlockNormal := by
  unfold itemNode
  by_cases hbox : beginsWithBox blocks = true
  · rw [if_pos hbox]
    exact blockNormal_branch_of_blocks (blockNormal_splitBox h)
  · rw [if_neg hbox]
    exact blockNormal_branch_of_blocks h

mutual
/-- **The node of a block is in the form.** -/
theorem blockNormal_of_mem_node? (b : Block Inline) : ∀ c ∈ b.node?.toList, c.BlockNormal := by
  match b with
  | .indentedCode _ | .fencedCode _ _ | .html _ | .rule =>
    exact List.forall_mem_singleton.mpr ⟨rfl, by simp⟩
  | .heading _ content | .paragraph content =>
    exact List.forall_mem_singleton.mpr (blockNormal_branch (siblingsNormal_spanNodes _))
  | .quotation children =>
    have h := blockNormal_of_mem_blockNodes children
    exact List.forall_mem_singleton.mpr (blockNormal_branch_of_blocks h)
  | .list _ tight items =>
    have h := blockNormal_of_mem_itemNodes tight items
    exact List.forall_mem_singleton.mpr (blockNormal_branch_of_blocks h)
  | .definition _ => exact List.forall_mem_nil _

theorem blockNormal_of_mem_blockNodes (bs : List (Block Inline)) :
    ∀ c ∈ blockNodes bs, c.BlockNormal := by
  match bs with
  | [] => exact List.forall_mem_nil _
  | b :: bs =>
    rw [blockNodes, List.forall_mem_append]
    exact ⟨blockNormal_of_mem_node? b, blockNormal_of_mem_blockNodes bs⟩

theorem blockNormal_of_mem_itemNodes (tight : Bool) (items : List (List (Block Inline))) :
    ∀ c ∈ itemNodes tight items, c.BlockNormal := by
  match items with
  | [] => exact List.forall_mem_nil _
  | item :: items =>
    rw [itemNodes, List.forall_mem_cons]
    have hitem := blockNormal_of_mem_blockNodes item
    exact ⟨blockNormal_itemNode tight item hitem, blockNormal_of_mem_itemNodes tight items⟩
end

/-- **The tree of a document is in the form**, whatever blocks and spans the document has. -/
theorem textNormal_node (document : Document) : document.node.TextNormal :=
  (blockNormal_branch_of_blocks (blockNormal_of_mem_blockNodes document.blocks)).normal

end Markup

/-! ## 4. Edits

An edit has three ways to touch a text: it changes one that is not empty, puts a new one in front
of something that is no text, or leaves it. -/

section

variable {project : ProjectId} {drawn : List Char → Prop}

theorem HeadingEdited.ne_nil {text out : List Char} (h : HeadingEdited project drawn text out)
    (htext : text ≠ []) : out ≠ [] := by
  cases h with
  | kept => exact htext
  | _ => simp

theorem ItemEdited.ne_nil {checked after : Option Bool} {text out : List Char}
    (h : ItemEdited project drawn checked text after out) (hdrawn : ∀ id, drawn id → id ≠ [])
    (htext : text ≠ []) : out ≠ [] := by
  cases h with
  | kept => exact htext
  | boxed => exact htext
  | replaced _ hid => simp [hdrawn _ hid]
  | inserted => simp

/-- A text stays a text, and no other node becomes one. -/
theorem Node.Edited.textValue?_eq {tree out : Node} (h : tree.Edited project drawn out) :
    out.textValue? = tree.textValue? := by
  cases h <;> rfl

theorem SiblingsEdited.firstText?_eq {cs outs : List Node}
    (h : SiblingsEdited project drawn cs outs) : firstText? outs = firstText? cs := by
  rw [firstText?_eq_bind_head?, firstText?_eq_bind_head?]
  cases h with
  | nil => rfl
  | cons _ hc _ => exact hc.textValue?_eq
  | region => rfl
  | openRegion => rfl

theorem firstText?_eq_none_of_leadingText? {cs : List Node} (h : leadingText? cs = none) :
    firstText? cs = none := by
  unfold leadingText? at h
  split at h
  next => rfl
  next => exact h

theorem textValue?_eq_none_of_isMarker {marker : String} {c : Node}
    (h : isMarker marker c = true) : c.textValue? = none := by
  unfold isMarker at h
  split at h
  next => rfl
  next => cases h

/-- In front of edited siblings a text stands apart if it did in front of those that were there. -/
theorem SiblingsEdited.siblingsNormal_cons_text {cs outs : List Node} {value : String}
    (h : SiblingsEdited project drawn cs outs) (hvalue : value.toList ≠ [])
    (hfirst : firstText? cs = none) (hnormal : SiblingsNormal outs) :
    SiblingsNormal (.text value :: outs) :=
  siblingsNormal_cons_text_iff.mpr
    ⟨String.toList_eq_nil_iff.not.mp hvalue, h.firstText?_eq.trans hfirst, hnormal⟩

mutual
/-- **Edits keep the form**, if no identifier is empty. -/
theorem Node.Edited.textNormal {tree out : Node} (hdrawn : ∀ id, drawn id → id ≠ [])
    (h : tree.Edited project drawn out) (hnormal : tree.TextNormal) : out.TextNormal := by
  -- The recursion is on the edits and not on the tree, since a region is cut out of its siblings.
  match h with
  | .leaf _ => exact hnormal
  | .branch _ hcs | .headingWithoutText _ hcs | .itemWithoutText _ hcs =>
    rw [textNormal_branch_iff] at hnormal ⊢
    exact hcs.siblingsNormal hdrawn hnormal
  | .heading htext hcs =>
    rw [textNormal_branch_iff] at hnormal ⊢
    obtain ⟨hvalue, hfirst, hnormal⟩ := siblingsNormal_cons_text_iff.mp hnormal
    have hvalue := htext.ne_nil (String.toList_eq_nil_iff.not.mpr hvalue)
    exact hcs.siblingsNormal_cons_text hvalue hfirst (hcs.siblingsNormal hdrawn hnormal)
  | .item htext hcs =>
    rw [textNormal_branch_iff] at hnormal ⊢
    obtain ⟨hvalue, hfirst, hnormal⟩ := siblingsNormal_cons_text_iff.mp hnormal
    have hvalue := htext.ne_nil hdrawn (String.toList_eq_nil_iff.not.mpr hvalue)
    exact hcs.siblingsNormal_cons_text hvalue hfirst (hcs.siblingsNormal hdrawn hnormal)
  | .itemParagraph htext hinner hcs =>
    rw [textNormal_branch_iff, siblingsNormal_cons_branch_iff] at hnormal ⊢
    obtain ⟨hinside, hnormal⟩ := hnormal
    obtain ⟨hvalue, hfirst, hinside⟩ := siblingsNormal_cons_text_iff.mp hinside
    have hvalue := htext.ne_nil hdrawn (String.toList_eq_nil_iff.not.mpr hvalue)
    refine ⟨?_, hcs.siblingsNormal hdrawn hnormal⟩
    exact hinner.siblingsNormal_cons_text hvalue hfirst (hinner.siblingsNormal hdrawn hinside)
  | .itemFilled hleading _ _ hcs =>
    rw [textNormal_branch_iff] at hnormal ⊢
    have hfirst := firstText?_eq_none_of_leadingText? hleading
    refine hcs.siblingsNormal_cons_text ?_ hfirst (hcs.siblingsNormal hdrawn hnormal)
    simp
  | .itemParagraphFilled hfirst _ hinner hcs =>
    rw [textNormal_branch_iff, siblingsNormal_cons_branch_iff] at hnormal ⊢
    obtain ⟨hinside, hnormal⟩ := hnormal
    refine ⟨?_, hcs.siblingsNormal hdrawn hnormal⟩
    refine hinner.siblingsNormal_cons_text ?_ hfirst (hinner.siblingsNormal hdrawn hinside)
    simp

theorem SiblingsEdited.siblingsNormal {cs outs : List Node}
    (hdrawn : ∀ id, drawn id → id ≠ []) (h : SiblingsEdited project drawn cs outs)
    (hnormal : SiblingsNormal cs) : SiblingsNormal outs := by
  match h with
  | .nil => exact hnormal
  | .cons _ hc hcs =>
    rw [siblingsNormal_cons_iff] at hnormal ⊢
    obtain ⟨hfirst, hapart, hnormal⟩ := hnormal
    rw [hc.textValue?_eq, hcs.firstText?_eq]
    exact ⟨hc.textNormal hdrawn hfirst, hapart, hcs.siblingsNormal hdrawn hnormal⟩
  | .region hbegin _ hend hcs =>
    have hc := textValue?_eq_none_of_isMarker (isMarker_of_regionBegin? hbegin)
    have he := textValue?_eq_none_of_isMarker hend
    rw [siblingsNormal_cons_iff_of_not_text hc, siblingsNormal_append_cons_iff he] at hnormal
    rw [siblingsNormal_cons_iff_of_not_text hc, siblingsNormal_append_cons_iff rfl]
    obtain ⟨hfirst, hbody, -, hnormal⟩ := hnormal
    exact ⟨hfirst, hbody, by simp, hcs.siblingsNormal hdrawn hnormal⟩
  | .openRegion hbegin _ hcs =>
    have hc := textValue?_eq_none_of_isMarker (isMarker_of_regionBegin? hbegin)
    rw [siblingsNormal_cons_iff_of_not_text hc] at hnormal ⊢
    rw [siblingsNormal_cons_iff_of_not_text rfl]
    exact ⟨hnormal.1, by simp, hcs.siblingsNormal hdrawn hnormal.2⟩
end

/-- **Numbering keeps the form**, whatever the project of the allocator. -/
theorem textNormal_of_number {a b : Allocator} {tree out : Node} (hnormal : tree.TextNormal)
    (h : (tree.number project .kept).run a = .ok (out, b)) : out.TextNormal := by
  refine Node.Edited.textNormal ?_ (edited_of_rebuild h fun _ hid => hid) hnormal
  rintro id ⟨n, -, -, rfl⟩
  simp

end

/-! ## 5. Both

The two halves, for the trees that a run meets: what is read, and what numbering makes of it. -/

/-- **Texts are whole.**  The tree of a document, whatever blocks and spans it has, holds no empty
text and no two texts next to each other; so does what is read from a text.  If a tree holds none,
numbering it for a project, with an allocator of this or of another project, brings none in. -/
theorem textNormal_read_and_number :
    (∀ document : Markup.Document, document.node.TextNormal) ∧
      (∀ text : String, (Node.read text).TextNormal) ∧
      ∀ (project : ProjectId) (a b : Allocator) (tree out : Node), tree.TextNormal →
        (tree.number project .kept).run a = .ok (out, b) → out.TextNormal := by
  refine ⟨Markup.textNormal_node, fun text => Markup.textNormal_node _, ?_⟩
  intro project a b tree out hnormal hnumber
  exact textNormal_of_number hnormal hnumber

theorem textNormal_read_and_number_unnumberedTree :
    (Node.read "- [x] a\n  *b*\n").TextNormal ∧ unnumberedTree.TextNormal ∧
      (unnumberedTree.number .default .kept).run (.startingAt "TODO" 6) =
        .ok (renumberedTree, renumberingAllocator) ∧
      renumberedTree.TextNormal := by
  obtain ⟨-, hread, hnumber⟩ := textNormal_read_and_number
  have hnormal : unnumberedTree.TextNormal := by decide
  have hproject : "TODO" = ProjectId.default.toString := rfl
  have hrun := rebuild_of_numberTree numberTree_unnumberedTree hproject
  exact ⟨hread _, hnormal, hrun, hnumber _ _ _ _ _ hnormal hrun⟩

end TaskNotes
