/-
# What numbering changes

The changes that numbering may make to a tree, written down as a relation between a tree and
another one (`Node.Edited`).  It has a constructor for each of them and none for anything else:

* of a heading the first text changes, and of a list item the leading text and the box
  (`HeadingEdited`, `ItemEdited`);
* a list item with a box and without a leading text gets one;
* a region keeps its begin marker and its body, and its end marker is written anew or added.

Every other node stays with all that it holds.  The relation does not look at how numbering is
done; that numbering makes no other changes is a theorem (`edited_of_numberTree`).

An edit of a text says which identifiers it may bring in: those of which a predicate holds
(`drawn`).  The relation can so be proved along the recursion, where each part of the tree hands
out its own identifiers, and the theorem takes for the predicate what has been handed out in all.

What makes a region awkward is that the siblings behind it are visited while its body is not.  A
relation between siblings one by one could not say this, so a region is one constructor, with its
begin marker, its body and its end marker, and what comes behind it is related on its own.
-/
import TaskNotes.Proofs.Drawing
import TaskNotes.Proofs.ListedTasks

namespace TaskNotes

/-! ## 1. Changes to texts -/

section

variable (project : ProjectId) (drawn : List Char → Prop)

/-- How the text of a heading changes; `drawn` are the identifiers that are handed out. -/
inductive HeadingEdited : List Char → List Char → Prop
  /-- A text that needs no number stays. -/
  | kept {text : List Char} (h : HeadingNumbered project text) : HeadingEdited text text
  /-- A text that starts with an identifier gets a box in front. -/
  | boxed {text : List Char} (h : StartsWithId project text) :
      HeadingEdited text (newBox ++ ' ' :: text)
  /-- A placeholder at the start gives way to an identifier, which gets a box in front. -/
  | replaced {asked rest id : List Char}
      (hasked : placeholder? (some project) (asked ++ rest) = some (asked, rest))
      (hid : drawn id) : HeadingEdited (asked ++ rest) (newBox ++ ' ' :: (id ++ rest))
  /-- A placeholder behind a box and one space gives way to an identifier. -/
  | replacedBehindBox {state : BoxState} {asked rest id : List Char}
      (hasked : placeholder? (some project) (asked ++ rest) = some (asked, rest))
      (hid : drawn id) :
      HeadingEdited (state.marker ++ ' ' :: (asked ++ rest)) (state.marker ++ ' ' :: (id ++ rest))
  /-- Behind a box with nothing behind it an identifier is put. -/
  | appended {state : BoxState} {id : List Char} (hid : drawn id) :
      HeadingEdited state.marker (state.marker ++ ' ' :: id)
  /-- An identifier is put behind a box, in the place of the spaces and tabs there. -/
  | inserted {state : BoxState} {blanks rest id : List Char}
      (hbare : ∀ inner, blanks ++ rest = ' ' :: inner →
        ¬ StartsWithId project inner ∧ placeholder? (some project) inner = none)
      (hne : blanks ++ rest ≠ []) (hblanks : ∀ c ∈ blanks, isSpaceOrTab c = true)
      (hrest : ∀ c, rest.head? = some c → isSpaceOrTab c = false) (hid : drawn id) :
      HeadingEdited (state.marker ++ (blanks ++ rest)) (state.marker ++ ' ' :: (id ++ ' ' :: rest))

/-- How the box and the leading text of a list item change. -/
inductive ItemEdited : Option Bool → List Char → Option Bool → List Char → Prop
  /-- A list item that needs no number stays. -/
  | kept {checked : Option Bool} {text : List Char}
      (h : ItemNumbered project checked (some text)) : ItemEdited checked text checked text
  /-- A list item that starts with an identifier gets an open box. -/
  | boxed {text : List Char} (h : StartsWithId project text) :
      ItemEdited none text (some false) text
  /-- A placeholder at the start gives way to an identifier; without a box, the item gets an open
  one. -/
  | replaced {checked : Option Bool} {asked rest id : List Char}
      (hasked : placeholder? (some project) (asked ++ rest) = some (asked, rest))
      (hid : drawn id) :
      ItemEdited checked (asked ++ rest) (some (checked.getD false)) (id ++ rest)
  /-- An identifier and a space are put in front of the text of an item with a box. -/
  | inserted {box : Bool} {text id : List Char} (hstarts : ¬ StartsWithId project text)
      (hasked : placeholder? (some project) text = none) (hid : drawn id) :
      ItemEdited (some box) text (some box) (id ++ ' ' :: text)

/-! ## 2. Changes to trees -/

mutual
/-- How a tree changes. -/
inductive Node.Edited : Node → Node → Prop
  | leaf (kind : Leaf) : Node.Edited (.leaf kind) (.leaf kind)
  /-- What is neither a heading nor a list item stays, its children aside. -/
  | branch {kind : Branch} {cs outs : List Node} (hkind : kind.isCarrier = false)
      (hcs : SiblingsEdited cs outs) : Node.Edited (.branch kind cs) (.branch kind outs)
  | heading {depth : Depth} {text value : String} {cs outs : List Node}
      (htext : HeadingEdited project drawn text.toList value.toList)
      (hcs : SiblingsEdited cs outs) :
      Node.Edited (.heading depth (.text text :: cs)) (.heading depth (.text value :: outs))
  /-- A heading that begins with no text is no task. -/
  | headingWithoutText {depth : Depth} {cs outs : List Node} (hfirst : firstText? cs = none)
      (hcs : SiblingsEdited cs outs) : Node.Edited (.heading depth cs) (.heading depth outs)
  | item {checked after : Option Bool} {spread : Bool} {text value : String} {cs outs : List Node}
      (htext : ItemEdited project drawn checked text.toList after value.toList)
      (hcs : SiblingsEdited cs outs) :
      Node.Edited (.listItem checked spread (.text text :: cs))
        (.listItem after spread (.text value :: outs))
  /-- The leading text of a list item can stand in a paragraph. -/
  | itemParagraph {checked after : Option Bool} {spread : Bool} {text value : String}
      {inner inners cs outs : List Node}
      (htext : ItemEdited project drawn checked text.toList after value.toList)
      (hinner : SiblingsEdited inner inners) (hcs : SiblingsEdited cs outs) :
      Node.Edited (.listItem checked spread (.paragraph (.text text :: inner) :: cs))
        (.listItem after spread (.paragraph (.text value :: inners) :: outs))
  /-- A list item without box and leading text is no task. -/
  | itemWithoutText {spread : Bool} {cs outs : List Node} (hleading : leadingText? cs = none)
      (hcs : SiblingsEdited cs outs) :
      Node.Edited (.listItem none spread cs) (.listItem none spread outs)
  /-- An identifier and a space are put in front of what a list item with a box holds. -/
  | itemFilled {box spread : Bool} {id : List Char} {cs outs : List Node}
      (hleading : leadingText? cs = none)
      (hparagraph : ∀ inner others, cs ≠ .paragraph inner :: others)
      (hid : drawn id) (hcs : SiblingsEdited cs outs) :
      Node.Edited (.listItem (some box) spread cs)
        (.listItem (some box) spread (.text (String.ofList (id ++ [' '])) :: outs))
  /-- They are put into its first paragraph if it begins with one. -/
  | itemParagraphFilled {box spread : Bool} {id : List Char} {inner inners cs outs : List Node}
      (hfirst : firstText? inner = none) (hid : drawn id) (hinner : SiblingsEdited inner inners)
      (hcs : SiblingsEdited cs outs) :
      Node.Edited (.listItem (some box) spread (.paragraph inner :: cs))
        (.listItem (some box) spread
          (.paragraph (.text (String.ofList (id ++ [' '])) :: inners) :: outs))

/-- How siblings change. -/
inductive SiblingsEdited : List Node → List Node → Prop
  | nil : SiblingsEdited [] []
  | cons {c out : Node} {cs outs : List Node} (hbegin : regionBegin? regionNames c = none)
      (hc : Node.Edited c out) (hcs : SiblingsEdited cs outs) :
      SiblingsEdited (c :: cs) (out :: outs)
  /-- A region stays; its end marker is written anew. -/
  | region {name : String} {c e : Node} {body cs outs : List Node}
      (hbegin : regionBegin? regionNames c = some name)
      (hbody : ∀ d ∈ body, isRegionEnd name d = false) (hend : isRegionEnd name e = true)
      (hcs : SiblingsEdited cs outs) :
      SiblingsEdited (c :: (body ++ e :: cs)) (c :: (body ++ .html (endMarker name) :: outs))
  /-- A region that is not closed has no body; its end marker is added. -/
  | openRegion {name : String} {c : Node} {cs outs : List Node}
      (hbegin : regionBegin? regionNames c = some name)
      (hopen : ∀ d ∈ cs, isRegionEnd name d = false) (hcs : SiblingsEdited cs outs) :
      SiblingsEdited (c :: cs) (c :: .html (endMarker name) :: outs)
end

end

/-! ## 3. Texts

The cases of the two functions that number texts are those of `Proofs/NumberingRules`.  Each is a
constructor above; what has to be found is the part of the text that stays. -/

section

variable {project : ProjectId} {drawn : List Char → Prop} {a b : Allocator}
  {text rest out : List Char} {state : BoxState}

/-- A placeholder is found at the start of a text, so the text is the placeholder and what follows
it. -/
theorem eq_append_of_placeholder? {asked : List Char}
    (h : placeholder? (some project) text = some (asked, rest)) : text = asked ++ rest := by
  rw [placeholder?] at h
  split at h
  next => cases h
  next => cases h
  next letters c others hproject =>
    obtain ⟨rfl, rfl⟩ := projectAndHyphen?_eq_some_iff.mp hproject
    simp only at h
    split at h
    next =>
      obtain ⟨rfl, rfl⟩ := Prod.mk.inj (Option.some.inj h)
      rw [List.append_assoc, List.cons_append, List.takeWhile_append_dropWhile]
    next => cases h

/-- Behind a bare box an identifier is put, with a space on either side where something follows. -/
theorem headingEdited_of_bare {id : List Char} (hbare : BareBehindBox project rest)
    (hid : drawn id) :
    HeadingEdited project drawn (state.marker ++ rest)
      (state.marker ++ ' ' :: (id ++ behindNewId rest)) := by
  cases rest with
  | nil =>
    rw [behindNewId, List.isEmpty_nil, if_pos rfl, List.append_nil, List.append_nil]
    exact .appended hid
  | cons c rest =>
    have hsplit := List.takeWhile_append_dropWhile (p := isSpaceOrTab) (l := c :: rest)
    rw [behindNewId, List.isEmpty_cons, if_neg Bool.false_ne_true]
    have hedited : HeadingEdited project drawn
        (state.marker ++ ((c :: rest).takeWhile isSpaceOrTab ++ (c :: rest).dropWhile isSpaceOrTab))
        (state.marker ++ ' ' :: (id ++ ' ' :: (c :: rest).dropWhile isSpaceOrTab)) := by
      refine .inserted ?_ ?_ (fun _ => List.mem_takeWhile_imp)
        (fun _ => eq_false_of_head?_dropWhile) hid
      · rwa [hsplit]
      · rw [hsplit]
        exact List.cons_ne_nil c rest
    rwa [hsplit] at hedited

/-- **The text of a heading is edited.** -/
theorem headingEdited_of_run (h : (numberHeadingText project text).run a = .ok (out, b))
    (hdrawn : ∀ id, nextId.run a = .ok (id, b) → drawn id) :
    HeadingEdited project drawn text out := by
  have hrule := headingRule project text
  generalize numberHeadingText project text = x at h hrule
  cases hrule with
  | kept hid =>
    cases numbering_pure_eq_ok_iff.mp h
    exact .kept (.inl (startsWithBoxAndId_marker hid _))
  | replacedBehindBox _ hasked =>
    obtain ⟨⟨id, _⟩, hid, h⟩ := numbering_bind_eq_ok_iff.mp h
    cases numbering_pure_eq_ok_iff.mp h
    obtain rfl := eq_append_of_placeholder? hasked
    rw [List.append_assoc, List.cons_append]
    exact .replacedBehindBox hasked (hdrawn id hid)
  | inserted hbare =>
    obtain ⟨⟨id, _⟩, hid, h⟩ := numbering_bind_eq_ok_iff.mp h
    cases numbering_pure_eq_ok_iff.mp h
    rw [List.append_assoc, List.cons_append]
    exact headingEdited_of_bare hbare (hdrawn id hid)
  | boxed _ hid =>
    cases numbering_pure_eq_ok_iff.mp h
    exact .boxed hid
  | replaced _ _ hasked =>
    obtain ⟨⟨id, _⟩, hid, h⟩ := numbering_bind_eq_ok_iff.mp h
    cases numbering_pure_eq_ok_iff.mp h
    obtain rfl := eq_append_of_placeholder? hasked
    rw [List.append_assoc, List.cons_append]
    exact .replaced hasked (hdrawn id hid)
  | other hbox hid hasked =>
    cases numbering_pure_eq_ok_iff.mp h
    exact .kept (.inr ⟨hbox, hid, hasked⟩)

/-- **The box and the text of a list item are edited.** -/
theorem itemEdited_of_run {checked after : Option Bool}
    (h : (numberItemText project checked text).run a = .ok ((after, out), b))
    (hdrawn : ∀ id, nextId.run a = .ok (id, b) → drawn id) :
    ItemEdited project drawn checked text after out := by
  have hrule := itemRule project checked text
  generalize numberItemText project checked text = x at h hrule
  cases hrule with
  | boxed hid =>
    cases numbering_pure_eq_ok_iff.mp h
    cases checked with
    | none => exact .boxed hid
    | some box => exact .kept hid
  | replaced _ hasked =>
    obtain ⟨⟨id, _⟩, hid, h⟩ := numbering_bind_eq_ok_iff.mp h
    cases numbering_pure_eq_ok_iff.mp h
    obtain rfl := eq_append_of_placeholder? hasked
    exact .replaced hasked (hdrawn id hid)
  | inserted hstarts hasked =>
    obtain ⟨⟨id, _⟩, hid, h⟩ := numbering_bind_eq_ok_iff.mp h
    cases numbering_pure_eq_ok_iff.mp h
    exact .inserted hstarts hasked (hdrawn id hid)
  | other hstarts hasked =>
    cases numbering_pure_eq_ok_iff.mp h
    exact .kept ⟨hstarts, hasked⟩

end

/-! ## 4. One branch

The leading text of a branch can be inside of a paragraph, and it is changed only after the
children have been edited.  So one has to know of edited siblings that what comes first in them is
what came first before. -/

section

variable {project : ProjectId} {drawn : List Char → Prop} {cs outs : List Node}

/-- The first of siblings changes on its own if it begins no region. -/
theorem SiblingsEdited.exists_cons {c : Node} (h : SiblingsEdited project drawn (c :: cs) outs)
    (hbegin : regionBegin? regionNames c = none) :
    ∃ out others, outs = out :: others ∧ c.Edited project drawn out ∧
      SiblingsEdited project drawn cs others := by
  cases h with
  | cons _ hc hcs => exact ⟨_, _, rfl, hc, hcs⟩
  | region hname =>
    rw [hbegin] at hname
    cases hname
  | openRegion hname =>
    rw [hbegin] at hname
    cases hname

/-- A text among siblings stays. -/
theorem SiblingsEdited.exists_cons_text {value : String}
    (h : SiblingsEdited project drawn (.text value :: cs) outs) :
    ∃ others, outs = .text value :: others ∧ SiblingsEdited project drawn cs others := by
  obtain ⟨out, others, rfl, hout, hothers⟩ := h.exists_cons (regionBegin?_text _ _)
  cases hout
  exact ⟨others, rfl, hothers⟩

/-- A paragraph among siblings stays, what it holds aside. -/
theorem SiblingsEdited.exists_cons_paragraph {inner : List Node}
    (h : SiblingsEdited project drawn (.paragraph inner :: cs) outs) :
    ∃ inners others, outs = .paragraph inners :: others ∧
      SiblingsEdited project drawn inner inners ∧ SiblingsEdited project drawn cs others := by
  obtain ⟨out, others, rfl, hout, hothers⟩ := h.exists_cons (regionBegin?_branch _ _ _)
  cases hout with
  | branch _ hinner => exact ⟨_, others, rfl, hinner, hothers⟩

/-- No paragraph comes up in front. -/
theorem SiblingsEdited.exists_eq_cons_paragraph {inners others : List Node}
    (h : SiblingsEdited project drawn cs (.paragraph inners :: others)) :
    ∃ inner rest, cs = .paragraph inner :: rest := by
  cases h with
  | cons _ hc _ =>
    cases hc with
    | branch _ _ => exact ⟨_, _, rfl⟩
  | region hbegin =>
    rw [regionBegin?_branch] at hbegin
    cases hbegin
  | openRegion hbegin =>
    rw [regionBegin?_branch] at hbegin
    cases hbegin

/-- What is put in front of siblings that begin with no paragraph is a node of its own. -/
theorem SiblingsEdited.insertLeadingText (h : SiblingsEdited project drawn cs outs)
    (hparagraph : ∀ inner others, cs ≠ .paragraph inner :: others) (value : List Char) :
    insertLeadingText value outs = .text (String.ofList value) :: outs := by
  unfold TaskNotes.insertLeadingText
  split
  next inners others =>
    obtain ⟨inner, rest, rfl⟩ := h.exists_eq_cons_paragraph
    exact absurd rfl (hparagraph inner rest)
  next => rfl

/-- **A branch is edited**, once its children are. -/
theorem edited_of_numberTask {a b : Allocator} {kind after : Branch}
    {finish : List Node → List Node}
    (hvisit : (numberTask project kind cs).run a = .ok ((after, finish), b))
    (hdrawn : ∀ id, nextId.run a = .ok (id, b) → drawn id)
    (hcs : SiblingsEdited project drawn cs outs) :
    Node.Edited project drawn (.branch kind cs) (.branch after (finish outs)) := by
  have hrule := taskRule project kind cs
  generalize numberTask project kind cs = x at hvisit hrule
  cases hrule with
  | other hkind =>
    cases numbering_pure_eq_ok_iff.mp hvisit
    exact .branch hkind hcs
  | heading htext =>
    obtain ⟨⟨value, _⟩, hvalue, hvisit⟩ := numbering_bind_eq_ok_iff.mp hvisit
    cases numbering_pure_eq_ok_iff.mp hvisit
    obtain ⟨rest, rfl⟩ := exists_cons_of_firstText? htext
    obtain ⟨others, rfl, hothers⟩ := hcs.exists_cons_text
    refine .heading ?_ hothers
    rw [String.toList_ofList]
    exact headingEdited_of_run hvalue hdrawn
  | headingWithoutText htext =>
    cases numbering_pure_eq_ok_iff.mp hvisit
    exact .headingWithoutText htext hcs
  | item htext =>
    obtain ⟨⟨⟨box, value⟩, _⟩, hvalue, hvisit⟩ := numbering_bind_eq_ok_iff.mp hvisit
    cases numbering_pure_eq_ok_iff.mp hvisit
    have hedited := itemEdited_of_run hvalue hdrawn
    rw [← String.toList_ofList (l := value)] at hedited
    rcases exists_cons_of_leadingText? htext with ⟨rest, rfl⟩ | ⟨inner, rest, rfl⟩
    · obtain ⟨others, rfl, hothers⟩ := hcs.exists_cons_text
      exact .item hedited hothers
    · obtain ⟨_, others, rfl, hinner, hothers⟩ := hcs.exists_cons_paragraph
      obtain ⟨inners, rfl, hinners⟩ := hinner.exists_cons_text
      exact .itemParagraph hedited hinners hothers
  | itemFilled htext =>
    obtain ⟨⟨id, _⟩, hid, hvisit⟩ := numbering_bind_eq_ok_iff.mp hvisit
    cases numbering_pure_eq_ok_iff.mp hvisit
    by_cases hparagraph : ∃ inner others, cs = .paragraph inner :: others
    · obtain ⟨inner, others, rfl⟩ := hparagraph
      obtain ⟨inners, others, rfl, hinner, hothers⟩ := hcs.exists_cons_paragraph
      exact .itemParagraphFilled htext (hdrawn id hid) hinner hothers
    · have hparagraph : ∀ inner others, cs ≠ .paragraph inner :: others :=
        fun inner others heq => hparagraph ⟨inner, others, heq⟩
      rw [hcs.insertLeadingText hparagraph]
      exact .itemFilled htext hparagraph (hdrawn id hid) hcs
  | itemWithoutText htext =>
    cases numbering_pure_eq_ok_iff.mp hvisit
    exact .itemWithoutText htext hcs

end

/-! ## 5. Trees -/

section

variable {project : ProjectId} {drawn : List Char → Prop}

mutual
/-- **A tree is edited** when it is numbered. -/
theorem edited_of_rebuild {tree out : Node} {a b : Allocator}
    (h : (tree.rebuild .kept (numberTask project)).run a = .ok (out, b))
    (hdrawn : ∀ id, a.HandsOut b id → drawn id) : tree.Edited project drawn out := by
  match tree with
  | .leaf kind =>
    cases numbering_pure_eq_ok_iff.mp h
    exact .leaf kind
  | .branch kind cs =>
    obtain ⟨_, _, between, hvisit, _, _, hcs, hout⟩ := rebuild_branch_eq_ok_iff.mp h
    obtain ⟨rfl, rfl⟩ := Prod.mk.inj hout
    have hfirst := onlyDraws_numberTask _ _ _ _ _ _ hvisit
    have hothers := onlyDraws_rebuildAll (onlyDraws_numberTask project) _ _ _ _ _ hcs
    refine edited_of_numberTask hvisit (fun id hid => ?_) (siblingsEdited_of_rebuildAll hcs ?_)
    · exact hdrawn id ((handsOut_of_nextId hid).goesOn hothers)
    · exact fun id hid => hdrawn id (hfirst.handsOut hid)

/-- So are siblings. -/
theorem siblingsEdited_of_rebuildAll {cs outs : List Node} {a b : Allocator}
    (h : (rebuildAll .kept (numberTask project) none cs).run a = .ok (outs, b))
    (hdrawn : ∀ id, a.HandsOut b id → drawn id) : SiblingsEdited project drawn cs outs := by
  match cs with
  | [] =>
    cases numbering_pure_eq_ok_iff.mp h
    exact .nil
  | c :: cs =>
    rcases rebuildAll_cons_eq_ok h with
      ⟨hbegin, first, between, others, hfirst, hothers, rfl⟩ | ⟨name, rest, hbegin, hrest, rfl⟩
    · have hdraws := onlyDraws_rebuild (onlyDraws_numberTask project) _ _ _ _ hfirst
      have hdraws' := onlyDraws_rebuildAll (onlyDraws_numberTask project) _ _ _ _ _ hothers
      refine .cons hbegin (edited_of_rebuild hfirst ?_) (siblingsEdited_of_rebuildAll hothers ?_)
      · exact fun id hid => hdrawn id (hid.goesOn hdraws')
      · exact fun id hid => hdrawn id (hdraws.handsOut hid)
    · by_cases hany : cs.any (isRegionEnd name) = true
      · rw [regionPassed, if_pos hany] at hrest
        obtain ⟨body, e, behind, hcs, hbody, hend, hbehind⟩ :=
          siblingsEdited_behind_region hany hrest hdrawn
        rw [hcs, regionBody_append_cons hbody hend]
        exact .region hbegin hbody hend hbehind
      · rw [regionPassed, if_neg hany] at hrest
        rw [regionBody, if_neg hany]
        refine .openRegion hbegin (fun d hd => ?_) (siblingsEdited_of_rebuildAll hrest hdrawn)
        rw [List.any_eq_true] at hany
        exact Bool.eq_false_iff.mpr fun hend => hany ⟨d, hd, hend⟩

/-- So is what stands behind the body of a region. -/
theorem siblingsEdited_behind_region {cs outs : List Node} {name : String} {a b : Allocator}
    (hany : cs.any (isRegionEnd name) = true)
    (h : (rebuildAll .kept (numberTask project) (some name) cs).run a = .ok (outs, b))
    (hdrawn : ∀ id, a.HandsOut b id → drawn id) :
    ∃ body e behind, cs = body ++ e :: behind ∧ (∀ d ∈ body, isRegionEnd name d = false) ∧
      isRegionEnd name e = true ∧ SiblingsEdited project drawn behind outs := by
  match cs with
  | [] => cases hany
  | c :: cs =>
    rw [rebuildAll_skip] at h
    by_cases hend : isRegionEnd name c = true
    · rw [if_pos hend] at h
      exact ⟨[], c, cs, rfl, List.forall_mem_nil _, hend, siblingsEdited_of_rebuildAll h hdrawn⟩
    · rw [if_neg hend] at h
      rw [Bool.not_eq_true] at hend
      rw [List.any_cons, hend, Bool.false_or] at hany
      obtain ⟨body, e, behind, rfl, hbody, he, hbehind⟩ :=
        siblingsEdited_behind_region hany h hdrawn
      refine ⟨c :: body, e, behind, rfl, ?_, he, hbehind⟩
      exact List.forall_mem_cons.mpr ⟨hend, hbody⟩
end

end

/-- **Numbering edits nothing but tasks and end markers.**  What numbering makes of a tree, with
whatever allocator of the project, is the tree with edits, and the identifiers in the edits are
those that have been handed out meanwhile. -/
theorem edited_of_numberTree {project : ProjectId} {tree out : Node} {a b : Allocator}
    (hproject : a.project = project.toString) (h : numberTree .kept a tree = .ok (out, b)) :
    tree.Edited project (a.HandsOut b) out :=
  edited_of_rebuild (rebuild_of_numberTree h hproject) fun _ hid => hid

theorem edited_of_numberTree_unnumberedTree :
    "TODO" = ProjectId.default.toString ∧
      numberTree .kept (.startingAt "TODO" 6) unnumberedTree =
        .ok (renumberedTree, renumberingAllocator) ∧
      unnumberedTree.Edited .default
        (Allocator.HandsOut (.startingAt "TODO" 6) renumberingAllocator) renumberedTree := by
  have hproject : "TODO" = ProjectId.default.toString := rfl
  exact ⟨hproject, numberTree_unnumberedTree,
    edited_of_numberTree hproject numberTree_unnumberedTree⟩

end TaskNotes
