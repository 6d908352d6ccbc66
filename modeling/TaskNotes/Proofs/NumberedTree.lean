/-
# Numbering is idempotent

A tree is numbered when every heading and list item outside of region bodies needs no number and
every region is closed by its end marker (`Node.Numbered`).  This is the normal form of numbering:

* what numbering makes of a tree is numbered (`numbered_of_rebuild`);
* a numbered tree stays as it is, and no number is drawn for it (`rebuild_of_numbered`).

Both follow the traversal.  The siblings of a region body are passed over by it, so the statement
about siblings is made for each of its two modes, outside of regions and inside of one.

A numbered tree can be numbered again with any allocator of the project, and not only with the one
that is left: nothing is drawn, so the numbers of the allocator do not matter.

That regions are closed belongs to the normal form because the traversal closes them.  It puts the
end marker behind a body that has none, and writes the marker in one spelling; the second time it
finds what it would put there.
-/
import TaskNotes.Proofs.NumberedText
import TaskNotes.Proofs.Siblings

namespace TaskNotes

/-! ## 1. Numbered trees -/

/-- Whether a branch with its children needs no number. -/
def BranchNumbered (project : ProjectId) (kind : Branch) (cs : List Node) : Prop :=
  match kind with
  | .heading _ => ∀ text, firstText? cs = some text → HeadingNumbered project text.toList
  | .listItem checked _ => ItemNumbered project checked ((leadingText? cs).map String.toList)
  | _ => True

mutual
/-- Whether nothing in a tree needs a number and all its regions are closed. -/
def Node.Numbered (project : ProjectId) : Node → Prop
  | .leaf _ => True
  | .branch kind cs => BranchNumbered project kind cs ∧ SiblingsNumbered project none cs

/-- Whether nothing among siblings needs a number and their regions are closed; `skipping` is the
region whose body they begin with. -/
def SiblingsNumbered (project : ProjectId) (skipping : Option String) : List Node → Prop
  | [] => skipping = none
  | c :: cs =>
    match skipping with
    | some name =>
      -- a region ends with its marker in the spelling in which it is written
      if isRegionEnd name c then c = .html (endMarker name) ∧ SiblingsNumbered project none cs
      else SiblingsNumbered project (some name) cs
    | none =>
      match regionBegin? regionNames c with
      | none => c.Numbered project ∧ SiblingsNumbered project none cs
      | some name => SiblingsNumbered project (some name) cs
end

section

variable {project : ProjectId} {cs : List Node}

theorem siblingsNumbered_cons_text (value : String) :
    SiblingsNumbered project none (.text value :: cs) ↔ SiblingsNumbered project none cs := by
  simp [SiblingsNumbered, Node.Numbered]

theorem siblingsNumbered_cons_paragraph (inner : List Node) :
    SiblingsNumbered project none (.paragraph inner :: cs) ↔
      SiblingsNumbered project none inner ∧ SiblingsNumbered project none cs := by
  simp [SiblingsNumbered, Node.Numbered, BranchNumbered]

/-- A region is closed by its end marker, whatever its body is. -/
theorem siblingsNumbered_close {name : String} (hname : name ∈ regionNames) {rest : List Node}
    (hrest : SiblingsNumbered project none rest) :
    ∀ body : List Node, (∀ c ∈ body, isRegionEnd name c = false) →
      SiblingsNumbered project (some name) (Regions.kept.close name body rest)
  | [], _ => by
    simp only [Regions.close, Regions.kept, List.nil_append, SiblingsNumbered,
      isRegionEnd_endMarker hname, if_true]
    exact ⟨trivial, hrest⟩
  | c :: body, h => by
    have hc : isRegionEnd name c = false := h c List.mem_cons_self
    have ih := siblingsNumbered_close hname hrest body fun d hd => h d (List.mem_cons_of_mem _ hd)
    simp only [Regions.close, Regions.kept, List.cons_append, SiblingsNumbered, hc]
    exact ih

end

/-! ## 2. Texts at the start of children

Numbering changes one text at the start of the children of a branch or puts one there.  Neither
makes or takes away a region, and the children stay numbered. -/

theorem exists_cons_of_firstText? {cs : List Node} {text : String}
    (h : firstText? cs = some text) : ∃ others, cs = .text text :: others := by
  unfold firstText? at h
  split at h
  next value others =>
    obtain rfl := Option.some.inj h
    exact ⟨others, rfl⟩
  next => cases h

theorem exists_cons_of_leadingText? {cs : List Node} {text : String}
    (h : leadingText? cs = some text) :
    (∃ others, cs = .text text :: others) ∨
      ∃ inner others, cs = .paragraph (.text text :: inner) :: others := by
  unfold leadingText? at h
  split at h
  next inner others =>
    obtain ⟨rest, rfl⟩ := exists_cons_of_firstText? h
    exact .inr ⟨rest, others, rfl⟩
  next => exact .inl (exists_cons_of_firstText? h)

section

variable {project : ProjectId} {cs : List Node} {text : String}

theorem firstText?_replaceFirstText (h : firstText? cs = some text) (value : List Char) :
    firstText? (replaceFirstText value cs) = some (String.ofList value) := by
  obtain ⟨others, rfl⟩ := exists_cons_of_firstText? h
  rfl

theorem siblingsNumbered_replaceFirstText (h : firstText? cs = some text)
    (hcs : SiblingsNumbered project none cs) (value : List Char) :
    SiblingsNumbered project none (replaceFirstText value cs) := by
  obtain ⟨others, rfl⟩ := exists_cons_of_firstText? h
  rw [siblingsNumbered_cons_text] at hcs
  exact (siblingsNumbered_cons_text _).mpr hcs

theorem leadingText?_replaceLeadingText (h : leadingText? cs = some text) (value : List Char) :
    leadingText? (replaceLeadingText value cs) = some (String.ofList value) := by
  rcases exists_cons_of_leadingText? h with ⟨others, rfl⟩ | ⟨inner, others, rfl⟩
  · rfl
  · rfl

theorem siblingsNumbered_replaceLeadingText (h : leadingText? cs = some text)
    (hcs : SiblingsNumbered project none cs) (value : List Char) :
    SiblingsNumbered project none (replaceLeadingText value cs) := by
  rcases exists_cons_of_leadingText? h with ⟨others, rfl⟩ | ⟨inner, others, rfl⟩
  · rw [siblingsNumbered_cons_text] at hcs
    exact (siblingsNumbered_cons_text _).mpr hcs
  · rw [siblingsNumbered_cons_paragraph, siblingsNumbered_cons_text] at hcs
    exact (siblingsNumbered_cons_paragraph _).mpr
      ⟨(siblingsNumbered_cons_text _).mpr hcs.1, hcs.2⟩

/-- A text that is the leading one already leaves everything as it is. -/
theorem replaceLeadingText_of_leadingText? (h : leadingText? cs = some text) :
    replaceLeadingText text.toList cs = cs := by
  rcases exists_cons_of_leadingText? h with ⟨others, rfl⟩ | ⟨inner, others, rfl⟩
  · change Node.text (String.ofList text.toList) :: others = _
    rw [String.ofList_toList]
  · rw [replaceLeadingText, replaceFirstText, String.ofList_toList]

/-- What a text is put in front of begins with it. -/
theorem leadingText?_insertLeadingText (value : List Char) (cs : List Node) :
    leadingText? (insertLeadingText value cs) = some (String.ofList value) := by
  unfold insertLeadingText
  split
  · rfl
  · rfl

theorem siblingsNumbered_insertLeadingText (hcs : SiblingsNumbered project none cs)
    (value : List Char) : SiblingsNumbered project none (insertLeadingText value cs) := by
  unfold insertLeadingText
  split
  next inner others =>
    rw [siblingsNumbered_cons_paragraph] at hcs ⊢
    rw [siblingsNumbered_cons_text]
    exact hcs
  next => exact (siblingsNumbered_cons_text _).mpr hcs

end

/-! ## 3. One branch

Whether a branch needs a number is decided by the text its children begin with.  The children are
numbered before the new text is put in, so the statement is about children that begin with the same
text as before. -/

section

variable {project : ProjectId} {a b : Allocator} {kind after : Branch} {cs out : List Node}
  {finish : List Node → List Node}

/-- **What is made of a branch needs no number**, whatever its children have become, as long as
they begin with the same text and are numbered. -/
theorem branchNumbered_of_numberTask
    (h : (numberTask project kind cs).run a = .ok ((after, finish), b))
    (hproject : a.project = project.toString) :
    b.project = a.project ∧ ∀ out, firstText? out = firstText? cs →
      leadingText? out = leadingText? cs → SiblingsNumbered project none out →
        BranchNumbered project after (finish out) ∧ SiblingsNumbered project none (finish out) := by
  have hrule := taskRule project kind cs
  generalize numberTask project kind cs = x at h hrule
  cases hrule with
  | other hkind =>
    cases numbering_pure_eq_ok_iff.mp h
    refine ⟨rfl, fun out _ _ hout => ⟨?_, hout⟩⟩
    cases kind with
    | heading depth => cases hkind
    | listItem checked spread => cases hkind
    | _ => trivial
  | heading htext =>
    obtain ⟨⟨value, _⟩, hvalue, h⟩ := numbering_bind_eq_ok_iff.mp h
    cases numbering_pure_eq_ok_iff.mp h
    obtain ⟨hnumbered, hkept⟩ := headingNumbered_of_run hvalue hproject
    refine ⟨hkept, fun out hfirst _ hout => ?_⟩
    have hfirst := hfirst.trans htext
    refine ⟨?_, siblingsNumbered_replaceFirstText hfirst hout value⟩
    intro after hafter
    rw [firstText?_replaceFirstText hfirst] at hafter
    rw [← Option.some.inj hafter, String.toList_ofList]
    exact hnumbered
  | headingWithoutText htext =>
    cases numbering_pure_eq_ok_iff.mp h
    refine ⟨rfl, fun out hfirst _ hout => ⟨?_, hout⟩⟩
    intro text htext'
    rw [id, hfirst, htext] at htext'
    cases htext'
  | item htext =>
    obtain ⟨⟨⟨box, value⟩, _⟩, hvalue, h⟩ := numbering_bind_eq_ok_iff.mp h
    cases numbering_pure_eq_ok_iff.mp h
    obtain ⟨hnumbered, hkept⟩ := itemNumbered_of_run hvalue hproject
    refine ⟨hkept, fun out _ hleading hout => ?_⟩
    have hleading := hleading.trans htext
    refine ⟨?_, siblingsNumbered_replaceLeadingText hleading hout value⟩
    rw [BranchNumbered, leadingText?_replaceLeadingText hleading, Option.map_some,
      String.toList_ofList]
    exact hnumbered
  | itemFilled htext =>
    obtain ⟨⟨id, _⟩, hid, h⟩ := numbering_bind_eq_ok_iff.mp h
    cases numbering_pure_eq_ok_iff.mp h
    obtain ⟨hkept, hstarts⟩ := startsWithId_of_nextId hid hproject
    refine ⟨hkept, fun out _ _ hout => ⟨?_, siblingsNumbered_insertLeadingText hout _⟩⟩
    rw [BranchNumbered, leadingText?_insertLeadingText, Option.map_some, String.toList_ofList]
    exact hstarts [' ']
  | itemWithoutText htext =>
    cases numbering_pure_eq_ok_iff.mp h
    refine ⟨rfl, fun out _ hleading hout => ⟨?_, hout⟩⟩
    rw [BranchNumbered, id, hleading, htext]
    trivial

/-- **A branch that needs no number stays**, and none is drawn for it. -/
theorem numberTask_of_branchNumbered (h : BranchNumbered project kind cs) (a : Allocator) :
    ∃ finish, (numberTask project kind cs).run a = .ok ((kind, finish), a) ∧ finish cs = cs := by
  unfold numberTask
  split
  next depth =>
    split
    next text htext =>
      obtain ⟨others, rfl⟩ := exists_cons_of_firstText? htext
      refine ⟨_, numbering_bind_eq_ok_iff.mpr
        ⟨_, numberHeadingText_of_numbered (h text rfl) a, rfl⟩, ?_⟩
      rw [replaceFirstText, String.ofList_toList]
    next htext => exact ⟨id, rfl, rfl⟩
  next checked spread =>
    split
    next text htext =>
      rw [BranchNumbered, htext] at h
      exact ⟨_, numbering_bind_eq_ok_iff.mpr ⟨_, numberItemText_of_numbered h a, rfl⟩,
        replaceLeadingText_of_leadingText? htext⟩
    next htext =>
      rw [BranchNumbered, htext] at h
      cases checked with
      | none => exact ⟨id, rfl, rfl⟩
      | some box => cases h
  next => exact ⟨id, rfl, rfl⟩

end

/-! ## 4. Children that have been rebuilt

That they do begin with the same text is seen from the first child: a text stays, and a paragraph
stays a paragraph. -/

section

variable {project : ProjectId} {a b : Allocator} {regions : Regions} {cs outs : List Node}

/-- Numbering changes no kind, except that a list item can get a box. -/
theorem kind_of_numberTask {kind after : Branch} {finish : List Node → List Node}
    (h : (numberTask project kind cs).run a = .ok ((after, finish), b)) :
    (after = kind ∧ (kind = .paragraph → finish = id)) ∨
      ∃ checked box spread, kind = .listItem checked spread ∧ after = .listItem box spread := by
  have hrule := taskRule project kind cs
  generalize numberTask project kind cs = x at h hrule
  cases hrule with
  | other _ =>
    cases numbering_pure_eq_ok_iff.mp h
    exact .inl ⟨rfl, fun _ => rfl⟩
  | heading _ =>
    obtain ⟨_, -, h⟩ := numbering_bind_eq_ok_iff.mp h
    cases numbering_pure_eq_ok_iff.mp h
    exact .inl ⟨rfl, nofun⟩
  | headingWithoutText _ =>
    cases numbering_pure_eq_ok_iff.mp h
    exact .inl ⟨rfl, nofun⟩
  | item _ =>
    obtain ⟨⟨⟨_, _⟩, _⟩, -, h⟩ := numbering_bind_eq_ok_iff.mp h
    cases numbering_pure_eq_ok_iff.mp h
    exact .inr ⟨_, _, _, rfl, rfl⟩
  | itemFilled _ =>
    obtain ⟨_, -, h⟩ := numbering_bind_eq_ok_iff.mp h
    cases numbering_pure_eq_ok_iff.mp h
    exact .inl ⟨rfl, nofun⟩
  | itemWithoutText _ =>
    cases numbering_pure_eq_ok_iff.mp h
    exact .inl ⟨rfl, nofun⟩

theorem leadingText?_cons_branch (kind : Branch) (inner others : List Node) :
    leadingText? (.branch kind inner :: others) =
      if kind = .paragraph then firstText? inner else none := by
  cases kind <;> rfl

/-- Numbered siblings begin with the leading text that they began with. -/
theorem leadingText?_of_rebuildAll
    (h : (rebuildAll regions (numberTask project) none cs).run a = .ok (outs, b)) :
    leadingText? outs = leadingText? cs := by
  cases cs with
  | nil =>
    obtain ⟨rfl, rfl⟩ := Prod.mk.inj (numbering_pure_eq_ok_iff.mp h)
    rfl
  | cons c cs =>
    rcases rebuildAll_cons_eq_ok h with ⟨-, first, _, others, hfirst, -, rfl⟩ | ⟨_, _, -, -, rfl⟩
    · cases c with
      | branch kind inner =>
        obtain ⟨after, finish, _, hvisit, rebuilt, _, hrebuilt, h⟩ :=
          rebuild_branch_eq_ok_iff.mp hfirst
        obtain ⟨rfl, rfl⟩ := Prod.mk.inj h
        rw [leadingText?_cons_branch, leadingText?_cons_branch]
        rcases kind_of_numberTask hvisit with ⟨rfl, hfinish⟩ | ⟨_, _, _, rfl, rfl⟩
        · by_cases hparagraph : after = .paragraph
          · rw [if_pos hparagraph, if_pos hparagraph, hfinish hparagraph, id,
              firstText?_of_rebuildAll hrebuilt]
          · rw [if_neg hparagraph, if_neg hparagraph]
        · rfl
      | leaf kind =>
        obtain ⟨rfl, rfl⟩ := Prod.mk.inj (numbering_pure_eq_ok_iff.mp hfirst)
        cases kind <;> rfl
    · cases c with
      | branch kind inner => rw [leadingText?_cons_branch, leadingText?_cons_branch]
      | leaf kind => cases kind <;> rfl

end

/-! ## 5. The normal form

Both theorems are by recursion on the tree, with siblings on the side: a lemma for trees and one
for siblings, proved together. -/

section

variable {project : ProjectId}

mutual
/-- **What numbering makes of a tree is numbered.** -/
theorem numbered_of_rebuild {tree out : Node} {a b : Allocator}
    (h : (tree.rebuild .kept (numberTask project)).run a = .ok (out, b))
    (hproject : a.project = project.toString) :
    out.Numbered project ∧ b.project = a.project := by
  match tree with
  | .leaf kind =>
    cases numbering_pure_eq_ok_iff.mp h
    exact ⟨trivial, rfl⟩
  | .branch kind cs =>
    obtain ⟨after, finish, between, hvisit, rebuilt, _, hrebuilt, h⟩ :=
      rebuild_branch_eq_ok_iff.mp h
    cases h
    obtain ⟨hbetween, hbranch⟩ := branchNumbered_of_numberTask hvisit hproject
    obtain ⟨hsiblings, hlast⟩ :=
      siblingsNumbered_of_rebuildAll hrebuilt (hbetween.trans hproject)
    refine ⟨?_, hlast.trans hbetween⟩
    rw [Node.Numbered]
    exact hbranch rebuilt (firstText?_of_rebuildAll hrebuilt)
      (leadingText?_of_rebuildAll hrebuilt) hsiblings

/-- Siblings that have been numbered are numbered, behind the body of a region and elsewhere. -/
theorem siblingsNumbered_of_rebuildAll {skipping : Option String} {cs outs : List Node}
    {a b : Allocator}
    (h : (rebuildAll .kept (numberTask project) skipping cs).run a = .ok (outs, b))
    (hproject : a.project = project.toString) :
    SiblingsNumbered project none outs ∧ b.project = a.project := by
  match cs, skipping with
  | [], _ =>
    cases numbering_pure_eq_ok_iff.mp h
    exact ⟨rfl, rfl⟩
  | c :: cs, some name =>
    -- inside of a body nothing is built: it has been closed where the region began
    rw [rebuildAll_skip] at h
    exact siblingsNumbered_of_rebuildAll h hproject
  | c :: cs, none =>
    rcases rebuildAll_cons_eq_ok h with
      ⟨hbegin, first, between, others, hfirst, hothers, rfl⟩ | ⟨name, rest, hbegin, hrest, rfl⟩
    · obtain ⟨hnumbered, hbetween⟩ := numbered_of_rebuild hfirst hproject
      obtain ⟨hsiblings, hlast⟩ :=
        siblingsNumbered_of_rebuildAll hothers (hbetween.trans hproject)
      refine ⟨?_, hlast.trans hbetween⟩
      have hbegin : regionBegin? regionNames first = none := regionBegin?_of_rebuild hbegin hfirst
      simp only [SiblingsNumbered, hbegin]
      exact ⟨hnumbered, hsiblings⟩
    · obtain ⟨hsiblings, hlast⟩ := siblingsNumbered_of_rebuildAll hrest hproject
      refine ⟨?_, hlast⟩
      rw [SiblingsNumbered, show regionBegin? regionNames c = some name from hbegin]
      exact siblingsNumbered_close (mem_of_regionBegin? hbegin) hsiblings _
        fun _ => isRegionEnd_eq_false_of_mem_regionBody
end

mutual
/-- **A numbered tree stays as it is**, and no number is drawn for it. -/
theorem rebuild_of_numbered {tree : Node} (h : tree.Numbered project) (a : Allocator) :
    (tree.rebuild .kept (numberTask project)).run a = .ok (tree, a) := by
  match tree with
  | .leaf kind => rfl
  | .branch kind cs =>
    rw [Node.Numbered] at h
    obtain ⟨finish, hvisit, hfinish⟩ := numberTask_of_branchNumbered h.1 a
    refine rebuild_branch_eq_ok_iff.mpr ⟨kind, finish, a, hvisit, cs, a, ?_, ?_⟩
    · exact rebuildAll_of_siblingsNumbered h.2 a
    · rw [hfinish]

/-- Numbered siblings stay as they are. -/
theorem rebuildAll_of_siblingsNumbered {cs : List Node}
    (h : SiblingsNumbered project none cs) (a : Allocator) :
    (rebuildAll .kept (numberTask project) none cs).run a = .ok (cs, a) := by
  match cs with
  | [] => rfl
  | c :: cs =>
    rw [SiblingsNumbered] at h
    split at h
    next hbegin =>
      rw [rebuildAll_of_not_begin hbegin]
      refine numbering_bind_eq_ok_iff.mpr ⟨_, rebuild_of_numbered h.1 a, ?_⟩
      exact numbering_bind_eq_ok_iff.mpr ⟨_, rebuildAll_of_siblingsNumbered h.2 a, rfl⟩
    next name hbegin =>
      have hname : name ∈ regionNames := mem_of_regionBegin? hbegin
      obtain ⟨body, rest, hbody, rfl, hrest⟩ := rebuildAll_of_skipping h a
      rw [rebuildAll_of_begin hbegin, regionPassed_close hname, regionBody_close hname hbody,
        skip_close (rebuildAll_skip _ _) hname rest body hbody]
      exact numbering_bind_eq_ok_iff.mpr ⟨_, hrest, rfl⟩

/-- Numbered siblings that begin with the body of a region close it, and what follows stays as it
is. -/
theorem rebuildAll_of_skipping {cs : List Node} {name : String}
    (h : SiblingsNumbered project (some name) cs) (a : Allocator) :
    ∃ body rest, (∀ c ∈ body, isRegionEnd name c = false) ∧
      cs = Regions.kept.close name body rest ∧
      (rebuildAll .kept (numberTask project) none rest).run a = .ok (rest, a) := by
  match cs with
  | [] => cases h
  | c :: cs =>
    rw [SiblingsNumbered] at h
    by_cases hend : isRegionEnd name c = true
    · rw [if_pos hend] at h
      obtain ⟨rfl, h⟩ := h
      exact ⟨[], cs, List.forall_mem_nil _, rfl, rebuildAll_of_siblingsNumbered h a⟩
    · rw [if_neg hend] at h
      obtain ⟨body, rest, hbody, rfl, hrest⟩ := rebuildAll_of_skipping h a
      refine ⟨c :: body, rest, ?_, rfl, hrest⟩
      exact List.forall_mem_cons.mpr ⟨Bool.eq_false_iff.mpr hend, hbody⟩
end

end

theorem name_of_checkProject {name : String} {project : ProjectId}
    (h : checkProject name = .ok project) : name = project.toString := by
  unfold checkProject ProjectId.ofString? at h
  split at h
  next found hfound =>
    split at hfound
    next hvalid =>
      cases h
      cases hfound
      exact String.ofList_toList.symm
    next => cases hfound
  next => cases h

/-- **Numbering is idempotent.**  Numbering what has been numbered, for the same project and with
whatever allocator, gives the same tree and leaves the allocator as it is. -/
theorem numberTree_idempotent {tree numbered : Node} {a after : Allocator}
    (h : numberTree .kept a tree = .ok (numbered, after)) :
    ∃ project, checkProject a.project = .ok project ∧
      (∀ b, (numbered.number project .kept).run b = .ok (numbered, b)) ∧
      ∀ b, b.project = a.project → numberTree .kept b numbered = .ok (numbered, b) := by
  obtain ⟨project, hproject, h⟩ := bind_eq_ok_iff.mp h
  have hname : a.project = project.toString := name_of_checkProject hproject
  obtain ⟨hnumbered, -⟩ := numbered_of_rebuild (ofNumeral_eq_ok_iff.mp h) hname
  refine ⟨project, hproject, fun b => rebuild_of_numbered hnumbered b, ?_⟩
  intro b hb
  refine bind_eq_ok_iff.mpr ⟨project, ?_, ?_⟩
  · rw [hb, hproject]
  · exact ofNumeral_eq_ok_iff.mpr (rebuild_of_numbered hnumbered b)

/-- A heading with a box, an item with a placeholder, an item with a box and nothing else, and a
region that is not closed. -/
def unnumberedTree : Node :=
  .root [.heading Depth.one [.text "[x]  Plan"],
    .list false none false
      [.listItem none false [.paragraph [.text "TODO-??? write"]], .listItem (some true) false []],
    .html "<!-- index -->"]

/-- The same with numbers from seven on. -/
def renumberedTree : Node :=
  .root [.heading Depth.one [.text "[x] TODO-7 Plan"],
    .list false none false
      [.listItem (some false) false [.paragraph [.text "TODO-8 write"]],
        .listItem (some true) false [.text "TODO-9 "]],
    .html "<!-- index -->", .html "<!-- /index -->"]

/-- The allocator that is left when they have been drawn. -/
def renumberingAllocator : Allocator := { project := "TODO", seed := 6, last := 9 }

theorem numberTree_unnumberedTree :
    numberTree .kept (.startingAt "TODO" 6) unnumberedTree =
      .ok (renumberedTree, renumberingAllocator) := by
  decide +kernel

theorem numberTree_idempotent_of_unnumberedTree :
    numberTree .kept (.startingAt "TODO" 6) unnumberedTree =
        .ok (renumberedTree, { project := "TODO", seed := 6, last := 9 }) ∧
      ∀ b : Allocator, b.project = "TODO" →
        numberTree .kept b renumberedTree = .ok (renumberedTree, b) := by
  obtain ⟨_, _, _, hagain⟩ := numberTree_idempotent numberTree_unnumberedTree
  exact ⟨numberTree_unnumberedTree, hagain⟩

end TaskNotes
