/-
# Leading identifiers stay distinct

The allocator of a run goes on from the first identifiers of texts, and numbering looks at leading
identifiers.  The second scan sees no number that the first has missed: a leading identifier stands
first in its text (`mem_firstNumbers_of_mem_leadingNumbers`), so no leading number is above the
seed.

What a run adds to the leading identifiers are those with the numbers behind the seed, each once
(`AllNumberedAs.leadingIds_perm`).  So leading identifiers with distinct numbers stay, and stay
distinct (`leadingNumbers_nodup_of_numberDocuments`).

The two scans differ in what they look at.  The first one looks at every text of a tree, also
inside of region bodies, and takes the first identifier wherever it stands; the second looks at the
texts that a carrier begins with, and takes an identifier at the very start, behind the box and one
space in a heading.  What is needed is one inclusion, and for that the third section leads from a
carrier to its text in the list of all texts.

Distinct numbers are more than distinct identifiers: an identifier can be written with leading
zeros, and then another spelling of the same number is a repetition.
-/
import TaskNotes.Proofs.DrawnNumbers
import TaskNotes.Proofs.Seed

namespace TaskNotes

/-! ## 1. Leading identifiers -/

/-- The number that an identifier stands for. -/
def TaskId.value (id : TaskId) : Nat := digitsValue id.digits

/-- The leading identifiers of a tree outside of region bodies. -/
def Node.leadingIds (project : ProjectId) (tree : Node) : List TaskId :=
  tree.carriers.filterMap (Node.leadingId? project)

/-- The numbers of the leading identifiers of a tree. -/
def Node.leadingNumbers (project : ProjectId) (tree : Node) : List Nat :=
  (tree.leadingIds project).map TaskId.value

theorem value_comp_idOf (project : ProjectId) : TaskId.value ∘ project.idOf = id :=
  funext digitsValue_decimal

theorem flatMap_leadingIds (project : ProjectId) (trees : List Node) :
    trees.flatMap (Node.leadingIds project) =
      (trees.flatMap Node.carriers).filterMap (Node.leadingId? project) := by
  rw [List.filterMap_flatMap]
  rfl

theorem flatMap_leadingNumbers (project : ProjectId) (trees : List Node) :
    trees.flatMap (Node.leadingNumbers project) =
      (trees.flatMap (Node.leadingIds project)).map TaskId.value := by
  rw [List.map_flatMap]
  rfl

section

variable {project : ProjectId} {a b : Allocator} {cs outs : List Node}

/-- **A run adds the identifiers that it hands out** to the leading ones. -/
theorem AllNumberedAs.leadingIds_perm (h : AllNumberedAs project a cs outs b)
    (hproject : a.project = project.toString) :
    (outs.filterMap (Node.leadingId? project)).Perm
      (cs.filterMap (Node.leadingId? project) ++
        (List.range' (a.last + 1) (cs.countP (Node.needsNumber project))).map project.idOf) := by
  induction h with
  | nil => exact .nil
  | @cons a between b c out cs outs hfirst _ ih =>
    have ih := ih (hfirst.project_eq hproject)
    rw [List.countP_cons]
    rcases hfirst.drawn_or_kept hproject with ⟨hneeds, rfl, hnone, hid⟩ | ⟨hneeds, rfl, hid⟩
    · rw [List.filterMap_cons_none hnone, List.filterMap_cons_some hid, if_pos hneeds,
        List.range'_succ, List.map_cons]
      exact (ih.cons _).trans List.perm_middle.symm
    · rw [List.filterMap_cons, List.filterMap_cons, hid, hneeds]
      cases c.leadingId? project with
      | none => exact ih
      | some id => exact ih.cons id

end

/-! ## 2. Leading identifiers stand first in their texts

The first identifier of a text is found by a search, so it has to be shown that the search does not
stop before.  A box holds no capital letter, and an identifier begins with one; hence nothing in
front of a leading identifier can be taken for one. -/

section

variable {project : ProjectId} {text front digits : List Char} {id : TaskId}

theorem exists_isUpper_of_standsBehind (h : StandsBehind project text front digits) :
    ∃ c, text[front.length]? = some c ∧ c.isUpper = true := by
  obtain ⟨after, -, rfl⟩ := h
  obtain ⟨c, letters, hletters, hupper⟩ := exists_cons_letters project
  refine ⟨c, ?_, hupper⟩
  rw [List.getElem?_append_right (Nat.le_refl _), Nat.sub_self, hletters]
  rfl

theorem standsFirst_of_taskId? {rest : List Char}
    (h : taskId? (some project) text = some (id, rest)) :
    StandsFirst project text [] id.digits := by
  refine ⟨standsBehind_iff.mpr ⟨text, rest, rfl, ?_⟩, fun _ _ _ => Nat.zero_le _⟩
  rw [h, ← (taskId?_eq_some_iff.mp h).1]

/-- A box and one space hold no identifier. -/
theorem standsFirst_of_boxAndSpace? {state : BoxState} {inner rest : List Char}
    (hspace : boxAndSpace? text = some (state, inner))
    (h : taskId? (some project) inner = some (id, rest)) :
    StandsFirst project text (state.marker ++ [' ']) id.digits := by
  have htext := eq_marker_of_boxAndSpace? hspace
  refine ⟨standsBehind_iff.mpr ⟨inner, rest, ?_, ?_⟩, fun before others hbefore => ?_⟩
  · rw [htext, List.append_assoc, List.singleton_append]
  · rw [h, ← (taskId?_eq_some_iff.mp h).1]
  · obtain ⟨c, hc, hupper⟩ := exists_isUpper_of_standsBehind hbefore
    by_contra hlt
    have hlt : before.length < (state.marker ++ [' ']).length := Nat.lt_of_not_le hlt
    rw [htext, ← List.singleton_append, ← List.append_assoc, List.getElem?_append_left hlt] at hc
    have hplain : (state.marker ++ [' ']).all (fun c => !c.isUpper) = true := by
      cases state <;> decide
    have hc := List.all_eq_true.mp hplain c (List.mem_of_getElem? hc)
    rw [hupper] at hc
    cases hc

theorem exists_standsFirst_of_headingId? (h : headingId? project text = some id) :
    ∃ front, StandsFirst project text front id.digits := by
  rw [headingId?] at h
  split at h
  next state inner hspace =>
    obtain ⟨⟨_, rest⟩, hid, rfl⟩ := Option.map_eq_some_iff.mp h
    exact ⟨_, standsFirst_of_boxAndSpace? hspace hid⟩
  next hspace =>
    obtain ⟨⟨_, rest⟩, hid, rfl⟩ := Option.map_eq_some_iff.mp h
    exact ⟨_, standsFirst_of_taskId? hid⟩

end

/-! ## 3. Texts of carriers -/

mutual
/-- What lies below a carrier of a tree lies below the tree. -/
theorem mem_preorder_of_mem_carriers {tree c x : Node} (hc : c ∈ tree.carriers)
    (hx : x ∈ c.preorder) : x ∈ tree.preorder := by
  match tree with
  | .leaf kind => cases hc
  | .branch kind cs =>
    rw [Node.carriers] at hc
    split at hc
    next =>
      rcases List.mem_cons.mp hc with rfl | hc
      · exact hx
      · exact List.mem_cons_of_mem _ (mem_preorderAll_of_mem_carriersAmong hc hx)
    next => exact List.mem_cons_of_mem _ (mem_preorderAll_of_mem_carriersAmong hc hx)

/-- What lies below a carrier of siblings lies below one of them. -/
theorem mem_preorderAll_of_mem_carriersAmong {skipping : Option String} {cs : List Node}
    {c x : Node} (hc : c ∈ carriersAmong skipping cs) (hx : x ∈ c.preorder) :
    x ∈ Node.preorderAll cs := by
  match cs, skipping with
  | [], _ => cases hc
  | d :: cs, some name =>
    rw [carriersAmong_skip] at hc
    exact List.mem_append_right _ (mem_preorderAll_of_mem_carriersAmong hc hx)
  | d :: cs, none =>
    cases hbegin : regionBegin? regionNames d with
    | none =>
      rw [carriersAmong_of_not_begin hbegin] at hc
      rcases List.mem_append.mp hc with hc | hc
      · exact List.mem_append_left _ (mem_preorder_of_mem_carriers hc hx)
      · exact List.mem_append_right _ (mem_preorderAll_of_mem_carriersAmong hc hx)
    | some name =>
      rw [carriersAmong_of_begin hbegin] at hc
      exact List.mem_append_right _ (mem_preorderAll_of_mem_carriersAmong hc hx)
end

section

variable {project : ProjectId} {tree c : Node} {text : String}

theorem mem_texts_of_mem_preorder (h : .text text ∈ tree.preorder) : text ∈ tree.texts := by
  rw [Node.texts, Node.walk_eq_preorder]
  exact List.mem_filterMap.mpr ⟨_, h, rfl⟩

theorem text_mem_preorder_of_firstText? {kind : Branch} {cs : List Node}
    (h : firstText? cs = some text) : .text text ∈ (Node.branch kind cs).preorder := by
  obtain ⟨others, rfl⟩ := exists_cons_of_firstText? h
  simp [Node.preorder, Node.preorderAll]

theorem text_mem_preorder_of_leadingText? {kind : Branch} {cs : List Node}
    (h : leadingText? cs = some text) : .text text ∈ (Node.branch kind cs).preorder := by
  rcases exists_cons_of_leadingText? h with ⟨others, rfl⟩ | ⟨inner, others, rfl⟩
  · simp [Node.preorder, Node.preorderAll]
  · simp [Node.preorder, Node.preorderAll]

/-- **A leading identifier is the first one of a text.** -/
theorem mem_firstNumbers_of_leadingId? {id : TaskId} (hc : c ∈ tree.carriers)
    (hid : c.leadingId? project = some id) : id.value ∈ firstNumbers project tree.texts := by
  unfold Node.leadingId? at hid
  split at hid
  next depth cs =>
    obtain ⟨text, htext, hid⟩ := Option.bind_eq_some_iff.mp hid
    obtain ⟨front, hfirst⟩ := exists_standsFirst_of_headingId? hid
    refine ⟨text, mem_texts_of_mem_preorder ?_, front, id.digits, hfirst, rfl⟩
    exact mem_preorder_of_mem_carriers hc (text_mem_preorder_of_firstText? htext)
  next checked spread cs =>
    obtain ⟨text, htext, hid⟩ := Option.bind_eq_some_iff.mp hid
    obtain ⟨⟨_, rest⟩, hread, rfl⟩ := Option.map_eq_some_iff.mp hid
    refine ⟨text, mem_texts_of_mem_preorder ?_, [], _, standsFirst_of_taskId? hread, rfl⟩
    exact mem_preorder_of_mem_carriers hc (text_mem_preorder_of_leadingText? htext)
  next => cases hid

theorem mem_firstNumbers_of_mem_leadingNumbers {trees : List Node} {n : Nat}
    (h : n ∈ trees.flatMap (Node.leadingNumbers project)) :
    n ∈ firstNumbers project (trees.flatMap Node.texts) := by
  rw [flatMap_leadingNumbers] at h
  obtain ⟨id, hid, rfl⟩ := List.mem_map.mp h
  obtain ⟨tree, htree, hid⟩ := List.mem_flatMap.mp hid
  obtain ⟨c, hc, hid⟩ := List.mem_filterMap.mp hid
  obtain ⟨text, htext, hfirst⟩ := mem_firstNumbers_of_leadingId? hc hid
  exact ⟨text, List.mem_flatMap.mpr ⟨tree, htree, htext⟩, hfirst⟩

end

/-! ## 4. Distinct numbers -/

/-- **Leading identifiers stay distinct.**  Documents are numbered with an allocator that goes on
from all of them.  If the numbers of their leading identifiers are pairwise distinct, then so are
they afterwards, and every leading identifier is still there. -/
theorem leadingNumbers_nodup_of_numberDocuments {project : ProjectId}
    {sources : List (Path × Node)} {docs : List Document} {a b : Allocator}
    (hseed : Allocator.ofTrees project.toString (sources.map Prod.snd) = .ok a)
    (h : numberDocuments a sources = .ok (docs, b))
    (hnodup : ((sources.map Prod.snd).flatMap (Node.leadingNumbers project)).Nodup) :
    ((docs.map Document.tree).flatMap (Node.leadingNumbers project)).Nodup ∧
      ∀ id ∈ (sources.map Prod.snd).flatMap (Node.leadingIds project),
        id ∈ (docs.map Document.tree).flatMap (Node.leadingIds project) := by
  obtain ⟨seed, hhighest, rfl⟩ := map_eq_ok_iff.mp hseed
  obtain ⟨hrun, -⟩ := allNumberedAs_of_numberDocuments h rfl
  have hperm := hrun.leadingIds_perm rfl
  rw [← flatMap_leadingIds, ← flatMap_leadingIds] at hperm
  constructor
  · have hnumbers := hperm.map TaskId.value
    rw [List.map_append, List.map_map, ← flatMap_leadingNumbers, ← flatMap_leadingNumbers,
      value_comp_idOf, List.map_id] at hnumbers
    rw [hnumbers.nodup_iff, List.nodup_append]
    refine ⟨hnodup, List.nodup_range', ?_⟩
    -- a leading number is at most the seed, and what is drawn is above it
    rintro n hn _ hdrawn rfl
    have hle : n ≤ seed :=
      (isGreatest_of_highestNumber hhighest).2 (.inr (mem_firstNumbers_of_mem_leadingNumbers hn))
    have hlt : seed + 1 ≤ n := (List.mem_range'_1.mp hdrawn).1
    omega
  · intro id hid
    exact hperm.mem_iff.mpr (List.mem_append_left _ hid)

theorem leadingNumbers_nodup_of_twoDocuments :
    ∃ docs b, numberDocuments (.startingAt ProjectId.default.toString 3) twoDocuments =
        .ok (docs, b) ∧
      ((docs.map Document.tree).flatMap (Node.leadingNumbers .default)).Nodup ∧
      ProjectId.default.idOf 3 ∈ (docs.map Document.tree).flatMap (Node.leadingIds .default) := by
  have hseed : Allocator.ofTrees ProjectId.default.toString (twoDocuments.map Prod.snd) =
      .ok (.startingAt ProjectId.default.toString 3) := by
    decide +kernel
  obtain ⟨docs, b, h⟩ := exists_numberDocuments_twoDocuments
  obtain ⟨hnodup, hkept⟩ := leadingNumbers_nodup_of_numberDocuments hseed h (by decide +kernel)
  exact ⟨docs, b, h, hnodup, hkept _ (by decide +kernel)⟩

end TaskNotes
