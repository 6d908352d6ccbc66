/-
# What changes when links are brought up to date

The changes that may be made to a tree when its links are brought up to date, written down as a
relation between the tree and another one (`Node.LinksUpdated`).

* A link that does not stand in another link has the URL that is made for it, and keeps its title.
* Its label stays, unless it is the name of a file and nothing else, the URL leads to that file and
  changes, and the file has been renamed; then it is the name of the new file (`LabelUpdated`).
* Every other node stays with all that it holds.

A tree in which no URL changes is not even made anew (`relink?_eq_none_iff`), and one that is made
anew is another tree (`links_updated_of_relink?`).

The relation says at each link what becomes of it, and leaves nothing open.  It does not say how to
find out whether anything has changed, which is what the program does first, so as to write again
only what it must.

A label is compared as a whole.  A label with emphasis in it, or with other words beside the name,
is the author's and stays.
-/
import TaskNotes.Proofs.Relink

namespace TaskNotes

/-! ## 1. Trees that are left alone

A tree is made anew when a part of it is, and a link when its URL changes. -/

section

variable {relink : List Char → Relinked}

theorem relinkedUrl_eq_self_iff {url : String} :
    relinkedUrl relink url = url ↔ (relink url.toList).url = url.toList := by
  rw [relinkedUrl, ← String.toList_inj, String.toList_ofList]

theorem relinkLink?_eq_none_iff {url : String} {title : Option String} {label : List Node} :
    relinkLink? relink url title label = none ↔ relinkedUrl relink url = url := by
  rw [relinkLink?, relinkedUrl_eq_self_iff]
  split
  next h => simp [h]
  next h => simp [h]

mutual
/-- **A tree is left alone iff no URL of its links changes**, those of links inside links aside. -/
theorem relink?_eq_none_iff (tree : Node) :
    tree.relink? relink = none ↔ ∀ url ∈ tree.outerLinks, relinkedUrl relink url = url := by
  match tree with
  | .leaf kind => simp [Node.relink?, Node.outerLinks]
  | .branch kind cs =>
    have hcs := relinkAll?_eq_none_iff cs
    cases kind with
    | link url title => simp [Node.relink?, Node.outerLinks, relinkLink?_eq_none_iff]
    | _ => simpa [Node.relink?, Node.outerLinks] using hcs

theorem relinkAll?_eq_none_iff (cs : List Node) :
    relinkAll? relink cs = none ↔ ∀ url ∈ outerLinksAll cs, relinkedUrl relink url = url := by
  match cs with
  | [] => simp [relinkAll?, outerLinksAll]
  | c :: cs =>
    have hc := relink?_eq_none_iff c
    have hcs := relinkAll?_eq_none_iff cs
    rw [relinkAll?, outerLinksAll, List.forall_mem_append, ← hc, ← hcs]
    split
    next hc hcs => simp [hc, hcs]
    next hchanged => simpa using fun hc hcs => hchanged hc hcs
end

end

/-! ## 2. What may change -/

section

variable (source output : Path) (renames : Renames)

/-- How the label of a link changes, given the URL of the link. -/
inductive LabelUpdated (url : String) : List Node → List Node → Prop
  /-- The name of a file becomes that of the new file, if the URL leads to the file and changes, and
  the file has been renamed. -/
  | renamed {path suffix : List Char} {new : Path}
      (hchanged : relinkedUrl (relinkUrl source output renames) url ≠ url)
      (hrefers : RefersTo url.toList path suffix)
      (hnew : renames.target? (source.resolve path) = some new) :
      LabelUpdated url [.text (String.ofList (linkName (source.resolve path)))]
        [.text (String.ofList (linkName new))]
  /-- Any other label stays. -/
  | kept {label : List Node}
      (h : ∀ path suffix new, relinkedUrl (relinkUrl source output renames) url ≠ url →
        RefersTo url.toList path suffix → renames.target? (source.resolve path) = some new →
          label ≠ [.text (String.ofList (linkName (source.resolve path)))]) :
      LabelUpdated url label label

mutual
/-- How a tree changes when its links are brought up to date. -/
inductive Node.LinksUpdated : Node → Node → Prop
  | leaf (kind : Leaf) : Node.LinksUpdated (.leaf kind) (.leaf kind)
  /-- What is no link stays, its children aside. -/
  | branch {kind : Branch} {cs outs : List Node} (hkind : ∀ url title, kind ≠ .link url title)
      (hcs : AllLinksUpdated cs outs) : Node.LinksUpdated (.branch kind cs) (.branch kind outs)
  /-- A link gets its URL and keeps its title; inside of it nothing but a name changes. -/
  | link {url : String} {title : Option String} {label out : List Node}
      (hlabel : LabelUpdated source output renames url label out) :
      Node.LinksUpdated (.link url title label)
        (.link (relinkedUrl (relinkUrl source output renames) url) title out)

/-- How siblings change. -/
inductive AllLinksUpdated : List Node → List Node → Prop
  | nil : AllLinksUpdated [] []
  | cons {c out : Node} {cs outs : List Node} (hc : Node.LinksUpdated c out)
      (hcs : AllLinksUpdated cs outs) : AllLinksUpdated (c :: cs) (out :: outs)
end

end

/-! ## 3. What changes

By recursion on the tree, with a lemma for links and one for all other branches. -/

section

variable {source output : Path} {renames : Renames}

/-- **The target of a URL has been renamed** iff the URL refers to a file with a new path. -/
theorem renamed_relinkUrl_iff {url : List Char} {old new : Path} :
    (relinkUrl source output renames url).renamed = some (old, new) ↔
      ∃ path suffix, RefersTo url path suffix ∧ source.resolve path = old ∧
        renames.target? old = some new := by
  rw [relinkUrl]
  constructor
  · intro h
    split at h
    next => cases h
    next path suffix hrefers =>
      refine ⟨path, suffix, fileReference?_eq_some_iff.mp hrefers, ?_⟩
      simp only at h
      split at h
      next moved hmoved =>
        obtain ⟨rfl, rfl⟩ := Prod.mk.inj (Option.some.inj h)
        exact ⟨rfl, hmoved⟩
      next => split at h <;> cases h
  · rintro ⟨path, suffix, hrefers, rfl, hnew⟩
    rw [fileReference?_eq_some_iff.mpr hrefers]
    rw [Path.resolve] at hnew ⊢
    simp [hnew]

/-- A label that is relabelled when its link changes changes as it may. -/
theorem labelUpdated_relabel {url : String}
    (hchanged : relinkedUrl (relinkUrl source output renames) url ≠ url) (label : List Node) :
    LabelUpdated source output renames url label
      (relabel (relinkUrl source output renames url.toList).renamed label) := by
  unfold relabel
  split
  next old new value hrenamed =>
    obtain ⟨path, suffix, hrefers, rfl, hnew⟩ := renamed_relinkUrl_iff.mp hrenamed
    split
    next hname =>
      rw [← String.ofList_toList (s := value), hname]
      exact .renamed hchanged hrefers hnew
    next hname =>
      refine .kept fun other _ _ _ hother _ heq => hname ?_
      have hpath : path = other := Except.ok.inj (hrefers.decodes.symm.trans hother.decodes)
      simp only [List.cons.injEq, Node.leaf.injEq, Leaf.text.injEq, and_true] at heq
      rw [heq, String.toList_ofList, hpath]
  next hother =>
    refine .kept fun path suffix new _ hrefers hnew heq => ?_
    exact hother _ _ _ (renamed_relinkUrl_iff.mpr ⟨path, suffix, hrefers, rfl, hnew⟩) heq

theorem linksUpdated_relinkLink? (url : String) (title : Option String) (label : List Node) :
    Node.LinksUpdated source output renames (.link url title label)
      ((relinkLink? (relinkUrl source output renames) url title label).getD
        (.link url title label)) := by
  by_cases hsame : relinkedUrl (relinkUrl source output renames) url = url
  · rw [relinkLink?_eq_none_iff.mpr hsame, Option.getD_none]
    conv_rhs => rw [← hsame]
    exact .link (.kept fun _ _ _ hchanged => absurd hsame hchanged)
  · have hchanged : (relinkUrl source output renames url.toList).url ≠ url.toList :=
      fun h => hsame (relinkedUrl_eq_self_iff.mpr h)
    rw [relinkLink?, if_neg hchanged, Option.getD_some]
    exact .link (labelUpdated_relabel hsame label)

theorem linksUpdated_getD_map_branch {kind : Branch} {cs : List Node} {changed : Option (List Node)}
    (hkind : ∀ url title, kind ≠ .link url title)
    (hcs : AllLinksUpdated source output renames cs (changed.getD cs)) :
    Node.LinksUpdated source output renames (.branch kind cs)
      ((changed.map (Node.branch kind)).getD (.branch kind cs)) := by
  cases changed with
  | none => exact .branch hkind hcs
  | some outs => exact .branch hkind hcs

mutual
/-- **Nothing else changes**, whether the tree is made anew or not. -/
theorem linksUpdated_relink? (tree : Node) :
    Node.LinksUpdated source output renames tree
      ((tree.relink? (relinkUrl source output renames)).getD tree) := by
  match tree with
  | .leaf kind => exact .leaf kind
  | .branch kind cs =>
    have hcs := allLinksUpdated_relinkAll? cs
    cases kind with
    | link url title => exact linksUpdated_relinkLink? url title cs
    | _ => exact linksUpdated_getD_map_branch (by simp) hcs

theorem allLinksUpdated_relinkAll? (cs : List Node) :
    AllLinksUpdated source output renames cs
      ((relinkAll? (relinkUrl source output renames) cs).getD cs) := by
  match cs with
  | [] => exact .nil
  | c :: cs =>
    have hc := linksUpdated_relink? c
    have hcs := allLinksUpdated_relinkAll? cs
    rw [relinkAll?]
    split
    next hnone hnones =>
      rw [hnone] at hc
      rw [hnones] at hcs
      exact .cons hc hcs
    next => exact .cons hc hcs
end

end

/-- **Bringing links up to date touches nothing else.**  A tree is left alone iff no URL of a link
outside of other links changes; if it is made anew it is another tree; and in both cases what has
become of it differs from it in the URLs and in the labels that may change, and in nothing more. -/
theorem links_updated_of_relink? (source output : Path) (renames : Renames) (tree : Node) :
    (tree.relink? (relinkUrl source output renames) = none ↔
        ∀ url ∈ tree.outerLinks, relinkedUrl (relinkUrl source output renames) url = url) ∧
      (∀ out, tree.relink? (relinkUrl source output renames) = some out → out ≠ tree) ∧
      Node.LinksUpdated source output renames tree
        ((tree.relink? (relinkUrl source output renames)).getD tree) := by
  refine ⟨relink?_eq_none_iff tree, ?_, linksUpdated_relink? tree⟩
  rintro out hout rfl
  have hlinks := outerLinks_getD_relink? (relinkUrl source output renames) out
  rw [hout, Option.getD_some] at hlinks
  have hsame := List.map_inj_left.mp (hlinks.symm.trans (List.map_id _).symm)
  rw [(relink?_eq_none_iff out).mpr hsame] at hout
  cases hout

example :
    (Node.paragraph [.link "a.md" none [.text "a"], .link "a.md#x" none [.text "here"]]).relink?
        (relinkUrl (.ofString "/n") (.ofString "/n") [(.ofString "/n/a.md", .ofString "/n/b.md")]) =
      some (.paragraph [.link "b.md" none [.text "b"], .link "b.md#x" none [.text "here"]]) := by
  decide +kernel

end TaskNotes
