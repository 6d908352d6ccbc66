/-
# Replacing regions again

Replacing the bodies of regions by bodies of their own, whatever stood there before, is done once
and for all (`replaceRegions_idempotent`).  The second time the same regions are found, because a
region that has been replaced is closed by the first end marker behind its begin marker: its body
holds none, and what stood in the old body has gone.

Nothing is asked of the names of the regions.  The end marker of one may be the begin marker of
another, and a body may begin regions, its own one among them.

What makes this go through is the order in which regions are found, from the front and one after
the other.  Up to the begin marker of a region the two runs see the same siblings; the body that
the first run wrote is passed over by the second, as it does not end its region; and behind the
region both go on in the same way.  A region that was not closed has become a closed one, and what
followed its begin marker now follows its end marker.
-/
import TaskNotes.Proofs.RegionBodies
import TaskNotes.Proofs.WrittenBlocks

namespace TaskNotes

/-! ## 1. Regions with bodies of their own

Markers are leaves and stay as they are, so replacing inside of siblings changes none of the
markers among them. -/

/-- Whether every region gets the same body whatever it holds, one that does not end the region. -/
structure Regions.Fixed (regions : Regions) : Prop where
  ignores_body : ∀ name ∈ regions.names, ∀ body other,
    regions.build name body = regions.build name other
  ends_nowhere : ∀ name ∈ regions.names, ∀ body, ∀ c ∈ regions.build name body,
    isRegionEnd name c = false

/-- The marker that ends a region is one, whatever the name of the region is. -/
theorem isRegionEnd_html_endMarker (name : String) :
    isRegionEnd name (.html (endMarker name)) = true := by
  have hmarker : (endMarker name).toList =
      "<!-- /".toList ++ name.toList ++ " -->".toList := by
    rw [endMarker, String.toList_append, String.toList_append]
  have hhead : ∀ c ∈ (endMarker name).toList.head?, isBlank c = false := by
    rw [hmarker, List.append_assoc]
    rintro c ⟨⟩
    decide
  have hlast : ∀ c ∈ (endMarker name).toList.getLast?, isBlank c = false := by
    rw [hmarker, List.getLast?_append_of_ne_nil _ (by decide)]
    decide
  rw [isRegionEnd, isMarker, trimBlanks, trimBoth_eq_self hhead hlast, beq_self_eq_true]

section

variable {regions : Regions} {name : String} {c : Node}

theorem replaceAmong_skip_body (rest : List Node) :
    ∀ {body : List Node}, (∀ d ∈ body, isRegionEnd name d = false) →
      replaceAmong regions (some name) (body ++ rest) = replaceAmong regions (some name) rest
  | [], _ => rfl
  | d :: body, h => by
    rw [List.cons_append, replaceAmong_skip, h d List.mem_cons_self]
    exact replaceAmong_skip_body rest fun e he => h e (List.mem_cons_of_mem _ he)

/-- **A closed region is found again**: it gets its body, and what follows it is replaced on its
own. -/
theorem replaceAmong_region (hbegin : regionBegin? regions.names c = some name) {body : List Node}
    (hbody : ∀ d ∈ body, isRegionEnd name d = false) (rest : List Node) :
    replaceAmong regions none (c :: (body ++ .html (endMarker name) :: rest)) =
      c :: regions.close name body (replaceAmong regions none rest) := by
  have hend := isRegionEnd_html_endMarker name
  have hpassed : regionPassed name (body ++ .html (endMarker name) :: rest) = some name := by
    simp [regionPassed, hend]
  rw [replaceAmong_of_begin hbegin, regionBody_append_cons hbody hend, hpassed,
    replaceAmong_skip_body _ hbody, replaceAmong_skip, hend, if_pos rfl]

theorem regionBegin?_replaceRegions (names : List String) (c : Node) :
    regionBegin? names (c.replaceRegions regions) = regionBegin? names c := by
  simp only [regionBegin?, isMarker_replaceRegions]

mutual
/-- **What has been made of a tree stays.** -/
theorem replaceRegions_again (h : regions.Fixed) (tree : Node) :
    (tree.replaceRegions regions).replaceRegions regions = tree.replaceRegions regions := by
  match tree with
  | .leaf kind => rw [replaceRegions_leaf, replaceRegions_leaf]
  | .branch kind cs =>
    rw [replaceRegions_branch, replaceRegions_branch, replaceAmong_again h none cs]

/-- What has been made of siblings stays, of those behind the body of a region too. -/
theorem replaceAmong_again (h : regions.Fixed) (skipping : Option String) (cs : List Node) :
    replaceAmong regions none (replaceAmong regions skipping cs) =
      replaceAmong regions skipping cs := by
  match cs, skipping with
  | [], _ => rw [replaceAmong_nil, replaceAmong_nil]
  | c :: cs, some name =>
    rw [replaceAmong_skip]
    exact replaceAmong_again h _ cs
  | c :: cs, none =>
    cases hbegin : regionBegin? regions.names c with
    | none =>
      rw [replaceAmong_of_not_begin hbegin, replaceAmong_of_not_begin,
        replaceRegions_again h c, replaceAmong_again h none cs]
      rw [regionBegin?_replaceRegions, hbegin]
    | some name =>
      have hname := mem_of_regionBegin? hbegin
      rw [replaceAmong_of_begin hbegin, Regions.close,
        replaceAmong_region hbegin (h.ends_nowhere name hname _), Regions.close,
        replaceAmong_again h _ cs, h.ignores_body name hname _ (regionBody name cs)]
end

end

/-- **Replacing regions is idempotent**, however they are nested, repeated, closed or left open. -/
theorem replaceRegions_idempotent {regions : Regions} (h : regions.Fixed) (tree : Node) :
    (tree.replaceRegions regions).replaceRegions regions = tree.replaceRegions regions :=
  replaceRegions_again h tree

/-- Three regions of which the end marker of the first is the begin marker of the third.  The body
of the first begins the second and the first itself; that of the second ends the first. -/
def entangledRegions : Regions where
  names := ["index", "toc", "/index"]
  build name _ :=
    if name = "index" then [.html "<!-- toc -->", .html "<!-- index -->"]
    else if name = "toc" then [.html "<!-- /index -->", .paragraph [.html "<!-- toc -->"]]
    else []

/-- A region that is closed with blanks around its marker and holds the begin marker of another, one
that is left open, and a marker deeper in the tree. -/
def entangledTree : Node :=
  .root [.html "<!-- index -->", .html "<!-- toc -->", .html " <!-- /index -->\n",
    .html "<!-- toc -->", .blockquote [.html "\t<!-- /index -->"], .html "<!-- /index -->"]

theorem replaceRegions_idempotent_entangledTree :
    entangledRegions.Fixed ∧
      entangledTree.replaceRegions entangledRegions =
        .root [.html "<!-- index -->", .html "<!-- toc -->", .html "<!-- index -->",
          .html "<!-- /index -->", .html "<!-- toc -->", .html "<!-- /index -->",
          .paragraph [.html "<!-- toc -->"], .html "<!-- /toc -->",
          .blockquote [.html "\t<!-- /index -->", .html "<!-- //index -->"],
          .html "<!-- /index -->", .html "<!-- //index -->"] ∧
      (entangledTree.replaceRegions entangledRegions).replaceRegions entangledRegions =
        entangledTree.replaceRegions entangledRegions := by
  have hends : ∀ name ∈ entangledRegions.names, ∀ c ∈ entangledRegions.build name [],
      isRegionEnd name c = false := by
    decide +kernel
  have hfixed : entangledRegions.Fixed := ⟨fun _ _ _ _ => rfl, fun name hname _ => hends name hname⟩
  exact ⟨hfixed, by decide +kernel, replaceRegions_idempotent hfixed entangledTree⟩

end TaskNotes
