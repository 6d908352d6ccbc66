/-
# Documents that are read back

A document of plain blocks is read back as the tree that was written (`Node.read_render`): its
literal text does not become markup nor its markup text, and no block turns into another.  Plain
blocks are paragraphs and headings of plain parts, rules, fenced code, and quotations of plain
blocks as deep as the reader follows (`Node.isPlainDocument`).

The proof goes along the tree.  For each block there is a block of source that its lines are read
as and whose node it is (`StandsFor`); in a quotation the lines of all its children are read by the
same lemma as those of a whole document.

What is asked of a document can be evaluated (`Node.isPlainDocument`), for the tree at hand and its
source.  It bounds the depth of quotations only because the reader does, which follows containers
up to a limit.

Why plain blocks and no others: a list changes how its items are read with the lines between them,
and links, images and emphasis are read with the rest of their line.  For emphasis the statement is
not only out of reach but false, as two that stand side by side can run together
(`read_render_read_adjacentEmphasis`).
-/
import TaskNotes.Proofs.WrittenBlocks
import TaskNotes.Markup.Tree

namespace TaskNotes

open Markup

/-! ## 1. Plain documents -/

mutual
/-- Whether a block is plain: a paragraph or heading of plain parts whose source is tidy, a rule,
code, or a quotation of plain blocks where containers may nest so deep. -/
def Node.isPlainBlock (depth : Nat) : Node → Bool
  | .leaf (.code lang _) => isTidyLang lang
  | .leaf .thematicBreak => true
  | .branch .paragraph cs =>
    arePlainParts cs && (splitLines (renderInlines true cs)).all isTidyLine
      && holdsNoMail (renderInlines true cs)
  | .branch (.heading _) cs =>
    arePlainParts cs && isTidyTitle (renderInlines false cs)
      && holdsNoMail (renderInlines false cs)
  | .branch .blockquote cs => decide (0 < depth) && arePlainBlocks (depth - 1) cs
  | _ => false

/-- Whether all blocks are plain. -/
def arePlainBlocks (depth : Nat) : List Node → Bool
  | [] => true
  | c :: cs => c.isPlainBlock depth && arePlainBlocks depth cs
end

/-- Whether a text is left as it is when its line ends are made uniform. -/
def isUniform (text : List Char) : Bool := text.all fun c => c != '\r' && c.toNat != 0

/-- Whether a tree is a document of plain blocks, which writes no character that reading changes. -/
def Node.isPlainDocument : Node → Bool
  | .branch .root cs => arePlainBlocks (nestingLimit - 1) cs && isUniform (renderDocument cs)
  | _ => false

/-! ## 2. Blocks one after the other

Blocks are written with an empty line between them, so the lines of the whole are those of the
blocks and these empty lines.  A block ends in a line that is not empty, which is what keeps the
empty lines apart. -/

section

variable {text : List Char} {bodies : List (List Char)} {depth : Nat} {c : Node} {cs : List Node}

theorem EndsVisibly.joinWith (h : EndsVisibly text) (separator : List Char) :
    EndsVisibly (joinWith separator (bodies ++ [text])) := by
  induction bodies with
  | nil => exact h
  | cons body bodies ih =>
    have hne : bodies ++ [text] ≠ [] := List.append_ne_nil_of_right_ne_nil _ (List.cons_ne_nil _ _)
    obtain ⟨next, others, hmore⟩ := List.exists_cons_of_ne_nil hne
    rw [hmore] at ih
    rw [List.cons_append, hmore, TaskNotes.joinWith]
    exact ih.append _

theorem head?_joinWith_cons (hne : text ≠ []) (separator : List Char) :
    (joinWith separator (text :: bodies)).head? = text.head? := by
  cases bodies with
  | nil => rfl
  | cons next bodies =>
    rw [TaskNotes.joinWith, List.append_assoc, List.head?_append_of_ne_nil _ hne]

/-- A text that ends visibly has a last line that does. -/
theorem EndsVisibly.exists_last_line (h : EndsVisibly text) :
    ∃ above last, splitLines text = above ++ [last] ∧ EndsVisibly last := by
  obtain ⟨above, last, hlines⟩ :=
    (List.eq_nil_or_concat' (splitLines text)).resolve_left (splitLines_ne_nil text)
  refine ⟨above, last, hlines, ?_⟩
  have htext : joinLines (above ++ [last]) = text := by rw [← hlines, joinLines_splitLines]
  rw [← htext] at h
  cases above with
  | nil => exact h
  | cons first above =>
    rw [joinLines_append (List.cons_ne_nil _ _) (List.cons_ne_nil _ _)] at h
    obtain ⟨c, hc, hblank⟩ := h
    rw [List.getLast?_append, List.getLast?_cons] at hc
    cases last with
    | nil =>
      obtain rfl := Option.some.inj hc
      cases hblank
    | cons d last => exact ⟨c, hc, hblank⟩

/-- Quoted, a text ends as before. -/
theorem endsVisibly_quoteLines (h : text = [] ∨ EndsVisibly text) :
    EndsVisibly (quoteLines text) := by
  rcases h with rfl | h
  · exact ⟨'>', rfl, by decide⟩
  · obtain ⟨above, last, hlines, hlast⟩ := h.exists_last_line
    have hquoted : EndsVisibly (quoteLine last) := by
      rw [quoteLine, if_neg (by simpa using hlast.ne_nil)]
      exact hlast.append ['>', ' ']
    rw [quoteLines, mapLines, hlines, List.map_append]
    exact hquoted.joinWith _

theorem splitLines_joinWith_gap (hne : bodies ≠ []) :
    splitLines (joinWith (gap true) bodies) = blockLines (bodies.map splitLines) := by
  induction bodies with
  | nil => exact absurd rfl hne
  | cons body bodies ih =>
    cases bodies with
    | nil => rfl
    | cons next bodies =>
      have ih := ih (List.cons_ne_nil next bodies)
      rw [List.map_cons] at ih
      rw [joinWith, gap, if_pos rfl, List.append_assoc, List.map_cons, List.map_cons, blockLines,
        ← ih]
      exact splitLines_append_lineFeed body ('\n' :: joinWith (gap true) (next :: bodies))

/-- A plain block neither stands inside a line nor is it a list. -/
theorem place_of_isPlainBlock (h : c.isPlainBlock depth = true) (s : Siblings) :
    c.isPhrasing = false ∧ s.place c = .amongBlocks false := by
  match c with
  | .leaf (.code _ _) | .leaf .thematicBreak => exact ⟨rfl, rfl⟩
  | .branch .paragraph _ | .branch (.heading _) _ | .branch .blockquote _ => exact ⟨rfl, rfl⟩
  | .leaf (.html _) | .leaf (.text _) | .leaf (.inlineCode _) | .leaf (.image _ _ _)
  | .leaf .hardBreak => cases h
  | .branch .root _ | .branch (.list _ _ _) _ | .branch (.listItem _ _) _ | .branch .emphasis _
  | .branch .strong _ | .branch .delete _ | .branch (.link _ _) _ => cases h

theorem run_after (s : Siblings) (c : Node) : (s.after c).run = none := by
  unfold Siblings.after
  split <;> rfl

/-- Plain blocks are written each on its own. -/
theorem renderBlocks_of_plain (h : arePlainBlocks depth cs = true) {s : Siblings}
    (hs : s.run = none) : renderBlocks s cs = cs.map (renderBlock (.amongBlocks false)) := by
  have hflush : s.flush = [] := by rw [Siblings.flush, hs]
  induction cs generalizing s with
  | nil => rw [renderBlocks, hflush, List.map_nil]
  | cons c cs ih =>
    simp only [arePlainBlocks, Bool.and_eq_true] at h
    have hafter : (s.after c).flush = [] := by rw [Siblings.flush, run_after]
    obtain ⟨hphrasing, hplace⟩ := place_of_isPlainBlock h.1 s
    rw [renderBlocks, hphrasing, if_neg Bool.false_ne_true, hflush, hplace,
      ih h.2 (run_after s c) hafter]
    rfl

end

/-! ## 3. Blocks and what they are read as

Reading has two steps: lines are read as blocks of source, and the source of a block is read as
inline nodes, with the definitions of the whole document at hand.  Plain documents have no
definitions, so the second step can be taken for each block on its own. -/

/-- The content of a block where there are no definitions. -/
def plainInline (source : List Char) : Inline := ⟨source, readSpans [] true source⟩

/-- Whether a node is written so that it is read as a block of source, which is that node. -/
structure StandsFor (depth : Nat) (c : Node) (block : SourceBlock) : Prop where
  reads : ReadsBlock (readBlocks depth) (readBlocks (depth - 1))
    (splitLines (renderBlock (.amongBlocks false) c)) block
  ends : EndsVisibly (renderBlock (.amongBlocks false) c)
  definitions : block.definitions = []
  node : (block.map plainInline).node? = some c

/-- The text of blocks one after the other. -/
def bodyText (cs : List Node) : List Char := joinBlocks (gap true) (renderBlocks .start cs)

section

variable {depth : Nat} {c : Node} {cs : List Node} {blocks : List SourceBlock}

theorem ends_of_standsFor (h : List.Forall₂ (StandsFor depth) cs blocks) :
    ∀ c ∈ cs, EndsVisibly (renderBlock (.amongBlocks false) c) := by
  induction h with
  | nil => exact List.forall_mem_nil _
  | cons hc _ ih => exact List.forall_mem_cons.mpr ⟨hc.ends, ih⟩

theorem bodyText_eq (hplain : arePlainBlocks depth cs = true)
    (h : List.Forall₂ (StandsFor depth) cs blocks) :
    bodyText cs = joinWith (gap true) (cs.map (renderBlock (.amongBlocks false))) := by
  rw [bodyText, renderBlocks_of_plain hplain rfl, joinBlocks]
  refine congrArg _ (List.filter_eq_self.mpr fun body hbody => ?_)
  obtain ⟨c, hc, rfl⟩ := List.mem_map.mp hbody
  simpa using (ends_of_standsFor h c hc).ne_nil

/-- Blocks that end visibly do so together. -/
theorem endsVisibly_bodyText (hplain : arePlainBlocks depth cs = true)
    (h : List.Forall₂ (StandsFor depth) cs blocks) (hne : cs ≠ []) :
    EndsVisibly (bodyText cs) := by
  rw [bodyText_eq hplain h]
  obtain ⟨above, last, rfl⟩ := (List.eq_nil_or_concat' cs).resolve_left hne
  rw [List.map_append]
  exact (ends_of_standsFor h last List.mem_concat_self).joinWith _

/-- No line feed stands before the first block. -/
theorem head?_bodyText (hplain : arePlainBlocks depth cs = true)
    (h : List.Forall₂ (StandsFor depth) cs blocks) : (bodyText cs).head? ≠ some '\n' := by
  rw [bodyText_eq hplain h]
  cases h with
  | nil => exact nofun
  | @cons c block cs blocks hc hcs =>
    obtain ⟨first, others, hlines, hfirst⟩ := hc.reads.begins
    intro hfeed
    rw [List.map_cons, head?_joinWith_cons hc.ends.ne_nil] at hfeed
    obtain ⟨rest, hrest⟩ := List.head?_eq_some_iff.mp hfeed
    rw [hrest, splitLines, if_pos rfl] at hlines
    exact hfirst.ne_nil (List.cons.inj hlines).1.symm

/-- Lines of nothing are read as nothing. -/
theorem readsContent_nil (depth : Nat) : ReadsContent (readBlocks (depth + 1)) [[]] [] := by
  intro lines hlines
  obtain ⟨line, more, hline, hmore, rfl⟩ := List.forall₂_cons_right_iff.mp hlines
  cases hmore
  rw [readBlocks_succ, Context.readAll, List.dropWhile_cons, if_pos hline.isBlank_of_nil]
  exact ⟨rfl, rfl⟩

/-- **The lines of blocks one after the other are read as these blocks.** -/
theorem readsContent_bodyText (hplain : arePlainBlocks depth cs = true)
    (h : List.Forall₂ (StandsFor depth) cs blocks) :
    ReadsContent (readBlocks (depth + 1)) (splitLines (bodyText cs)) blocks := by
  rw [bodyText_eq hplain h]
  cases h with
  | nil => exact readsContent_nil depth
  | @cons c block cs blocks hc hcs =>
    rw [List.map_cons, splitLines_joinWith_gap (List.cons_ne_nil _ _), ← List.map_cons,
      List.map_map]
    refine readsContent_blocks (List.forall₂_map_left_iff.mpr ?_)
    exact (List.Forall₂.cons hc hcs).imp fun _ _ => StandsFor.reads

theorem definitions_of_standsFor (h : List.Forall₂ (StandsFor depth) cs blocks) :
    Block.definitionsOfAll blocks = [] := by
  induction h with
  | nil => rfl
  | cons hc _ ih => rw [Block.definitionsOfAll, hc.definitions, ih, List.append_nil]

theorem blockNodes_of_standsFor (h : List.Forall₂ (StandsFor depth) cs blocks) :
    blockNodes (Block.mapAll plainInline blocks) = cs := by
  induction h with
  | nil => rfl
  | cons hc _ ih =>
    rw [Block.mapAll, blockNodes, hc.node, ih]
    rfl

mutual
/-- **What a plain block is written as is read as that block.** -/
theorem exists_standsFor {depth : Nat} (c : Node) (h : c.isPlainBlock depth = true) :
    ∃ block, StandsFor depth c block := by
  match c with
  | .leaf (.code lang value) =>
    obtain ⟨hreads, hlang⟩ := readsBlock_renderCode h value.toList
    refine ⟨_, hreads, endsVisibly_renderCode lang value.toList, rfl, ?_⟩
    rw [Block.map, Block.node?, hlang, dropLastFeed_codeLines, String.ofList_toList]
  | .leaf .thematicBreak => exact ⟨.rule, readsBlock_rule, ⟨'*', rfl, by decide⟩, rfl, rfl⟩
  | .branch .paragraph cs =>
    simp only [Node.isPlainBlock, Bool.and_eq_true] at h
    obtain ⟨hreads, hnodes⟩ := readsBlock_renderParagraph h.1.1 h.1.2 h.2
    refine ⟨_, hreads, endsVisibly_renderParagraph h.1.2, rfl, ?_⟩
    exact congrArg (some ∘ Node.paragraph) hnodes
  | .branch (.heading level) cs =>
    simp only [Node.isPlainBlock, Bool.and_eq_true] at h
    obtain ⟨hreads, hnodes⟩ := readsBlock_renderHeading level h.1.1 h.1.2 h.2
    refine ⟨_, hreads, endsVisibly_renderHeading level h.1.2, rfl, ?_⟩
    exact congrArg (some ∘ Node.heading level) hnodes
  | .branch .blockquote cs =>
    simp only [Node.isPlainBlock, Bool.and_eq_true, decide_eq_true_eq] at h
    obtain ⟨below, rfl⟩ := Nat.exists_eq_add_of_le' h.1
    obtain ⟨blocks, hblocks⟩ := exists_standsFor_all cs h.2
    have hcontent := readsContent_bodyText h.2 hblocks
    have hends : bodyText cs = [] ∨ EndsVisibly (bodyText cs) := by
      by_cases hcs : cs = []
      · rw [hcs]
        exact .inl rfl
      · exact .inr (endsVisibly_bodyText h.2 hblocks hcs)
    obtain ⟨first, others, hlines⟩ :=
      List.exists_cons_of_ne_nil (splitLines_ne_nil (bodyText cs))
    refine ⟨.quotation blocks, ?_, endsVisibly_quoteLines hends,
      definitions_of_standsFor hblocks, ?_⟩
    · change ReadsBlock _ _ (splitLines (quoteLines (bodyText cs))) _
      rw [splitLines_quoteLines, hlines]
      rw [hlines] at hcontent
      exact readsBlock_quotation hcontent
    · exact congrArg (some ∘ Node.blockquote) (blockNodes_of_standsFor hblocks)
  | .leaf (.html _) | .leaf (.text _) | .leaf (.inlineCode _) | .leaf (.image _ _ _)
  | .leaf .hardBreak => cases h
  | .branch .root _ | .branch (.list _ _ _) _ | .branch (.listItem _ _) _ | .branch .emphasis _
  | .branch .strong _ | .branch .delete _ | .branch (.link _ _) _ => cases h

theorem exists_standsFor_all {depth : Nat} (cs : List Node) (h : arePlainBlocks depth cs = true) :
    ∃ blocks, List.Forall₂ (StandsFor depth) cs blocks := by
  match cs with
  | [] => exact ⟨[], .nil⟩
  | c :: cs =>
    simp only [arePlainBlocks, Bool.and_eq_true] at h
    obtain ⟨block, hblock⟩ := exists_standsFor c h.1
    obtain ⟨blocks, hblocks⟩ := exists_standsFor_all cs h.2
    exact ⟨block :: blocks, .cons hblock hblocks⟩
end

end

/-! ## 4. Documents

A document is its blocks and one line feed.  Reading first makes line ends uniform, and there is
nothing to do if neither a carriage return nor a null character is written. -/

theorem normalizeSource_eq_self {text : List Char} (h : isUniform text = true) :
    normalizeSource text = text := by
  have hall : ∀ c ∈ text, c ≠ '\r' ∧ c.toNat ≠ 0 := by
    simpa [isUniform] using h
  have hkept : ∀ c ∈ text, (if c.toNat = 0 then Char.ofNat 0xFFFD else c) = c := fun c hc =>
    if_neg (hall c hc).2
  rw [normalizeSource, uniformLines_eq_self fun hmem => (hall _ hmem).1 rfl,
    List.map_congr_left hkept, List.map_id']

/-- The lines of a text that ends with a line feed. -/
theorem sourceLines_append_lineFeed (text : List Char) :
    sourceLines (text ++ ['\n']) = (splitLines text).map fun line => Line.ofText line true := by
  rw [sourceLines, splitLines_append_lineFeed]
  have happend (lines : List (List Char)) :
      linesOfTexts (lines ++ [[]]) = lines.map fun line => Line.ofText line true := by
    induction lines with
    | nil => rfl
    | cons line lines ih =>
      rw [List.cons_append, linesOfTexts, ih, List.map_cons]
      exact List.append_ne_nil_of_right_ne_nil lines (List.cons_ne_nil [] [])
  exact happend (splitLines text)

theorem renderDocument_eq {cs : List Node} (hends : EndsVisibly (bodyText cs))
    (hhead : (bodyText cs).head? ≠ some '\n') : renderDocument cs = bodyText cs ++ ['\n'] := by
  obtain ⟨c, hc, hblank⟩ := hends
  have hall : allBlank (bodyText cs) = false :=
    List.all_eq_false.mpr ⟨c, List.mem_of_getLast? hc, by rw [hblank]; exact Bool.false_ne_true⟩
  have htrim : trimBoth isLineFeed (bodyText cs) = bodyText cs := by
    refine trimBoth_eq_self (fun d hd => beq_eq_false_iff_ne.mpr ?_) fun d hd =>
      beq_eq_false_iff_ne.mpr ?_
    · rintro rfl
      exact hhead hd
    · obtain rfl := Option.some.inj (hc.symm.trans hd)
      exact ne_lineFeed_of_isBlank hblank
  change (if allBlank (bodyText cs) then [] else trimBoth isLineFeed (bodyText cs) ++ ['\n']) = _
  rw [hall, if_neg Bool.false_ne_true, htrim]

/-- **A document of plain blocks is read back as the tree that was written.** -/
theorem Node.read_render {tree : Node} (h : tree.isPlainDocument = true) :
    Node.read tree.render = tree := by
  match tree with
  | .branch .root cs =>
    simp only [Node.isPlainDocument, Bool.and_eq_true] at h
    obtain ⟨hplain, huniform⟩ := h
    obtain ⟨blocks, hblocks⟩ := exists_standsFor_all cs hplain
    have hread : readSource (renderDocument cs) = blocks := by
      cases hblocks with
      | nil => rfl
      | @cons c block cs blocks hc hcs =>
        have hblocks := List.Forall₂.cons hc hcs
        have hends := endsVisibly_bodyText hplain hblocks (List.cons_ne_nil c cs)
        rw [readSource, renderDocument_eq hends (head?_bodyText hplain hblocks),
          sourceLines_append_lineFeed]
        refine (readsContent_bodyText hplain hblocks _ ?_).1
        exact List.forall₂_map_left_iff.mpr (List.forall₂_same.mpr fun line _ => shows_ofText line)
    rw [Node.read, Node.render, Node.children, String.toList_ofList, readDocument,
      normalizeSource_eq_self huniform, hread, definitions_of_standsFor hblocks, Document.node]
    exact congrArg Node.root (blockNodes_of_standsFor hblocks)

/-- **Writing a document again preserves it**: what is read from a text, if it is a document of
plain blocks, is read again from the text that is written for it. -/
theorem read_render_read (text : String) (h : (Node.read text).isPlainDocument = true) :
    Node.read (Node.read text).render = Node.read text :=
  Node.read_render h

/-- A heading and a paragraph with marks that are text, and code in a quotation. -/
def escapedSample : String :=
  "# No \\*mark\\*\n\nSome \x60code\x60\\\n\\# text\n\n" ++
    "> > \x60\x60\x60lean\n> > x\n> > \x60\x60\x60\n"

/-- The marks stay text. -/
theorem read_render_read_escapedSample :
    Node.read (Node.read escapedSample).render = Node.read escapedSample ∧
      (Node.read escapedSample).children.head? =
        some (.heading .one [.text "No *mark*"]) :=
  ⟨read_render_read escapedSample (by decide +kernel), by decide +kernel⟩

/-- **Emphasis beside emphasis is not preserved.**  Both are written with asterisks, whose runs
meet, and are read back as one, in which the inner asterisks are text. -/
theorem read_render_read_adjacentEmphasis :
    Node.read "*a*_b_\n" = .root [.paragraph [.emphasis [.text "a"], .emphasis [.text "b"]]] ∧
      (Node.read "*a*_b_\n").render = "*a**b*\n" ∧
      Node.read "*a**b*\n" = .root [.paragraph [.emphasis [.text "a**b"]]] ∧
      Node.read (Node.read "*a*_b_\n").render ≠ Node.read "*a*_b_\n" := by
  decide +kernel

end TaskNotes
