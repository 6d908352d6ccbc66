/-
# Reading plain blocks

Blocks that are not nested in lists are read line by line from a margin of no width (`Shows`), at
the start of a document as inside quotations.  Each kind of block is read from its lines up to an
empty one (`readsBlock_paragraph`, `readsBlock_heading`, `readsBlock_rule`, `readsBlock_fenced`,
`readsBlock_quotation`), and so are blocks that stand one after the other (`readAll_blocks`).

A line carries its own margin and the column where it begins, because tabs and containers make
these differ from what its text shows.  For the lines of plain documents all this comes down to the
text (`Shows`), and so the lemmas speak of texts.

The content of a quotation is read by the same reader one level further in.  A lemma about a block
therefore leaves the reader of quotations open, and the readers, each for containers so deep, are
put in when blocks are put together.

Items of lists do not turn up among plain blocks, so their reader is left open altogether.
-/
import TaskNotes.Proofs.QuietLines

namespace TaskNotes

namespace Markup

/-! ## 1. Lines and what they show

Behind the mark of a quotation a line shows what it was quoted for; this is the only step inwards
that is needed. -/

/-- Whether a line, seen from inside its containers, shows a text, with a line feed behind it. -/
structure Shows (line : Line) (text : List Char) : Prop where
  text_eq : line.text = text
  margin_eq : line.margin = (text.takeWhile isSpaceOrTab).length
  indent_nonneg : 0 ≤ line.indent
  indent_eq : (∀ c ∈ text.head?, isSpaceOrTab c = false) → line.indent = 0
  ended : line.ended = true

section

variable {line : Line} {text : List Char} {c : Char} {rest : List Char}

theorem blanksFrom_fst (column : Nat) (text : List Char) :
    (blanksFrom column text).1 = (text.takeWhile isSpaceOrTab).length := by
  induction text generalizing column with
  | nil => rfl
  | cons c text ih =>
    rw [blanksFrom, List.takeWhile_cons]
    split
    · rw [List.length_cons, ← ih (columnAfter column c)]
    · rfl

theorem blanksFrom_snd {text : List Char} (h : ∀ c ∈ text.head?, isSpaceOrTab c = false)
    (column : Nat) : (blanksFrom column text).2 = column := by
  cases text with
  | nil => rfl
  | cons c text => rw [blanksFrom, h c rfl, if_neg Bool.false_ne_true]

theorem shows_ofText (text : List Char) : Shows (Line.ofText text true) text where
  text_eq := rfl
  margin_eq := blanksFrom_fst 0 text
  indent_nonneg := Int.natCast_nonneg _
  indent_eq := fun h => congrArg Int.ofNat (blanksFrom_snd h 0)
  ended := rfl

namespace Shows

theorem body_eq (h : Shows line text) : line.body = text.dropWhile isSpaceOrTab := by
  have hwhole : text.takeWhile isSpaceOrTab ++ text.dropWhile isSpaceOrTab = text :=
    List.takeWhile_append_dropWhile
  calc line.body = text.drop (text.takeWhile isSpaceOrTab).length := by
        rw [Line.body, h.text_eq, h.margin_eq]
    _ = (text.takeWhile isSpaceOrTab ++ text.dropWhile isSpaceOrTab).drop
        (text.takeWhile isSpaceOrTab).length := by rw [hwhole]
    _ = text.dropWhile isSpaceOrTab := List.drop_left

theorem cut_eq (h : Shows line text) : line.cut 0 = text := by
  rw [Line.cut, h.text_eq]
  cases text with
  | nil => rfl
  | cons c text =>
    rw [Line.cutFrom, if_pos (Nat.zero_le _)]
    rfl

theorem body_of_head (h : Shows line text) (hhead : ∀ c ∈ text.head?, isSpaceOrTab c = false) :
    line.body = text := by
  rw [h.body_eq]
  cases text with
  | nil => rfl
  | cons c text => rw [List.dropWhile_cons, hhead c rfl, if_neg Bool.false_ne_true]

/-- **Behind the mark of a quotation a line shows what it was quoted for.** -/
theorem quoted (h : Shows line (quoteLine text)) : Shows line.quoted text := by
  have hbody : line.body = quoteLine text := h.body_of_head <| by
    intro c hc
    rw [quoteLine] at hc
    split at hc
    · obtain rfl := Option.some.inj hc
      decide
    · obtain rfl := Option.some.inj hc
      decide
  have hinside (start blank : Nat) : Shows
      ⟨text, (blanksFrom start text).1, ((blanksFrom start text).2 - start : Nat), blank,
        line.ended⟩ text := by
    refine ⟨rfl, blanksFrom_fst start text, Int.natCast_nonneg _, fun hhead => ?_, h.ended⟩
    rw [blanksFrom_snd hhead, Nat.sub_self]
    rfl
  cases text with
  | nil =>
    have hquoted : line.body.drop 1 = [] := by rw [hbody]; rfl
    rw [Line.quoted]
    dsimp only
    rw [hquoted]
    exact hinside _ _
  | cons c text =>
    have hquoted : line.body.drop 1 = ' ' :: c :: text := by rw [hbody]; rfl
    rw [Line.quoted]
    dsimp only
    rw [hquoted]
    exact hinside _ _

/-- A line that does not begin with a blank. -/
theorem indent_of_head (h : Shows line text) (hhead : ∀ c ∈ text.head?, isSpaceOrTab c = false) :
    Context.top.isCode line = false := by
  rw [Context.isCode, h.indent_eq hhead]
  decide

theorem isBlank_eq_false (h : Shows line text) (hne : text ≠ [])
    (hhead : ∀ c ∈ text.head?, isSpaceOrTab c = false) : line.isBlank = false := by
  rw [Line.isBlank, h.body_of_head hhead]
  exact List.isEmpty_eq_false_iff.mpr hne

theorem isBlank_of_nil (h : Shows line []) : line.isBlank = true := by
  rw [Line.isBlank, h.body_eq]
  rfl

theorem isBareEnd_eq_false (h : Shows line text) : line.isBareEnd = false := by
  rw [Line.isBareEnd, h.ended, Bool.not_true, Bool.and_false]

theorem not_indent_lt (h : Shows line text) : ¬line.indent < Context.top.indent :=
  Int.not_lt.mpr h.indent_nonneg

end Shows

end

/-- Lines that show the texts of two lists are those of the first and then those of the second. -/
theorem exists_append_of_forall₂ {lines : List Line} {texts others : List (List Char)}
    (h : List.Forall₂ Shows lines (texts ++ others)) :
    ∃ first second, lines = first ++ second ∧ List.Forall₂ Shows first texts ∧
      List.Forall₂ Shows second others :=
  ⟨lines.take texts.length, lines.drop texts.length, (List.take_append_drop _ _).symm,
    List.forall₂_take_append _ _ _ h, List.forall₂_drop_append _ _ _ h⟩

/-! ## 2. Blocks

A block is read up to where it stops, whatever follows there.  Where plain blocks stop, an empty
line follows or nothing at all. -/

/-- Whether the blocks above end here: nothing follows, or an empty line. -/
def StopsHere (after : List Line) : Prop := ∀ line ∈ after.head?, line.isBlank = true

/-- Whether a text begins a block: it is not empty and does not begin with a blank. -/
structure BeginsBlock (text : List Char) : Prop where
  ne_nil : text ≠ []
  head : ∀ c ∈ text.head?, isSpaceOrTab c = false

variable {quotation item : Context → List Line → Reading}

/-- Whether lines that show some texts are read as a block, up to an empty line. -/
structure ReadsBlock (quotation item : Context → List Line → Reading) (texts : List (List Char))
    (block : SourceBlock) : Prop where
  begins : ∃ first others, texts = first :: others ∧ BeginsBlock first
  reads : ∀ {line more after}, List.Forall₂ Shows (line :: more) texts → StopsHere after →
    Context.top.readBlock quotation item line (more ++ after) = (block, after)

section

variable {line : Line} {more after : List Line} {text first : List Char}
  {texts others : List (List Char)} {what : Interrupted}

/-! ### Paragraphs -/

theorem itemMarker?_of_quiet (hline : Shows line text) (hquiet : Quiet text)
    (htext : BeginsBlock text) : Context.top.itemMarker? line = none := by
  rw [Context.itemMarker?, hline.body_of_head htext.head, hquiet.item, ite_self]

theorem interrupts_of_quiet (hline : Shows line text) (hquiet : Quiet text)
    (htext : BeginsBlock text) : Context.top.interrupts what line = false := by
  have hends : Context.top.endsItems line = false := by
    rw [Context.endsItems, hline.body_of_head htext.head, hquiet.fence, hquiet.rule,
      beq_eq_false_iff_ne.mpr hquiet.quotation]
    exact Bool.and_false _
  have hlist : Context.top.beginsList what line = false := by
    rw [Context.beginsList, itemMarker?_of_quiet hline hquiet htext]
  rw [Context.interrupts, hends, hlist, hline.body_of_head htext.head, hquiet.html, hquiet.heading]
  exact Bool.and_false _

theorem continues_of_quiet (hline : Shows line text) (hquiet : Quiet text)
    (htext : BeginsBlock text) : Context.top.continues what line = true := by
  rw [Context.continues, hline.isBlank_eq_false htext.ne_nil htext.head,
    interrupts_of_quiet hline hquiet htext]
  simp

theorem takeWhile_continues (hmore : List.Forall₂ Shows more others)
    (hothers : ∀ text ∈ others, Quiet text ∧ BeginsBlock text) (hafter : StopsHere after) :
    (more ++ after).takeWhile (Context.top.continues what) = more := by
  induction hmore with
  | nil =>
    cases after with
    | nil => rfl
    | cons line after =>
      rw [List.nil_append, List.takeWhile_cons, Context.continues, hafter line rfl]
      rfl
  | @cons line text more others hline _ ih =>
    obtain ⟨hquiet, htext⟩ := hothers text List.mem_cons_self
    rw [List.cons_append, List.takeWhile_cons, continues_of_quiet hline hquiet htext, if_pos rfl,
      ih fun text hmem => hothers text (List.mem_cons_of_mem _ hmem)]

theorem underlined?_eq_none (hmore : List.Forall₂ Shows more others)
    (hothers : ∀ text ∈ others, Quiet text ∧ BeginsBlock text) (hafter : StopsHere after) :
    Context.top.underlined? (more ++ after) = none := by
  induction hmore with
  | nil =>
    cases after with
    | nil => rfl
    | cons line after =>
      rw [List.nil_append, Context.underlined?]
      dsimp only
      rw [if_pos (hafter line rfl)]
  | @cons line text more others hline _ ih =>
    obtain ⟨hquiet, htext⟩ := hothers text List.mem_cons_self
    rw [List.cons_append, Context.underlined?,
      ih fun text hmem => hothers text (List.mem_cons_of_mem _ hmem)]
    dsimp only
    rw [hline.isBlank_eq_false htext.ne_nil htext.head, hline.indent_of_head htext.head,
      hline.body_of_head htext.head, hquiet.underline, ite_self,
      interrupts_of_quiet hline hquiet htext]
    simp

theorem cutLines_eq (hmore : List.Forall₂ Shows more others) :
    cutLines 0 more = joinLines others := by
  have hmap : more.map (Line.cut 0) = others := by
    induction hmore with
    | nil => rfl
    | cons hline _ ih => rw [List.map_cons, hline.cut_eq, ih]
  rw [cutLines, hmap]

/-- A line feed behind a text ends no label. -/
theorem definitionLabel?_append_lineFeed (cs : List Char) :
    definitionLabel? (cs ++ ['\n']) =
      (definitionLabel? cs).map fun (label, after) => (label, after ++ ['\n']) := by
  match cs with
  | [] => rfl
  | [c] =>
    rw [List.singleton_append, definitionLabel?, definitionLabel?]
    by_cases hopen : c = '['
    · rw [hopen]
      rfl
    by_cases hclose : c = ']'
    · rw [hclose]
      rfl
    rw [if_neg hopen, if_neg hclose, if_neg hclose]
    split <;> rfl
  | c :: d :: rest =>
    rw [List.cons_append, List.cons_append, definitionLabel?, definitionLabel?]
    split
    · rfl
    split
    · rfl
    split
    · rw [definitionLabel?_append_lineFeed rest, Option.map_map, Option.map_map]
      rfl
    · rw [← List.cons_append, definitionLabel?_append_lineFeed (d :: rest), Option.map_map,
        Option.map_map]
      rfl

/-- Whether no label of a definition begins a text. -/
def BeginsNoLabel (text : List Char) : Prop :=
  ∀ inside label after, text = '[' :: inside → definitionLabel? inside = some (label, after) →
    after.head? ≠ some ':'

theorem definition?_eq_none (h : BeginsNoLabel text) : definition? (text ++ ['\n']) = none := by
  unfold definition?
  split
  next inside heq =>
    cases text with
    | nil => exact absurd (List.cons.inj heq).1 (by decide)
    | cons c text =>
      obtain ⟨rfl, rfl⟩ := List.cons.inj heq
      split
      next label after hlabel =>
        change definitionLabel? (text ++ ['\n']) = _ at hlabel
        rw [definitionLabel?_append_lineFeed] at hlabel
        obtain ⟨⟨label', after'⟩, hfound, hpair⟩ := Option.map_eq_some_iff.mp hlabel
        have hafter : after' ++ ['\n'] = ':' :: after := (Prod.mk.inj hpair).2
        refine absurd ?_ (h text label' after' rfl hfound)
        cases after' with
        | nil => exact absurd (List.cons.inj hafter).1 (by decide)
        | cons d after' => exact congrArg some (List.cons.inj hafter).1
      next => rfl
  next => rfl

theorem definitionText_eq (hlines : List.Forall₂ Shows more texts)
    (htexts : ∀ text ∈ texts, BeginsBlock text) :
    definitionText more = texts.flatMap (· ++ ['\n']) := by
  induction hlines with
  | nil => rfl
  | @cons line text more texts hline _ ih =>
    have ih := ih fun text hmem => htexts text (List.mem_cons_of_mem _ hmem)
    rw [definitionText] at ih ⊢
    rw [List.flatMap_cons, List.flatMap_cons, ih,
      hline.body_of_head (htexts text List.mem_cons_self).head, hline.ended, if_pos rfl]

theorem readDefinition?_eq_none (hlines : List.Forall₂ Shows (line :: more) (first :: others))
    (htexts : ∀ text ∈ first :: others, Quiet text ∧ BeginsBlock text) (hafter : StopsHere after)
    (hlabel : BeginsNoLabel (joinLines (first :: others))) :
    Context.top.readDefinition? line (more ++ after) = none := by
  obtain ⟨hline, hmore⟩ := List.forall₂_cons.mp hlines
  rw [Context.readDefinition?]
  split
  · rw [takeWhile_continues hmore
      (fun text hmem => htexts text (List.mem_cons_of_mem _ hmem)) hafter,
      definitionText_eq hlines fun text hmem => (htexts text hmem).2,
      flatMap_lineFeed (List.cons_ne_nil _ _)]
    dsimp only
    rw [definition?_eq_none hlabel]
    rfl
  · rfl

/-- **Quiet lines are read as a paragraph.** -/
theorem readsBlock_paragraph (htexts : ∀ text ∈ first :: others, Quiet text ∧ BeginsBlock text)
    (hlabel : BeginsNoLabel (joinLines (first :: others))) :
    ReadsBlock quotation item (first :: others)
      (.paragraph (trimSpacing (joinLines (first :: others)))) where
  begins := ⟨first, others, rfl, (htexts first List.mem_cons_self).2⟩
  reads := by
    intro line more after hlines hafter
    obtain ⟨hline, hmore⟩ := List.forall₂_cons.mp hlines
    obtain ⟨hquiet, htext⟩ := htexts first List.mem_cons_self
    have hothers : ∀ text ∈ others, Quiet text ∧ BeginsBlock text := fun text hmem =>
      htexts text (List.mem_cons_of_mem _ hmem)
    rw [Context.readBlock, hline.indent_of_head htext.head, if_neg Bool.false_ne_true,
      hline.body_of_head htext.head, hquiet.fence]
    dsimp only
    rw [if_neg hquiet.quotation, hquiet.rule, if_neg Bool.false_ne_true,
      itemMarker?_of_quiet hline hquiet htext]
    dsimp only
    rw [readDefinition?_eq_none hlines htexts hafter hlabel, hquiet.html]
    dsimp only
    rw [hquiet.heading, underlined?_eq_none hmore hothers hafter]
    dsimp only
    rw [takeWhile_continues hmore hothers hafter, List.drop_left, Context.paragraphText]
    rw [show Context.top.indent = 0 from rfl, cutLines_eq hlines]

/-! ### Headings and rules -/

/-- **A line of hashes and a text is read as a heading.** -/
theorem readsBlock_heading {depth : Depth} {content : List Char}
    (h : atxHeading? ('#' :: text) = some (depth, content)) :
    ReadsBlock quotation item ['#' :: text] (.heading depth content) := by
  have hhead : ∀ c ∈ ('#' :: text).head?, isSpaceOrTab c = false := by
    intro c hc
    obtain rfl := Option.some.inj hc
    decide
  refine ⟨?_, ?_⟩
  · exact ⟨_, _, rfl, List.cons_ne_nil _ _, hhead⟩
  · intro line more after hlines _
    obtain ⟨hline, hmore⟩ := List.forall₂_cons.mp hlines
    cases hmore
    have hitem : Context.top.itemMarker? line = none := by
      rw [Context.itemMarker?, hline.body_of_head hhead,
        listMarker?_eq_none (by decide) (by decide), ite_self]
    have hdefinition : Context.top.readDefinition? line after = none := by
      rw [Context.readDefinition?, hline.body_of_head hhead, if_neg]
      exact fun hbracket => absurd (Option.some.inj hbracket) (by decide)
    have hquote : ('#' :: text).head? ≠ some '>' := fun hquote =>
      absurd (Option.some.inj hquote) (by decide)
    rw [List.nil_append, Context.readBlock, hline.indent_of_head hhead, if_neg Bool.false_ne_true,
      hline.body_of_head hhead, fence?_eq_none (by decide) (by decide)]
    dsimp only
    rw [if_neg hquote, isRule_eq_false (by decide), if_neg Bool.false_ne_true, hitem]
    dsimp only
    rw [hdefinition, ofLine?_eq_none (by decide)]
    dsimp only
    rw [h]

/-- **A line of asterisks is read as a rule.** -/
theorem readsBlock_rule : ReadsBlock quotation item [['*', '*', '*']] .rule := by
  have hhead : ∀ c ∈ ['*', '*', '*'].head?, isSpaceOrTab c = false := by decide
  refine ⟨?_, ?_⟩
  · exact ⟨_, _, rfl, List.cons_ne_nil _ _, hhead⟩
  · intro line more after hlines _
    obtain ⟨hline, hmore⟩ := List.forall₂_cons.mp hlines
    cases hmore
    rw [List.nil_append, Context.readBlock, hline.indent_of_head hhead, if_neg Bool.false_ne_true,
      hline.body_of_head hhead]
    rfl

/-! ### Fenced code -/

variable {fence : Fence} {closing : List Char}

/-- The lines up to the one that closes a fence. -/
theorem splitFence_append (hmore : List.Forall₂ Shows more others)
    (hopen : ∀ text ∈ others, fence.closedBy (text.dropWhile isSpaceOrTab) = false)
    (hline : Shows line closing) (hhead : ∀ c ∈ closing.head?, isSpaceOrTab c = false)
    (hclosed : fence.closedBy closing = true) :
    Context.top.splitFence fence (more ++ line :: after) = (more, after) := by
  induction hmore with
  | nil =>
    rw [List.nil_append, Context.splitFence, decide_eq_false hline.not_indent_lt,
      hline.isBareEnd_eq_false, hline.indent_of_head hhead, hline.body_of_head hhead, hclosed]
    simp
  | @cons first text more others hfirst _ ih =>
    have hnot := hopen text List.mem_cons_self
    rw [List.cons_append, Context.splitFence, decide_eq_false hfirst.not_indent_lt,
      hfirst.isBareEnd_eq_false, hfirst.body_eq, hnot,
      ih fun text hmem => hopen text (List.mem_cons_of_mem _ hmem)]
    simp

theorem flatMap_cutEnded (hmore : List.Forall₂ Shows more others) :
    more.flatMap (Line.cutEnded 0) = others.flatMap (· ++ ['\n']) := by
  induction hmore with
  | nil => rfl
  | @cons line text more others hline _ ih =>
    rw [List.flatMap_cons, List.flatMap_cons, ih, Line.cutEnded, hline.cut_eq, hline.ended,
      if_pos rfl]

/-- **Lines between fences are read as code**, if none of them closes the fence. -/
theorem readsBlock_fenced (hfirst : BeginsBlock first) (hfence : fence? first = some fence)
    (hopen : ∀ text ∈ others, fence.closedBy (text.dropWhile isSpaceOrTab) = false)
    (hhead : ∀ c ∈ closing.head?, isSpaceOrTab c = false)
    (hclosed : fence.closedBy closing = true) :
    ReadsBlock quotation item (first :: others ++ [closing])
      (.fencedCode fence.info (others.flatMap (· ++ ['\n']))) := by
  refine ⟨?_, ?_⟩
  · exact ⟨_, _, rfl, hfirst⟩
  · intro line more after hlines _
    obtain ⟨hline, hmore⟩ := List.forall₂_cons.mp hlines
    obtain ⟨inside, last, rfl, hinside, hlast⟩ := exists_append_of_forall₂ hmore
    obtain ⟨last, rfl⟩ : ∃ l, last = [l] := by
      cases hlast with
      | cons _ hnil =>
        cases hnil
        exact ⟨_, rfl⟩
    have hlast : Shows last closing := (List.forall₂_cons.mp hlast).1
    rw [Context.readBlock, hline.indent_of_head hfirst.head, if_neg Bool.false_ne_true,
      hline.body_of_head hfirst.head, hfence]
    dsimp only
    rw [List.append_assoc, List.singleton_append,
      splitFence_append hinside hopen hlast hhead hclosed, hline.indent_eq hfirst.head]
    dsimp only
    rw [Int.toNat_zero, flatMap_cutEnded hinside]

/-! ### Quotations -/

/-- Whether a reader of the content of quotations reads lines that show some texts as blocks. -/
def ReadsContent (quotation : Context → List Line → Reading) (texts : List (List Char))
    (blocks : List SourceBlock) : Prop :=
  ∀ lines, List.Forall₂ Shows lines texts →
    (quotation .top lines).blocks = blocks ∧ (quotation .top lines).rest = []

theorem head?_quoteLine (text : List Char) : (quoteLine text).head? = some '>' := by
  rw [quoteLine]
  split <;> rfl

theorem beginsBlock_quoteLine (text : List Char) : BeginsBlock (quoteLine text) := by
  refine ⟨?_, ?_⟩
  · intro hnil
    have hhead := head?_quoteLine text
    rw [hnil] at hhead
    cases hhead
  · intro c hc
    rw [head?_quoteLine] at hc
    obtain rfl := Option.some.inj hc
    decide

theorem quotedLines_append (hmore : List.Forall₂ Shows more (others.map quoteLine))
    (hafter : StopsHere after) (afterBlank : Bool) :
    Context.top.quotedLines afterBlank (more ++ after) = more.map Line.quoted := by
  induction others generalizing more afterBlank with
  | nil =>
    cases hmore
    cases after with
    | nil => rfl
    | cons line after =>
      rw [List.nil_append, Context.quotedLines, if_pos (hafter line rfl)]
      rfl
  | cons text others ih =>
    obtain ⟨line, lines, hline, hlines, rfl⟩ := List.forall₂_cons_right_iff.mp hmore
    have htext := beginsBlock_quoteLine text
    have hindent : Context.top.indent ≤ line.indent := hline.indent_nonneg
    rw [List.cons_append, Context.quotedLines, hline.isBlank_eq_false htext.ne_nil htext.head,
      hline.body_of_head htext.head, head?_quoteLine, decide_eq_true hindent, ih hlines]
    simp

/-- **Lines behind marks are read as a quotation.** -/
theorem readsBlock_quotation {blocks : List SourceBlock}
    (hcontent : ReadsContent quotation (first :: others) blocks) :
    ReadsBlock quotation item ((first :: others).map quoteLine) (.quotation blocks) := by
  have hfirst := beginsBlock_quoteLine first
  refine ⟨?_, ?_⟩
  · exact ⟨_, _, rfl, hfirst⟩
  · intro line more after hlines hafter
    obtain ⟨hline, hmore⟩ := List.forall₂_cons.mp hlines
    have hinside : List.Forall₂ Shows ((line :: more).map Line.quoted) (first :: others) :=
      List.forall₂_map_left_iff.mpr
        ((List.forall₂_map_right_iff.mp hlines).imp fun _ _ => Shows.quoted)
    obtain ⟨hblocks, hrest⟩ := hcontent _ hinside
    obtain ⟨rest, hquote⟩ := List.head?_eq_some_iff.mp (head?_quoteLine first)
    have hfence : fence? (quoteLine first) = none := by
      rw [hquote]
      exact fence?_eq_none (by decide) (by decide)
    rw [Context.readBlock, hline.indent_of_head hfirst.head, if_neg Bool.false_ne_true,
      hline.body_of_head hfirst.head, hfence]
    dsimp only
    rw [if_pos (head?_quoteLine first), quotedLines_append hmore hafter]
    rw [List.map_cons] at hblocks hrest
    change (Block.quotation (quotation .top _).blocks,
      List.drop (_ - (quotation .top _).rest.length) _) = _
    rw [hblocks, hrest, List.length_nil, Nat.sub_zero, List.length_cons, List.length_map,
      ← List.length_cons (a := line), ← List.cons_append, List.drop_left]

end

/-! ## 3. Blocks one after the other

The reader goes on behind each block, so the induction is on the list of blocks, with its fuel
above their number. -/

/-- The lines of blocks that stand apart by an empty one. -/
def blockLines : List (List (List Char)) → List (List Char)
  | [] => []
  | [texts] => texts
  | texts :: next :: others => texts ++ [] :: blockLines (next :: others)

section

variable {lines : List Line} {textss : List (List (List Char))} {blocks : List SourceBlock}
  {fuel : Nat}

theorem dropWhile_isBlank {line : Line} {more : List Line} (h : line.isBlank = false) :
    (line :: more).dropWhile Line.isBlank = line :: more := by
  rw [List.dropWhile_cons, h, if_neg Bool.false_ne_true]

/-- One block, and the reading of what follows it. -/
theorem readAll_step {texts : List (List Char)} {block : SourceBlock}
    (hblock : ReadsBlock quotation item texts block) {first after : List Line}
    (hfirst : List.Forall₂ Shows first texts) (hafter : StopsHere after)
    (fuel : Nat) (afterBlank tight : Bool) :
    ∃ afterBlank', Context.top.readAll quotation item (fuel + 1) afterBlank tight (first ++ after) =
      let later := Context.top.readAll quotation item fuel afterBlank' (!afterBlank) (after.drop 1)
      { later with blocks := block :: later.blocks } := by
  obtain ⟨text, others, rfl, htext⟩ := hblock.begins
  obtain ⟨line, more, hline, hmore, rfl⟩ := List.forall₂_cons_right_iff.mp hfirst
  have hread := hblock.reads hfirst hafter
  rw [List.cons_append, Context.readAll,
    dropWhile_isBlank (hline.isBlank_eq_false htext.ne_nil htext.head)]
  dsimp only
  rw [if_neg hline.not_indent_lt, hread]
  dsimp only
  have hrest : (if (after.head?.map Line.isBlank).getD false = true then after.drop 1 else after) =
      after.drop 1 := by
    cases after with
    | nil => rfl
    | cons line after => exact if_pos (hafter line rfl)
  rw [hrest]
  exact ⟨_, rfl⟩

/-- **Blocks that stand apart are read one by one.** -/
theorem readAll_blocks (h : List.Forall₂ (ReadsBlock quotation item) textss blocks)
    (hlines : List.Forall₂ Shows lines (blockLines textss)) (hfuel : textss.length < fuel)
    (afterBlank tight : Bool) :
    (Context.top.readAll quotation item fuel afterBlank tight lines).blocks = blocks ∧
      (Context.top.readAll quotation item fuel afterBlank tight lines).rest = [] := by
  induction h generalizing lines fuel afterBlank tight with
  | nil =>
    obtain ⟨fuel, rfl⟩ := Nat.exists_eq_add_of_lt hfuel
    cases hlines
    exact ⟨rfl, rfl⟩
  | @cons texts block textss blocks hblock hothers ih =>
    obtain ⟨fuel, rfl⟩ : ∃ n, fuel = n + 1 := ⟨fuel - 1, by omega⟩
    have hfuel' : textss.length < fuel := Nat.lt_of_succ_lt_succ hfuel
    obtain ⟨first, after, rfl, hfirst, hafter, hrest⟩ : ∃ first after, lines = first ++ after ∧
        List.Forall₂ Shows first texts ∧ StopsHere after ∧
          List.Forall₂ Shows (after.drop 1) (blockLines textss) := by
      cases textss with
      | nil => exact ⟨lines, [], (List.append_nil _).symm, hlines, nofun, .nil⟩
      | cons next others =>
        obtain ⟨first, after, rfl, hfirst, hafter⟩ := exists_append_of_forall₂ hlines
        obtain ⟨blank, second, hblank, hsecond, rfl⟩ := List.forall₂_cons_right_iff.mp hafter
        refine ⟨first, blank :: second, rfl, hfirst, ?_, hsecond⟩
        intro line hline
        obtain rfl := Option.some.inj hline
        exact hblank.isBlank_of_nil
    obtain ⟨afterBlank', hstep⟩ := readAll_step hblock hfirst hafter fuel afterBlank tight
    obtain ⟨hblocks, hleft⟩ := ih hrest hfuel' afterBlank' (!afterBlank)
    rw [hstep]
    dsimp only
    exact ⟨by rw [hblocks], hleft⟩

/-- The readers of containers in a container that may hold others so deep. -/
theorem readBlocks_succ (depth : Nat) (ctx : Context) (lines : List Line) :
    readBlocks (depth + 1) ctx lines = ctx.readAll (readBlocks depth) (readBlocks (depth - 1))
      (lines.length + 1) false true lines := by
  cases depth with
  | zero => rfl
  | succ depth => rfl

theorem length_le_blockLines (h : List.Forall₂ (ReadsBlock quotation item) textss blocks) :
    textss.length ≤ (blockLines textss).length := by
  induction h with
  | nil => exact Nat.le_refl 0
  | @cons texts block textss blocks hblock _ ih =>
    obtain ⟨first, others, rfl, -⟩ := hblock.begins
    cases textss with
    | nil => simp [blockLines]
    | cons next textss =>
      simp only [blockLines, List.length_cons, List.length_append] at ih ⊢
      omega

/-- **The reader of a container reads blocks that stand apart.** -/
theorem readsContent_blocks {depth : Nat}
    (h : List.Forall₂ (ReadsBlock (readBlocks depth) (readBlocks (depth - 1))) textss blocks) :
    ReadsContent (readBlocks (depth + 1)) (blockLines textss) blocks := by
  intro lines hlines
  have hlength := length_le_blockLines h
  rw [← hlines.length_eq] at hlength
  rw [readBlocks_succ]
  exact readAll_blocks h hlines (Nat.lt_succ_of_le hlength) false true

end

end Markup

end TaskNotes
