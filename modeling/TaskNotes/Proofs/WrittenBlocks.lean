/-
# Written blocks are read back

A paragraph, a heading, a rule and fenced code are written in lines from which the reader finds the
same block again (`readsBlock_renderParagraph`, `readsBlock_renderHeading`,
`readsBlock_renderCode`), and the source that it finds in a paragraph or heading is the one that was
written.

Some sources are not read back, and each is left out by a condition that says so.  The lines of a
paragraph must not begin or end with blanks, which layout takes away, nor be made of hyphens
(`isTidyLine`); a title must not end with hashes that stand apart, which count as decoration
(`isTidyTitle`); and an info string must not begin with a tilde, which would belong to the fence
(`isTidyInfo`).

Each condition is a Boolean function of the source, so it can be evaluated for a document at hand.
The renderer knows nothing of them.

The fence around code is longer than every run of its mark in the code, so no line of the code can
close it, whatever the code is.  It is made of tildes if the info string holds a backtick, since a
fence of backticks may have none behind it.
-/
import TaskNotes.Proofs.PlainBlocks
import TaskNotes.Proofs.Blank

namespace TaskNotes

open Markup

/-! ## 1. Trimming what is trimmed

Blanks, spaces and tabs, and line feeds are trimmed by the same function with another test. -/

section

variable {p : Char → Bool} {cs line : List Char}

theorem dropEndWhile_eq_self (h : ∀ c ∈ cs.getLast?, p c = false) : dropEndWhile p cs = cs := by
  rw [dropEndWhile, dropWhile_eq_self, List.reverse_reverse]
  rwa [List.head?_reverse]

theorem trimBoth_eq_self (hhead : ∀ c ∈ cs.head?, p c = false)
    (hlast : ∀ c ∈ cs.getLast?, p c = false) : trimBoth p cs = cs := by
  rw [trimBoth, dropWhile_eq_self hhead, dropEndWhile_eq_self hlast]

theorem isSpacing_eq_false_of_isBlank {c : Char} (h : isBlank c = false) : isSpacing c = false := by
  simp only [isBlank, isSpacing, Bool.or_eq_false_iff, Bool.and_eq_false_iff,
    decide_eq_false_iff_not, beq_eq_false_iff_ne] at h ⊢
  omega

theorem isSpaceOrTab_eq_false_of_isBlank {c : Char} (h : isBlank c = false) :
    isSpaceOrTab c = false := by
  by_contra hspace
  rw [Bool.not_eq_false] at hspace
  rw [isBlank_of_isSpaceOrTab hspace] at h
  cases h

theorem ne_lineFeed_of_isBlank {c : Char} (h : isBlank c = false) : c ≠ '\n' := by
  rintro rfl
  cases h

/-! ## 2. Tidy lines

The form of the lines of a paragraph, and that lines of this form are left as they are by
everything that lays out a text. -/

/-- Whether a text neither begins nor ends with a blank. -/
structure IsTrimmed (cs : List Char) : Prop where
  head : ∀ c ∈ cs.head?, isBlank c = false
  last : ∀ c ∈ cs.getLast?, isBlank c = false

instance (cs : List Char) : Decidable (IsTrimmed cs) :=
  decidable_of_iff
    ((∀ c ∈ cs.head?, isBlank c = false) ∧ ∀ c ∈ cs.getLast?, isBlank c = false)
    ⟨fun h => ⟨h.1, h.2⟩, fun h => ⟨h.head, h.last⟩⟩

theorem IsTrimmed.trimSpacing_eq (h : IsTrimmed cs) : trimSpacing cs = cs :=
  trimBoth_eq_self (fun c hc => isSpacing_eq_false_of_isBlank (h.head c hc))
    fun c hc => isSpacing_eq_false_of_isBlank (h.last c hc)

theorem IsTrimmed.trimLineFeeds_eq (h : IsTrimmed cs) : trimBoth isLineFeed cs = cs :=
  trimBoth_eq_self (fun c hc => beq_eq_false_iff_ne.mpr (ne_lineFeed_of_isBlank (h.head c hc)))
    fun c hc => beq_eq_false_iff_ne.mpr (ne_lineFeed_of_isBlank (h.last c hc))

/-- Whether the last character of a text is no blank. -/
def EndsVisibly (text : List Char) : Prop := ∃ c ∈ text.getLast?, isBlank c = false

theorem EndsVisibly.ne_nil (h : EndsVisibly cs) : cs ≠ [] := by
  rintro rfl
  obtain ⟨c, hc, -⟩ := h
  cases hc

theorem EndsVisibly.append (h : EndsVisibly cs) (before : List Char) :
    EndsVisibly (before ++ cs) := by
  obtain ⟨c, hc, hblank⟩ := h
  refine ⟨c, ?_, hblank⟩
  rw [List.getLast?_append, Option.mem_def.mp hc]
  rfl

theorem EndsVisibly.of_isTrimmed (h : IsTrimmed cs) (hne : cs ≠ []) : EndsVisibly cs :=
  ⟨_, List.getLast?_eq_some_getLast hne, h.last _ (List.getLast?_eq_some_getLast hne)⟩

/-- Whether a line of a paragraph is read back. -/
def isTidyLine (line : List Char) : Bool :=
  !line.isEmpty && decide (IsTrimmed line) && !isHyphens line

theorem of_isTidyLine (h : isTidyLine line = true) :
    line ≠ [] ∧ IsTrimmed line ∧ isHyphens line = false := by
  simp only [isTidyLine, Bool.and_eq_true, Bool.not_eq_true', decide_eq_true_eq,
    List.isEmpty_eq_false_iff] at h
  exact ⟨h.1.1, h.1.2, h.2⟩

theorem isTrimmed_joinLines {first : List Char} {others : List (List Char)}
    (h : ∀ line ∈ first :: others, line ≠ [] ∧ IsTrimmed line) :
    joinLines (first :: others) ≠ [] ∧ IsTrimmed (joinLines (first :: others)) := by
  induction others generalizing first with
  | nil => exact h first List.mem_cons_self
  | cons next others ih =>
    obtain ⟨hfirst, htrimmed⟩ := h first List.mem_cons_self
    obtain ⟨hne, hothers⟩ := ih fun line hline => h line (List.mem_cons_of_mem _ hline)
    rw [joinLines_cons_cons]
    refine ⟨List.append_ne_nil_of_left_ne_nil hfirst _, ?_, ?_⟩
    · rw [List.head?_append_of_ne_nil _ hfirst]
      exact htrimmed.head
    · rw [List.getLast?_append, List.getLast?_cons, List.getLast?_eq_some_getLast hne]
      exact fun c hc => hothers.last c (by rwa [List.getLast?_eq_some_getLast hne])

theorem isChain_of_line (h : '\n' ∉ line) : line.IsChain Apart := by
  induction line with
  | nil => exact .nil
  | cons c line ih =>
    obtain ⟨hc, h⟩ := not_or.mp (List.mem_cons.not.mp h)
    refine List.isChain_cons.mpr ⟨fun d hd => ⟨fun heq => absurd heq.symm hc, ?_⟩, ih h⟩
    rintro rfl
    exact absurd (List.mem_of_mem_head? hd) h

/-- No blank stands beside a line feed between trimmed lines. -/
theorem isChain_joinLines {first : List Char} {others : List (List Char)}
    (h : ∀ line ∈ first :: others, line ≠ [] ∧ IsTrimmed line)
    (hfeed : ∀ line ∈ first :: others, '\n' ∉ line) (before : Char) :
    (before :: joinLines (first :: others)).IsChain Apart := by
  have hline (before : Char) {line : List Char} (hline : line ≠ [] ∧ IsTrimmed line)
      (hfeed : '\n' ∉ line) : (before :: line).IsChain Apart := by
    refine List.isChain_cons.mpr ⟨fun d hd => ⟨fun _ => hline.2.head d hd, ?_⟩,
      isChain_of_line hfeed⟩
    rintro rfl
    exact absurd (List.mem_of_mem_head? hd) hfeed
  induction others generalizing first before with
  | nil => exact hline before (h first List.mem_cons_self) (hfeed first List.mem_cons_self)
  | cons next others ih =>
    obtain ⟨hfirst, htrimmed⟩ := h first List.mem_cons_self
    rw [joinLines_cons_cons, ← List.cons_append]
    refine List.isChain_append.mpr
      ⟨hline before ⟨hfirst, htrimmed⟩ (hfeed first List.mem_cons_self),
      ih (fun line hline => h line (List.mem_cons_of_mem _ hline))
        (fun line hline => hfeed line (List.mem_cons_of_mem _ hline)) '\n', ?_⟩
    intro c hc d hd
    obtain rfl := Option.some.inj hd
    rw [List.getLast?_cons, List.getLast?_eq_some_getLast hfirst] at hc
    rw [Option.getD_some, ← List.getLast?_eq_some_getLast hfirst] at hc
    have hblank : isBlank c = false := htrimmed.last c hc
    exact ⟨fun hc => absurd hc (ne_lineFeed_of_isBlank hblank), fun _ => hblank⟩

end

/-! ## 3. Paragraphs

The two readers are put together: the lines are read as a paragraph with its source, and the source
as the nodes that were written. -/

/-- Whether a source holds no mail address between angle brackets. -/
def holdsNoMail (source : List Char) : Bool := !(source.contains '<' && source.contains '@')

theorem of_holdsNoMail {source : List Char} (h : holdsNoMail source = true) :
    '<' ∉ source ∨ '@' ∉ source := by
  rw [holdsNoMail, Bool.not_eq_true', Bool.and_eq_false_iff, List.contains_eq_mem,
    List.contains_eq_mem, decide_eq_false_iff_not, decide_eq_false_iff_not] at h
  exact h

section

variable {cs : List Node} {quotation item : Context → List Line → Reading}

theorem tidyLines_eq_self {source : List Char}
    (hlines : ∀ line ∈ splitLines source, IsTrimmed line) (hsource : IsTrimmed source) :
    tidyLines source = source := by
  have hfeed : ∀ line : List Char, '\n' ∉ line → '\n' ∉ dropEndWhile isBlank line :=
    fun line hline hmem => hline (mem_of_mem_dropEndWhile hmem)
  have hmap : mapLines (dropEndWhile isBlank) source = source :=
    (mapLines_eq_self_iff hfeed source).mpr fun line hline =>
      dropEndWhile_eq_self (hlines line hline).last
  rw [tidyLines, hmap, hsource.trimLineFeeds_eq]

/-- A source of tidy lines is trimmed, and layout leaves it alone. -/
theorem of_all_isTidyLine {source : List Char} (h : (splitLines source).all isTidyLine = true) :
    source ≠ [] ∧ IsTrimmed source ∧ tidyLines source = source := by
  obtain ⟨first, others, hlines⟩ := List.exists_cons_of_ne_nil (splitLines_ne_nil source)
  have htrimmed : ∀ line ∈ splitLines source, line ≠ [] ∧ IsTrimmed line := fun line hline =>
    have htidy := of_isTidyLine (List.all_eq_true.mp h line hline)
    ⟨htidy.1, htidy.2.1⟩
  obtain ⟨hne, hwhole⟩ := isTrimmed_joinLines (hlines ▸ htrimmed)
  rw [← hlines, joinLines_splitLines] at hne hwhole
  exact ⟨hne, hwhole, tidyLines_eq_self (fun line hline => (htrimmed line hline).2) hwhole⟩

/-- What reads as nodes begins no definition. -/
theorem beginsNoLabel_of_readsAs {before : Char} {source : List Char} {nodes : List Node}
    (h : ReadsAs before source nodes) : BeginsNoLabel source := by
  rintro inside label after rfl hlabel
  obtain ⟨spans, hinert, -⟩ := h
  cases hinert with
  | plain _ hrest => exact ReadsAs.head?_ne_colon ⟨_, hrest, rfl⟩ hlabel

/-- **A paragraph of plain parts and tidy lines is read back.** -/
theorem readsBlock_renderParagraph (hplain : arePlainParts cs = true)
    (htidy : (splitLines (renderInlines true cs)).all isTidyLine = true)
    (hmail : holdsNoMail (renderInlines true cs) = true) :
    ReadsBlock quotation item (splitLines (tidyLines (renderInlines true cs)))
        (.paragraph (renderInlines true cs)) ∧
      spanNodes (readSpans [] true (renderInlines true cs)) = cs := by
  obtain ⟨first, others, hlines⟩ :=
    List.exists_cons_of_ne_nil (splitLines_ne_nil (renderInlines true cs))
  have htexts : ∀ line ∈ first :: others,
      line ≠ [] ∧ IsTrimmed line ∧ isHyphens line = false := fun line hline =>
    of_isTidyLine (List.all_eq_true.mp htidy line (hlines ▸ hline))
  have htrimmed : ∀ line ∈ first :: others, line ≠ [] ∧ IsTrimmed line := fun line hline =>
    ⟨(htexts line hline).1, (htexts line hline).2.1⟩
  have hsource : joinLines (first :: others) = renderInlines true cs := by
    rw [← hlines, joinLines_splitLines]
  obtain ⟨-, hwhole, hlayout⟩ := of_all_isTidyLine htidy
  have hread : ReadsAs ' ' (renderInlines true cs) cs := by
    refine readsAs_renderInlines hplain (of_holdsNoMail hmail) ?_
    rw [← hsource]
    exact isChain_joinLines htrimmed
      (fun line hline => not_mem_of_mem_splitLines (hlines ▸ hline)) ' '
  refine ⟨?_, hread.spanNodes_readSpans⟩
  have hparagraph : ReadsBlock quotation item (first :: others)
      (.paragraph (trimSpacing (joinLines (first :: others)))) := by
    refine readsBlock_paragraph (fun line hline => ?_) ?_
    · obtain ⟨hne, hline', hhyphens⟩ := htexts line hline
      refine ⟨(linesMayStand_renderInlines hplain true).mem line (hlines ▸ hline) hne hhyphens,
        hne, fun c hc => isSpaceOrTab_eq_false_of_isBlank (hline'.head c hc)⟩
    · rw [hsource]
      exact beginsNoLabel_of_readsAs hread
  rw [hsource, hwhole.trimSpacing_eq] at hparagraph
  rwa [hlayout, hlines]

theorem endsVisibly_renderParagraph
    (htidy : (splitLines (renderInlines true cs)).all isTidyLine = true) :
    EndsVisibly (tidyLines (renderInlines true cs)) := by
  obtain ⟨hne, hwhole, hlayout⟩ := of_all_isTidyLine htidy
  rw [hlayout]
  exact .of_isTrimmed hwhole hne

end

/-! ## 4. Headings

The source of a title stands behind hashes and one space, and hashes at its end may be decoration.
-/

/-- Whether the source of a title is read back: it is one trimmed line, and hashes at its end do not
stand apart. -/
def isTidyTitle (source : List Char) : Bool :=
  !source.contains '\n' && decide (IsTrimmed source) && (source.isEmpty ||
    (dropEndWhile (· == '#') (' ' :: source)).getLast?.all fun c => !isSpaceOrTab c)

theorem of_isTidyTitle {source : List Char} (h : isTidyTitle source = true) :
    '\n' ∉ source ∧ IsTrimmed source ∧ (source ≠ [] →
      ∀ c ∈ (dropEndWhile (· == '#') (' ' :: source)).getLast?, isSpaceOrTab c = false) := by
  simp only [isTidyTitle, Bool.and_eq_true, Bool.or_eq_true, Bool.not_eq_true',
    List.contains_eq_mem, decide_eq_true_eq, decide_eq_false_iff_not, List.isEmpty_iff,
    Option.all_eq_true] at h
  exact ⟨h.1.1, h.1.2, fun hne => h.2.resolve_left hne⟩

section

variable {cs : List Node} {quotation item : Context → List Line → Reading}

theorem ofNat?_val (depth : Depth) : Depth.ofNat? depth.val = some depth :=
  dif_pos ⟨depth.one_le, depth.le_six⟩

/-- What stands behind the hashes of a heading. -/
theorem atxHeading?_replicate (depth : Depth) {rest : List Char}
    (hstop : ∀ c ∈ rest.head?, c = ' ') :
    atxHeading? (List.replicate depth.val '#' ++ rest) =
      some (depth, trimSpacing
        (match (dropEndWhile (· == '#') (dropEndWhile isSpaceOrTab rest)).getLast? with
        | some c =>
          if isSpaceOrTab c then dropEndWhile (· == '#') (dropEndWhile isSpaceOrTab rest)
          else dropEndWhile isSpaceOrTab rest
        | none => dropEndWhile isSpaceOrTab rest)) := by
  have hnot : ∀ c ∈ rest.head?, (c == '#') = false := fun c hc => by
    rw [hstop c hc]
    decide
  rw [atxHeading?]
  dsimp only
  rw [takeWhile_append_of_stop beq_of_mem_replicate hnot,
    dropWhile_append_of_stop beq_of_mem_replicate hnot, List.length_replicate, ofNat?_val]
  dsimp only
  refine if_pos ?_
  cases rest with
  | nil => rfl
  | cons c rest =>
    obtain rfl := hstop c rfl
    rfl

/-- **The title of a heading is read back.** -/
theorem atxHeading?_renderHeading (depth : Depth) {source : List Char}
    (htitle : isTidyTitle source = true) :
    atxHeading? (renderHeading depth source) = some (depth, source) := by
  obtain ⟨hfeed, htrimmed, hhashes⟩ := of_isTidyTitle htitle
  rw [renderHeading]
  cases source with
  | nil =>
    have hread := @atxHeading?_replicate depth [] nofun
    rwa [List.append_nil] at hread
  | cons d source =>
    have hmap : (d :: source).map (fun c => if c = '\n' then ' ' else c) = d :: source :=
      map_eq_self_of_not_mem hfeed
    have hstop : ∀ c ∈ (' ' :: d :: source).head?, c = ' ' := fun c hc =>
      (Option.some.inj hc).symm
    have hblanks : dropEndWhile isSpaceOrTab (' ' :: d :: source) = ' ' :: d :: source := by
      refine dropEndWhile_eq_self fun c hc => ?_
      rw [List.getLast?_cons_cons] at hc
      exact isSpaceOrTab_eq_false_of_isBlank (htrimmed.last c hc)
    have htrim : trimSpacing (' ' :: d :: source) = d :: source := by
      rw [trimSpacing, trimBoth, List.dropWhile_cons, if_pos (by decide)]
      exact htrimmed.trimSpacing_eq
    rw [List.isEmpty_cons, if_neg Bool.false_ne_true, hmap, atxHeading?_replicate depth hstop,
      hblanks]
    split
    next c hc =>
      rw [hhashes (List.cons_ne_nil d source) c hc, if_neg Bool.false_ne_true, htrim]
    next => rw [htrim]

/-- A heading begins with a hash. -/
theorem exists_renderHeading (depth : Depth) (content : List Char) :
    ∃ rest, renderHeading depth content = '#' :: rest := by
  obtain ⟨n, hn⟩ := Nat.exists_eq_add_of_le' depth.one_le
  rw [renderHeading, hn, List.replicate_succ]
  split
  · exact ⟨_, rfl⟩
  · exact ⟨_, rfl⟩

theorem tidyLines_of_isTidyTitle {source : List Char} (h : isTidyTitle source = true) :
    tidyLines source = source := by
  obtain ⟨hfeed, htrimmed, -⟩ := of_isTidyTitle h
  refine tidyLines_eq_self (fun line hline => ?_) htrimmed
  rw [splitLines_of_not_mem hfeed, List.mem_singleton] at hline
  rwa [hline]

theorem endsVisibly_renderHeading (depth : Depth) {source : List Char}
    (htitle : isTidyTitle source = true) :
    EndsVisibly (renderHeading depth (tidyLines source)) := by
  obtain ⟨hfeed, htrimmed, -⟩ := of_isTidyTitle htitle
  rw [tidyLines_of_isTidyTitle htitle, renderHeading, map_eq_self_of_not_mem hfeed]
  split
  · obtain ⟨n, hn⟩ := Nat.exists_eq_add_of_le' depth.one_le
    rw [hn, List.replicate_succ']
    exact ⟨'#', List.getLast?_concat, by decide⟩
  next hne =>
    rw [List.isEmpty_iff] at hne
    exact ((EndsVisibly.of_isTrimmed htrimmed hne).append [' ']).append _

/-- **A heading with a tidy title is read back.** -/
theorem readsBlock_renderHeading (depth : Depth) (hplain : arePlainParts cs = true)
    (htitle : isTidyTitle (renderInlines false cs) = true)
    (hmail : holdsNoMail (renderInlines false cs) = true) :
    ReadsBlock quotation item
        (splitLines (renderHeading depth (tidyLines (renderInlines false cs))))
        (.heading depth (renderInlines false cs)) ∧
      spanNodes (readSpans [] true (renderInlines false cs)) = cs := by
  obtain ⟨hfeed, -, -⟩ := of_isTidyTitle htitle
  have hread : ReadsAs ' ' (renderInlines false cs) cs := by
    refine readsAs_renderInlines hplain (of_holdsNoMail hmail) (isChain_of_line ?_)
    simpa using hfeed
  have hheading : '\n' ∉ renderHeading depth (renderInlines false cs) := by
    rw [renderHeading, map_eq_self_of_not_mem hfeed]
    split <;> simp [hfeed]
  refine ⟨?_, hread.spanNodes_readSpans⟩
  have hhead := atxHeading?_renderHeading depth htitle
  obtain ⟨rest, hmarks⟩ := exists_renderHeading depth (renderInlines false cs)
  rw [tidyLines_of_isTidyTitle htitle, splitLines_of_not_mem hheading]
  rw [hmarks] at hhead ⊢
  exact readsBlock_heading hhead

end

/-! ## 5. Fenced code

Code may hold any characters.  What is asked is about the info string alone. -/

/-- The mark of which the fence around code with an info string is made. -/
def fenceMark (info : List Char) : Char := if info.contains '\x60' then '~' else '\x60'

/-- The fence around a text. -/
def fenceFor (info value : List Char) : List Char :=
  List.replicate (max 3 (longestRun (fenceMark info) value + 1)) (fenceMark info)

/-- The lines that a text takes between its fences. -/
def codeLines (value : List Char) : List (List Char) :=
  if value.isEmpty then [] else splitLines value

/-- Whether an info string is read back: it is one trimmed line that does not lengthen a fence of
tildes. -/
def isTidyInfo (info : List Char) : Bool :=
  !info.isEmpty && !info.contains '\n' && decide (IsTrimmed info) &&
    !(info.contains '\x60' && info.head? == some '~')

theorem of_isTidyInfo {info : List Char} (h : isTidyInfo info = true) :
    info ≠ [] ∧ '\n' ∉ info ∧ IsTrimmed info ∧ ('\x60' ∈ info → info.head? ≠ some '~') := by
  simp only [isTidyInfo, Bool.and_eq_true, Bool.not_eq_true', Bool.and_eq_false_iff,
    List.contains_eq_mem, decide_eq_true_eq, decide_eq_false_iff_not, List.isEmpty_eq_false_iff,
    beq_eq_false_iff_ne] at h
  exact ⟨h.1.1.1, h.1.1.2, h.1.2, fun hmem => h.2.resolve_left (not_not.mpr hmem)⟩

section

variable {info value : List Char} {quotation item : Context → List Line → Reading}

theorem fenceMark_cases (info : List Char) :
    (fenceMark info = '\x60' ∧ '\x60' ∉ info) ∨ (fenceMark info = '~' ∧ '\x60' ∈ info) := by
  rw [fenceMark, List.contains_eq_mem]
  by_cases h : '\x60' ∈ info
  · exact .inr ⟨if_pos (decide_eq_true h), h⟩
  · exact .inl ⟨if_neg (by simpa using h), h⟩

theorem mem_fenceFor {c : Char} (h : c ∈ fenceFor info value) : c = fenceMark info :=
  List.eq_of_mem_replicate h

theorem isBlank_of_mem_fenceFor {c : Char} (h : c ∈ fenceFor info value) : isBlank c = false := by
  rw [mem_fenceFor h]
  rcases fenceMark_cases info with ⟨hmark, -⟩ | ⟨hmark, -⟩
  · rw [hmark]
    decide
  · rw [hmark]
    decide

theorem exists_fenceFor (info value : List Char) :
    ∃ marks, fenceFor info value = fenceMark info :: marks := by
  obtain ⟨n, hn⟩ : ∃ n, max 3 (longestRun (fenceMark info) value + 1) = n + 1 :=
    ⟨_, (Nat.sub_add_cancel (by omega)).symm⟩
  rw [fenceFor, hn]
  exact ⟨_, rfl⟩

theorem renderCode_eq (lang : Option String) (value : List Char) :
    renderCode lang value = (if value.isEmpty then
        fenceFor (lang.getD "").toList value ++ (lang.getD "").toList
      else fenceFor (lang.getD "").toList value ++ (lang.getD "").toList ++ '\n' :: value) ++
        '\n' :: fenceFor (lang.getD "").toList value := by
  cases value with
  | nil => rfl
  | cons c value => rfl

theorem endsVisibly_renderCode (lang : Option String) (value : List Char) :
    EndsVisibly (renderCode lang value) := by
  obtain ⟨marks, hfence⟩ := exists_fenceFor (lang.getD "").toList value
  have hne : fenceFor (lang.getD "").toList value ≠ [] := by
    rw [hfence]
    exact List.cons_ne_nil _ _
  have hends : EndsVisibly (fenceFor (lang.getD "").toList value) :=
    ⟨_, List.getLast?_eq_some_getLast hne, isBlank_of_mem_fenceFor (List.getLast_mem hne)⟩
  rw [renderCode_eq]
  exact (hends.append ['\n']).append _

/-- The lines of fenced code. -/
theorem splitLines_renderCode {lang : Option String} (hinfo : '\n' ∉ (lang.getD "").toList)
    (value : List Char) :
    splitLines (renderCode lang value) =
      (fenceFor (lang.getD "").toList value ++ (lang.getD "").toList) :: codeLines value ++
        [fenceFor (lang.getD "").toList value] := by
  have hfence : '\n' ∉ fenceFor (lang.getD "").toList value := fun hmem =>
    ne_lineFeed_of_isBlank (isBlank_of_mem_fenceFor hmem) rfl
  have hopening : splitLines (fenceFor (lang.getD "").toList value ++ (lang.getD "").toList) =
      [fenceFor (lang.getD "").toList value ++ (lang.getD "").toList] :=
    splitLines_of_not_mem fun hmem => (List.mem_append.mp hmem).elim hfence hinfo
  rw [codeLines, renderCode_eq, splitLines_append_lineFeed, splitLines_of_not_mem hfence]
  split
  · rw [hopening]
  · rw [splitLines_append_lineFeed, hopening]
    rfl

theorem fence?_fenceFor (hinfo : ∀ c ∈ info.head?, (c == fenceMark info) = false) :
    fence? (fenceFor info value ++ info) =
      some ⟨fenceMark info, (fenceFor info value).length, info⟩ := by
  obtain ⟨marks, hmarks⟩ := exists_fenceFor info value
  have hrun : (fenceFor info value ++ info).takeWhile (· == fenceMark info) = fenceFor info value :=
    takeWhile_append_of_stop beq_of_mem_replicate hinfo
  have hrest : (fenceFor info value ++ info).dropWhile (· == fenceMark info) = info :=
    dropWhile_append_of_stop beq_of_mem_replicate hinfo
  have hlength : 3 ≤ (fenceFor info value).length := by
    rw [fenceFor, List.length_replicate]
    exact Nat.le_max_left _ _
  have hwhole : fenceFor info value ++ info = fenceMark info :: (marks ++ info) := by
    rw [hmarks, List.cons_append]
  rw [hwhole] at hrun hrest ⊢
  rw [fence?, hrun, hrest]
  refine if_pos ⟨?_, hlength, ?_⟩
  · rcases fenceMark_cases info with ⟨hmark, -⟩ | ⟨hmark, -⟩
    · exact .inl hmark
    · exact .inr hmark
  · rintro ⟨hmark, hmem⟩
    rcases fenceMark_cases info with ⟨-, hnot⟩ | ⟨htilde, -⟩
    · exact hnot hmem
    · rw [htilde] at hmark
      exact absurd hmark (by decide)

theorem closedBy_fenceFor (info value : List Char) :
    (Fence.mk (fenceMark info) (fenceFor info value).length info).closedBy (fenceFor info value) =
      true := by
  rw [Fence.closedBy, Bool.and_eq_true]
  refine ⟨decide_eq_true ?_, ?_⟩
  · rw [fenceFor, List.takeWhile_replicate, beq_self_eq_true, if_pos rfl]
  · rw [fenceFor, List.dropWhile_replicate, beq_self_eq_true, if_pos rfl]
    rfl

/-- A line stands somewhere in its text. -/
theorem exists_append_suffix_of_mem_splitLines {line cs : List Char} (h : line ∈ splitLines cs) :
    ∃ after, line ++ after <:+ cs := by
  obtain ⟨above, below, hlines⟩ := List.append_of_mem h
  obtain ⟨after, hafter⟩ : ∃ after, joinLines (line :: below) = line ++ after := by
    cases below with
    | nil => exact ⟨[], (List.append_nil line).symm⟩
    | cons next below => exact ⟨_, joinLines_cons_cons line next below⟩
  refine ⟨after, ?_⟩
  rw [← hafter, ← joinLines_splitLines cs, hlines]
  cases above with
  | nil => exact List.suffix_rfl
  | cons first above =>
    rw [joinLines_append (List.cons_ne_nil _ _) (List.cons_ne_nil _ _)]
    exact (List.suffix_cons _ _).trans (List.suffix_append _ _)

/-- What stands in a text does not close a fence that is longer than any run there. -/
theorem closedBy_eq_false_of_lt {fence : Fence} {body after : List Char}
    (hbody : body ++ after <:+ value) (hlength : longestRun fence.mark value < fence.length) :
    fence.closedBy body = false := by
  have hrun : (body.takeWhile (· == fence.mark)).length ≤ longestRun fence.mark value := by
    have hlonger := length_run_le fence.mark hbody
    rw [← @List.takeWhile_append_dropWhile _ (· == fence.mark) body, List.append_assoc,
      List.takeWhile_append_of_pos fun _ => List.mem_takeWhile_imp, List.length_append] at hlonger
    exact (Nat.le_add_right _ _).trans hlonger
  rw [Fence.closedBy, decide_eq_false (Nat.not_le.mpr (hrun.trans_lt hlength)), Bool.false_and]

/-- A line between the fences stands in the code, also without what it begins with. -/
theorem exists_suffix_of_mem_codeLines {line : List Char} (h : line ∈ codeLines value)
    (p : Char → Bool) : ∃ after, line.dropWhile p ++ after <:+ value := by
  have hline : line ∈ splitLines value := by
    rw [codeLines] at h
    split at h
    · cases h
    · exact h
  obtain ⟨after, hafter⟩ := exists_append_suffix_of_mem_splitLines hline
  obtain ⟨dropped, hdropped⟩ := List.dropWhile_suffix p (l := line)
  refine ⟨after, List.IsSuffix.trans ?_ hafter⟩
  exact ⟨dropped, by rw [← List.append_assoc, hdropped]⟩

theorem longestRun_lt_length_fenceFor (info value : List Char) :
    longestRun (fenceMark info) value < (fenceFor info value).length := by
  rw [fenceFor, List.length_replicate]
  omega

/-- No line between the fences closes them. -/
theorem closedBy_eq_false {line : List Char} (h : line ∈ codeLines value) :
    (Fence.mk (fenceMark info) (fenceFor info value).length info).closedBy
      (line.dropWhile isSpaceOrTab) = false := by
  obtain ⟨after, hafter⟩ := exists_suffix_of_mem_codeLines h isSpaceOrTab
  exact closedBy_eq_false_of_lt hafter (longestRun_lt_length_fenceFor info value)

/-- The text of the lines between the fences. -/
theorem dropLastFeed_codeLines (value : List Char) :
    dropLastFeed ((codeLines value).flatMap (· ++ ['\n'])) = value := by
  rw [codeLines]
  cases value with
  | nil => rfl
  | cons c value =>
    rw [List.isEmpty_cons, if_neg Bool.false_ne_true, flatMap_lineFeed (splitLines_ne_nil _),
      joinLines_splitLines, dropLastFeed, List.getLast?_concat, if_pos rfl, List.dropLast_concat]

/-- An info string that is trimmed is what code is read with. -/
theorem lang_of_isTrimmed {lang : Option String}
    (h : ∀ info ∈ lang, info.toList ≠ [] ∧ IsTrimmed info.toList) :
    (nonEmpty? (trimBlanks (lang.getD "").toList)).map String.ofList = lang := by
  cases lang with
  | none => rfl
  | some info =>
    obtain ⟨hne, htrimmed⟩ := h info rfl
    have htrim : trimBlanks info.toList = info.toList :=
      trimBoth_eq_self htrimmed.head htrimmed.last
    rw [Option.getD_some, htrim, nonEmpty?, if_neg (by simpa using hne), Option.map_some,
      String.ofList_toList]

/-- The fence ends where the info string begins, unless that goes on with tildes. -/
theorem head?_ne_fenceMark {info : List Char} (h : '\x60' ∈ info → info.head? ≠ some '~') :
    ∀ c ∈ info.head?, (c == fenceMark info) = false := by
  intro c hc
  refine beq_eq_false_iff_ne.mpr ?_
  rintro rfl
  rcases fenceMark_cases info with ⟨hmark, hnot⟩ | ⟨hmark, hmem⟩
  · exact hnot (hmark ▸ List.mem_of_mem_head? hc)
  · exact h hmem (hmark ▸ hc)

/-- Whether the info string of code is read back, if there is one. -/
def isTidyLang (lang : Option String) : Bool := lang.all fun info => isTidyInfo info.toList

/-- **Fenced code with a tidy info string is read back.** -/
theorem readsBlock_renderCode {lang : Option String} (hlang : isTidyLang lang = true)
    (value : List Char) :
    ReadsBlock quotation item (splitLines (renderCode lang value))
        (.fencedCode (lang.getD "").toList ((codeLines value).flatMap (· ++ ['\n']))) ∧
      (nonEmpty? (trimBlanks (lang.getD "").toList)).map String.ofList = lang := by
  obtain ⟨hfeed, hmarks⟩ : '\n' ∉ (lang.getD "").toList ∧
      ('\x60' ∈ (lang.getD "").toList → (lang.getD "").toList.head? ≠ some '~') := by
    cases lang with
    | none => exact ⟨nofun, nofun⟩
    | some info => exact ⟨(of_isTidyInfo hlang).2.1, (of_isTidyInfo hlang).2.2.2⟩
  have htrimmed : ∀ info ∈ lang, info.toList ≠ [] ∧ IsTrimmed info.toList := by
    rintro info hinfo
    obtain rfl := Option.mem_def.mp hinfo
    exact ⟨(of_isTidyInfo hlang).1, (of_isTidyInfo hlang).2.2.1⟩
  have hbegins : BeginsBlock (fenceFor (lang.getD "").toList value ++ (lang.getD "").toList) := by
    obtain ⟨marks, hfence⟩ := exists_fenceFor (lang.getD "").toList value
    refine ⟨by rw [hfence]; exact List.cons_ne_nil _ _, fun c hc => ?_⟩
    rw [hfence] at hc
    obtain rfl := Option.some.inj hc
    exact isSpaceOrTab_eq_false_of_isBlank (isBlank_of_mem_fenceFor (hfence ▸ List.mem_cons_self))
  refine ⟨?_, lang_of_isTrimmed htrimmed⟩
  rw [splitLines_renderCode hfeed]
  refine readsBlock_fenced hbegins (fence?_fenceFor (head?_ne_fenceMark hmarks))
    (fun line => closedBy_eq_false) ?_ (closedBy_fenceFor _ _)
  exact fun c hc =>
    isSpaceOrTab_eq_false_of_isBlank (isBlank_of_mem_fenceFor (List.mem_of_mem_head? hc))

end

end TaskNotes
