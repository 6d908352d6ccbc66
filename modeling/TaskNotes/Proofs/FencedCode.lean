/-
# Fenced code

Fenced code begins with a line that is a run of at least three backticks or tildes and an info
string behind it, and ends at the first line that is a run of at least as many of the same
character, with at most three spaces before it and only blanks behind it.  `fencedCode?` reads a
text by this rule.

The fence that is written is longer than any run of its character in the code, so no line of the
code ends it.  It is made of tildes where the info string holds a backtick; but the info string
stands right behind it, and one that also begins with a tilde makes the opening fence longer than
the closing one (`lengthensFence`).  Then no line ends the code any more, and it takes in whatever
follows.  In all other cases code ends at its last line and is read back as it was
(`fencedCode?_renderCode`).

The rule is written down here a second time, on whole texts.  The reader of blocks reads code line
by line between other blocks, with indentation and quotations to be taken off, and there it would
not be visible what the fence alone decides.
-/
import TaskNotes.Proofs.WrittenBlocks

namespace TaskNotes

open Markup

/-! ## 1. The rule -/

/-- Whether a line ends the code of a fence. -/
def endsCode (fence : Fence) (line : List Char) : Bool :=
  (line.takeWhile (· == ' ')).length ≤ 3 && fence.closedBy (line.dropWhile (· == ' '))

/-- The lines before the first one that ends the code of a fence, and the lines below that one. -/
def splitAtEnd? (fence : Fence) : List (List Char) → Option (List (List Char) × List (List Char))
  | [] => none
  | line :: lines =>
    if endsCode fence line then some ([], lines)
    else (splitAtEnd? fence lines).map fun (inside, below) => (line :: inside, below)

/-- Fenced code, and the lines below it. -/
structure FencedCode where
  lang : Option String
  value : List Char
  below : List (List Char)
deriving DecidableEq, Repr

/-- Reads the fenced code with which a text begins, if a line ends it. -/
def fencedCode? (text : List Char) : Option FencedCode :=
  match splitLines (uniformLines text) with
  | [] => none
  | opening :: lines =>
    (fence? opening).bind fun fence =>
      (splitAtEnd? fence lines).map fun (inside, below) =>
        ⟨(nonEmpty? (trimBlanks fence.info)).map String.ofList, joinLines inside, below⟩

/-- Whether a text can be the info string of code: one trimmed line that is not empty. -/
structure IsInfo (info : List Char) : Prop where
  ne_nil : info ≠ []
  no_lineFeed : '\n' ∉ info
  no_return : '\r' ∉ info
  trimmed : IsTrimmed info

instance (info : List Char) : Decidable (IsInfo info) :=
  decidable_of_iff (info ≠ [] ∧ '\n' ∉ info ∧ '\r' ∉ info ∧ IsTrimmed info)
    ⟨fun h => ⟨h.1, h.2.1, h.2.2.1, h.2.2.2⟩,
      fun h => ⟨h.ne_nil, h.no_lineFeed, h.no_return, h.trimmed⟩⟩

/-- Whether an info string is written behind tildes and begins with another one. -/
def lengthensFence (info : List Char) : Bool := info.contains '\x60' && info.head? == some '~'

/-! ## 2. Where code ends

A line of the code that is a run of the mark of the fence is shorter than the fence, since the
fence is longer than the longest run.  So it cannot end the code, and the last line, which repeats
the fence, does. -/

section

variable {fence : Fence} {line info value : List Char} {lines : List (List Char)}

theorem splitAtEnd?_append (h : ∀ line ∈ lines, endsCode fence line = false)
    (more : List (List Char)) :
    splitAtEnd? fence (lines ++ more) =
      (splitAtEnd? fence more).map fun (inside, below) => (lines ++ inside, below) := by
  induction lines with
  | nil => simp
  | cons line lines ih =>
    rw [List.cons_append, splitAtEnd?, h line List.mem_cons_self, if_neg Bool.false_ne_true,
      ih fun other hother => h other (List.mem_cons_of_mem _ hother), Option.map_map]
    rfl

/-- A fence that is longer than any run in the code is not ended inside it. -/
theorem endsCode_eq_false (hline : line ∈ codeLines value)
    (hlength : longestRun fence.mark value < fence.length) : endsCode fence line = false := by
  obtain ⟨after, hafter⟩ := exists_suffix_of_mem_codeLines hline (· == ' ')
  rw [endsCode, closedBy_eq_false_of_lt hafter hlength, Bool.and_false]

theorem endsCode_fenceFor (fence : Fence) (info value : List Char) :
    endsCode fence (fenceFor info value) = fence.closedBy (fenceFor info value) := by
  have hspace : ∀ c ∈ (fenceFor info value).head?, (c == ' ') = false := by
    intro c hc
    refine beq_eq_false_iff_ne.mpr ?_
    rintro rfl
    exact absurd (isBlank_of_mem_fenceFor (List.mem_of_mem_head? hc)) (by decide)
  have hnone : ∀ c ∈ ([] : List Char), (c == ' ') = true := nofun
  have htake : (fenceFor info value).takeWhile (· == ' ') = [] :=
    takeWhile_append_of_stop hnone hspace
  have hdrop : (fenceFor info value).dropWhile (· == ' ') = fenceFor info value :=
    dropWhile_append_of_stop hnone hspace
  rw [endsCode, htake, hdrop]
  rfl

/-- Code ends at its last line. -/
theorem splitAtEnd?_codeLines (info value : List Char) :
    splitAtEnd? ⟨fenceMark info, (fenceFor info value).length, info⟩
        (codeLines value ++ [fenceFor info value]) = some (codeLines value, []) := by
  rw [splitAtEnd?_append fun line hline =>
      endsCode_eq_false hline (longestRun_lt_length_fenceFor info value),
    splitAtEnd?, endsCode_fenceFor, closedBy_fenceFor, if_pos rfl, Option.map_some]
  dsimp only
  rw [List.append_nil]

/-- Behind an opening fence that is longer than the closing one no line ends the code. -/
theorem splitAtEnd?_codeLines_eq_none (hmark : fence.mark = fenceMark info)
    (hlength : (fenceFor info value).length < fence.length) :
    splitAtEnd? fence (codeLines value ++ [fenceFor info value]) = none := by
  have hlong : longestRun fence.mark value < fence.length := by
    rw [hmark]
    exact (longestRun_lt_length_fenceFor info value).trans hlength
  have hopen : fence.closedBy (fenceFor info value) = false := by
    have hshort := (List.takeWhile_prefix (l := fenceFor info value) (· == fence.mark)).length_le
    rw [Fence.closedBy, decide_eq_false (by omega), Bool.false_and]
  rw [splitAtEnd?_append fun line hline => endsCode_eq_false hline hlong, splitAtEnd?,
    endsCode_fenceFor, hopen, if_neg Bool.false_ne_true]
  rfl

theorem joinLines_codeLines (value : List Char) : joinLines (codeLines value) = value := by
  rw [codeLines]
  split
  next hempty => exact (List.isEmpty_iff.mp hempty).symm
  next => exact joinLines_splitLines value

/-! ## 3. The opening fence -/

theorem lengthensFence_iff :
    lengthensFence info = true ↔ '\x60' ∈ info ∧ info.head? = some '~' := by
  rw [lengthensFence, Bool.and_eq_true, beq_iff_eq, List.contains_iff_mem]

/-- The tildes with which an info string begins count as part of a fence of tildes. -/
theorem fence?_of_lengthensFence (h : lengthensFence info = true) (value : List Char) :
    ∃ fence, fence? (fenceFor info value ++ info) = some fence ∧ fence.mark = fenceMark info ∧
      (fenceFor info value).length < fence.length := by
  obtain ⟨htick, hhead⟩ := lengthensFence_iff.mp h
  have hmark : fenceMark info = '~' := by
    rcases fenceMark_cases info with ⟨-, hnot⟩ | ⟨hmark, -⟩
    · exact absurd htick hnot
    · exact hmark
  have hmore : 0 < (info.takeWhile (· == fenceMark info)).length := by
    obtain ⟨rest, rfl⟩ := List.head?_eq_some_iff.mp hhead
    rw [hmark]
    exact Nat.succ_pos _
  have hthree : 3 ≤ (fenceFor info value).length := by
    rw [fenceFor, List.length_replicate]
    exact Nat.le_max_left _ _
  have hrun : ((fenceFor info value ++ info).takeWhile (· == fenceMark info)).length =
      (fenceFor info value).length + (info.takeWhile (· == fenceMark info)).length := by
    rw [List.takeWhile_append_of_pos fun c hc => beq_iff_eq.mpr (mem_fenceFor hc),
      List.length_append]
  obtain ⟨marks, hfence⟩ := exists_fenceFor info value
  have hwhole : fenceFor info value ++ info = fenceMark info :: (marks ++ info) := by
    rw [hfence, List.cons_append]
  rw [hwhole] at hrun ⊢
  rw [fence?, hrun, if_pos ⟨.inr hmark, by omega, fun htilde => by simp [hmark] at htilde⟩]
  exact ⟨_, rfl, rfl, Nat.lt_add_of_pos_right hmore⟩

end

/-! ## 4. Written code -/

section

variable {lang : Option String} {value : List Char}

theorem uniformLines_renderCode (hlang : '\r' ∉ (lang.getD "").toList) (hvalue : '\r' ∉ value) :
    uniformLines (renderCode lang value) = renderCode lang value := by
  have hfence : '\r' ∉ fenceFor (lang.getD "").toList value := fun hmem =>
    absurd (isBlank_of_mem_fenceFor hmem) (by decide)
  refine uniformLines_eq_self ?_
  rw [renderCode_eq]
  split <;> simp [hlang, hvalue, hfence]

/-- **Fenced code is read back.**  What is written for code ends at its last line, with the info
string and the code it was written for, unless the info string lengthens the opening fence: then no
line ends it. -/
theorem fencedCode?_renderCode (hlang : ∀ info ∈ lang, IsInfo info.toList)
    (hvalue : '\r' ∉ value) :
    fencedCode? (renderCode lang value) =
      if lengthensFence (lang.getD "").toList then none else some ⟨lang, value, []⟩ := by
  obtain ⟨hfeed, hreturn⟩ : '\n' ∉ (lang.getD "").toList ∧ '\r' ∉ (lang.getD "").toList := by
    cases lang with
    | none => exact ⟨nofun, nofun⟩
    | some info => exact ⟨(hlang info rfl).no_lineFeed, (hlang info rfl).no_return⟩
  rw [fencedCode?, uniformLines_renderCode hreturn hvalue, splitLines_renderCode hfeed,
    List.cons_append]
  dsimp only
  cases hlengthens : lengthensFence (lang.getD "").toList with
  | true =>
    obtain ⟨fence, hfence, hmark, hlength⟩ := fence?_of_lengthensFence hlengthens value
    rw [hfence, Option.bind_some, splitAtEnd?_codeLines_eq_none hmark hlength, if_pos rfl]
    rfl
  | false =>
    have hhead : '\x60' ∈ (lang.getD "").toList → (lang.getD "").toList.head? ≠ some '~' :=
      fun htick hhead =>
        Bool.false_ne_true (hlengthens.symm.trans (lengthensFence_iff.mpr ⟨htick, hhead⟩))
    have hinfo := lang_of_isTrimmed fun info hinfo =>
      ⟨(hlang info hinfo).ne_nil, (hlang info hinfo).trimmed⟩
    rw [fence?_fenceFor (head?_ne_fenceMark hhead), Option.bind_some, splitAtEnd?_codeLines,
      Option.map_some, if_neg Bool.false_ne_true]
    dsimp only
    rw [hinfo, joinLines_codeLines]

end

/-- An info string that holds a backtick and ends with a tilde, and code that holds both fences. -/
theorem fencedCode?_renderCode_bothFences :
    (∀ info ∈ some "a\x60~", IsInfo info.toList) ∧
      '\r' ∉ "~~~\n\x60\x60\x60\n".toList ∧
      renderCode (some "a\x60~") "~~~\n\x60\x60\x60\n".toList =
        "~~~~a\x60~\n~~~\n\x60\x60\x60\n\n~~~~".toList ∧
      fencedCode? (renderCode (some "a\x60~") "~~~\n\x60\x60\x60\n".toList) =
        some ⟨some "a\x60~", "~~~\n\x60\x60\x60\n".toList, []⟩ := by
  have hinfo : ∀ info ∈ some "a\x60~", IsInfo info.toList := by decide
  have hreturn : '\r' ∉ "~~~\n\x60\x60\x60\n".toList := by decide
  exact ⟨hinfo, hreturn, by decide,
    (fencedCode?_renderCode hinfo hreturn).trans (if_neg (by decide))⟩

/-- A document in which a blank parts the fence from an info string that begins with a tilde. -/
def tildeInfoText : String := "~~~ ~\x60\nx\n~~~\n\ny\n"

/-- Written without the blank, the info string lengthens the fence: the code is not ended by its
last line, and takes in the paragraph below. -/
theorem fencedCode?_renderCode_tildeInfo :
    IsInfo "~\x60".toList ∧
      renderCode (some "~\x60") ['x'] = "~~~~\x60\nx\n~~~".toList ∧
      fencedCode? (renderCode (some "~\x60") ['x']) ≠ some ⟨some "~\x60", ['x'], []⟩ ∧
      Node.read tildeInfoText =
        .root [.code (some "~\x60") "x", .paragraph [.text "y"]] ∧
      Node.read (Node.read tildeInfoText).render = .root [.code (some "\x60") "x\n~~~\n\ny"] := by
  decide +kernel

end TaskNotes
