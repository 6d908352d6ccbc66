/-
# Lines of written blocks

Containers are written line by line: a quotation puts its mark in front of every line, a list item
its marker in front of the first and a margin in front of the others, and blocks stand one after the
other.  The lemmas here say which lines a text has that was put together so.

Lines are parts of a text between line feeds, so a text has at least one, and joining and cutting
are inverse for lines without line feeds.  All changes that layout makes to a text are made line by
line (`mapLines`), and are told here by what they do to the list of lines.
-/
import TaskNotes.Proofs.Resolve
import TaskNotes.Render.Block

namespace TaskNotes

/-! ## 1. Lines of a text

Cutting a text that was put together cuts it where it was put together. -/

theorem splitLines_eq_splitAtChar (cs : List Char) : splitLines cs = splitAtChar '\n' cs := by
  induction cs with
  | nil => rfl
  | cons c cs ih =>
    rw [splitAtChar] at ih ⊢
    rw [splitLines, splitAtSeparators, ← ih]
    cases splitLines cs with
    | nil => simp only [beq_iff_eq]
    | cons line lines => simp only [beq_iff_eq]

theorem not_mem_of_mem_splitLines {cs line : List Char} (h : line ∈ splitLines cs) :
    '\n' ∉ line := by
  rw [splitLines_eq_splitAtChar] at h
  exact not_mem_of_mem_splitAtChar h

theorem mem_of_mem_splitLines {c : Char} {cs line : List Char} (hline : line ∈ splitLines cs)
    (hc : c ∈ line) : c ∈ cs := by
  induction cs generalizing line with
  | nil =>
    rw [splitLines, List.mem_singleton] at hline
    rwa [hline] at hc
  | cons d cs ih =>
    obtain ⟨first, others, hlines⟩ := List.exists_cons_of_ne_nil (splitLines_ne_nil cs)
    rw [hlines] at ih
    rw [splitLines] at hline
    split at hline
    · rcases List.mem_cons.mp hline with rfl | hline
      · cases hc
      · exact List.mem_cons_of_mem _ (ih (hlines ▸ hline) hc)
    · simp only [hlines] at hline
      rcases List.mem_cons.mp hline with rfl | hline
      · rcases List.mem_cons.mp hc with rfl | hc
        · exact List.mem_cons_self
        · exact List.mem_cons_of_mem _ (ih List.mem_cons_self hc)
      · exact List.mem_cons_of_mem _ (ih (List.mem_cons_of_mem _ hline) hc)

theorem splitLines_of_not_mem {line : List Char} (h : '\n' ∉ line) : splitLines line = [line] := by
  rw [splitLines_eq_splitAtChar, splitAtChar_of_not_mem h]

/-- Lines that are joined are cut apart again. -/
theorem splitLines_joinLines {lines : List (List Char)} (hne : lines ≠ [])
    (h : ∀ line ∈ lines, '\n' ∉ line) : splitLines (joinLines lines) = lines := by
  rw [splitLines_eq_splitAtChar]
  exact splitAtChar_joinWith hne h

theorem joinLines_cons_cons (line next : List Char) (lines : List (List Char)) :
    joinLines (line :: next :: lines) = line ++ '\n' :: joinLines (next :: lines) := by
  rw [joinLines, joinWith, List.append_assoc]
  rfl

theorem joinLines_append {lines others : List (List Char)} (hne : lines ≠ [])
    (hothers : others ≠ []) :
    joinLines (lines ++ others) = joinLines lines ++ '\n' :: joinLines others := by
  induction lines with
  | nil => exact absurd rfl hne
  | cons line lines ih =>
    cases lines with
    | nil =>
      obtain ⟨next, more, rfl⟩ := List.exists_cons_of_ne_nil hothers
      exact joinLines_cons_cons line next more
    | cons next lines =>
      rw [List.cons_append, List.cons_append, joinLines_cons_cons, joinLines_cons_cons,
        ← List.cons_append, ih (List.cons_ne_nil _ _), List.append_assoc]
      rfl

/-- Lines with a line feed behind each of them. -/
theorem flatMap_lineFeed {lines : List (List Char)} (hne : lines ≠ []) :
    lines.flatMap (· ++ ['\n']) = joinLines lines ++ ['\n'] := by
  induction lines with
  | nil => exact absurd rfl hne
  | cons line lines ih =>
    cases lines with
    | nil => exact List.append_nil _
    | cons next lines =>
      rw [List.flatMap_cons, ih (List.cons_ne_nil _ _), joinLines_cons_cons, List.append_assoc,
        List.append_assoc]
      rfl

/-- A line feed ends a line. -/
theorem splitLines_append_lineFeed (cs ds : List Char) :
    splitLines (cs ++ '\n' :: ds) = splitLines cs ++ splitLines ds := by
  have hjoined : cs ++ '\n' :: ds = joinLines (splitLines cs ++ splitLines ds) := by
    rw [joinLines_append (splitLines_ne_nil cs) (splitLines_ne_nil ds), joinLines_splitLines,
      joinLines_splitLines]
  rw [hjoined]
  refine splitLines_joinLines (List.append_ne_nil_of_left_ne_nil (splitLines_ne_nil cs) _) ?_
  intro line hline
  rcases List.mem_append.mp hline with hline | hline
  · exact not_mem_of_mem_splitLines hline
  · exact not_mem_of_mem_splitLines hline

/-- What holds no line feed begins the first line. -/
theorem splitLines_append_of_not_mem {word cs first : List Char} {others : List (List Char)}
    (hword : '\n' ∉ word) (hlines : splitLines cs = first :: others) :
    splitLines (word ++ cs) = (word ++ first) :: others := by
  induction word with
  | nil => exact hlines
  | cons c word ih =>
    rw [List.mem_cons, not_or] at hword
    rw [List.cons_append, splitLines, if_neg (Ne.symm hword.1), ih hword.2]
    rfl

theorem splitLines_mapLines {f : List Char → List Char} (hf : ∀ line, '\n' ∉ line → '\n' ∉ f line)
    (cs : List Char) : splitLines (mapLines f cs) = (splitLines cs).map f := by
  refine splitLines_joinLines (by simpa using splitLines_ne_nil cs) ?_
  intro changed hchanged
  obtain ⟨line, hline, rfl⟩ := List.mem_map.mp hchanged
  exact hf line (not_mem_of_mem_splitLines hline)

/-- Changing every line leaves a text alone iff it leaves every line alone. -/
theorem mapLines_eq_self_iff {f : List Char → List Char}
    (hf : ∀ line, '\n' ∉ line → '\n' ∉ f line) (cs : List Char) :
    mapLines f cs = cs ↔ ∀ line ∈ splitLines cs, f line = line := by
  constructor
  · intro h
    have hmap : (splitLines cs).map f = (splitLines cs).map id := by
      rw [← splitLines_mapLines hf, h, List.map_id]
    exact List.map_inj_left.mp hmap
  · intro h
    have hmap : (splitLines cs).map f = (splitLines cs).map id := List.map_inj_left.mpr h
    rw [mapLines, hmap, List.map_id, joinLines_splitLines]

/-! ## 2. Quotations and list items

An empty line stays empty in an item and gets the bare mark in a quotation. -/

/-- What a quotation puts in front of a line. -/
def quoteLine (line : List Char) : List Char := if line.isEmpty then ['>'] else '>' :: ' ' :: line

theorem splitLines_quoteLines (content : List Char) :
    splitLines (quoteLines content) = (splitLines content).map quoteLine := by
  refine splitLines_mapLines ?_ content
  intro line hline
  split
  · decide
  · simpa using hline

/-- What a list item puts in front of its lines from the second on. -/
def indentLine (width : Nat) (line : List Char) : List Char :=
  if line.isEmpty then [] else List.replicate width ' ' ++ line

theorem splitLines_indentBehind {marker content first : List Char} {others : List (List Char)}
    (hmarker : '\n' ∉ marker) (hcontent : content ≠ [])
    (hlines : splitLines content = first :: others) :
    splitLines (indentBehind marker content) =
      (marker ++ first) :: others.map (indentLine marker.length) := by
  have hmem {line : List Char} (h : line ∈ first :: others) : '\n' ∉ line :=
    not_mem_of_mem_splitLines (hlines ▸ h)
  rw [indentBehind, if_neg (by simpa using hcontent), hlines]
  refine splitLines_joinLines (List.cons_ne_nil _ _) ?_
  intro indented hindented
  rcases List.mem_cons.mp hindented with rfl | hindented
  · rw [List.mem_append, not_or]
    exact ⟨hmarker, hmem List.mem_cons_self⟩
  · obtain ⟨line, hline, rfl⟩ := List.mem_map.mp hindented
    have hline := hmem (List.mem_cons_of_mem _ hline)
    split
    · exact List.not_mem_nil
    · rw [List.mem_append, List.mem_replicate, not_or]
      exact ⟨fun h => absurd h.2 (by decide), hline⟩

end TaskNotes
