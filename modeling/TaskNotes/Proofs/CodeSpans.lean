/-
# Code spans

A code span begins with a run of backticks and ends with the next run that is exactly as long; one
space goes at either end unless there is nothing but spaces.  `spanByRule?` tells this rule
character by character, and the reader of spans follows it (`codeSpan?_eq_spanByRule?`).

The fences of a written code span are longer than any run inside, and its value is padded exactly
where the rule would take a space away or a backtick would lengthen a fence.  So a code span is read
back as it was written (`spanByRule?_renderCodeSpan`), whatever follows it.

The rule and the reader differ in how they count.  The rule keeps the number of backticks that it
has just passed, and decides at the first other character; the reader goes from run to run and is
limited by the length of the text.  The rule is the shorter one to compare with what the syntax
says, so it is the one that the result is stated with.

A line feed in a code would be read as a space, and a code without characters cannot be written at
all; these are the only two conditions.
-/
import TaskNotes.Render.Inline
import TaskNotes.Markup.Spans
import TaskNotes.Proofs.Identifier

namespace TaskNotes

open Markup

/-! ## 1. Runs of one character -/

section

variable {mark : Char} {run : Nat} {cs ds : List Char}

theorem takeWhile_add_le_longestRunFrom (mark : Char) (run : Nat) (cs : List Char) :
    (cs.takeWhile (· == mark)).length + run ≤ longestRunFrom mark run cs := by
  induction cs generalizing run with
  | nil =>
    rw [longestRunFrom]
    simp
  | cons c cs ih =>
    rw [longestRunFrom, List.takeWhile_cons]
    by_cases hc : c = mark
    · have := ih (run + 1)
      rw [if_pos hc, if_pos (beq_iff_eq.mpr hc), List.length_cons]
      omega
    · rw [if_neg hc, if_neg (beq_iff_eq.not.mpr hc), List.length_nil, Nat.zero_add]
      exact Nat.le_max_left _ _

theorem longestRunFrom_mono (mark : Char) (cs : List Char) {m n : Nat} (h : m ≤ n) :
    longestRunFrom mark m cs ≤ longestRunFrom mark n cs := by
  induction cs generalizing m n with
  | nil => exact h
  | cons c cs ih =>
    rw [longestRunFrom, longestRunFrom]
    split
    · exact ih (by omega)
    · omega

theorem longestRun_le_of_suffix (h : ds <:+ cs) (run : Nat) :
    longestRun mark ds ≤ longestRunFrom mark run cs := by
  induction cs generalizing run with
  | nil =>
    rw [List.suffix_nil.mp h]
    exact Nat.zero_le _
  | cons c cs ih =>
    rcases List.suffix_cons_iff.mp h with rfl | h
    · exact longestRunFrom_mono mark _ (Nat.zero_le run)
    · rw [longestRunFrom]
      split
      · exact ih h _
      · exact (ih h 0).trans (Nat.le_max_right _ _)

/-- No run inside a text is longer than its longest one. -/
theorem length_run_le (mark : Char) (h : ds <:+ cs) :
    (ds.takeWhile (· == mark)).length ≤ longestRun mark cs :=
  (takeWhile_add_le_longestRunFrom mark 0 ds).trans (longestRun_le_of_suffix h 0)

/-- A character of another kind at the end makes no run longer. -/
theorem longestRunFrom_append_singleton {c : Char} (hc : c ≠ mark) (run : Nat) (cs : List Char) :
    longestRunFrom mark run (cs ++ [c]) = longestRunFrom mark run cs := by
  induction cs generalizing run with
  | nil => simp [longestRunFrom, hc]
  | cons d cs ih =>
    rw [List.cons_append, longestRunFrom, longestRunFrom, ih, ih]

end

/-! ## 2. The rule

`nextRun?` reads one character at a time.  What the proofs need are runs: adding backticks adds to
the run that is being read, and where a run ends it is either the one that closes or part of the
code. -/

/-- Looks for the next run of exactly so many backticks where `run` of them have just been read:
what stands before that run, and what follows it. -/
def nextRun? (length run : Nat) : List Char → Option (List Char × List Char)
  | [] => if run = length then some ([], []) else none
  | c :: cs =>
    if c = '\x60' then nextRun? length (run + 1) cs
    else if run = length then some ([], c :: cs)
    else (nextRun? length 0 cs).map fun (inside, rest) =>
      (List.replicate run '\x60' ++ c :: inside, rest)

/-- Reads a code span by the rule: what it holds, and what follows it. -/
def spanByRule? (cs : List Char) : Option (List Char × List Char) :=
  let length := (cs.takeWhile (· == '\x60')).length
  if length = 0 then none
  else (nextRun? length 0 (cs.dropWhile (· == '\x60'))).map fun (inside, rest) =>
    (codeContent inside, rest)

section

variable {value rest : List Char}

/-- A run of backticks adds to what has been read of it. -/
theorem nextRun?_replicate (length run n : Nat) (rest : List Char) :
    nextRun? length run (List.replicate n '\x60' ++ rest) = nextRun? length (run + n) rest := by
  induction n generalizing run with
  | zero => rfl
  | succ n ih =>
    rw [List.replicate_succ, List.cons_append, nextRun?, if_pos rfl, ih, Nat.add_right_comm,
      Nat.add_assoc]

/-- Where a run ends it either is the one that closes, or belongs to what stands before it. -/
theorem nextRun?_of_stop {length : Nat} (hpos : 0 < length) (run : Nat)
    (hrest : ∀ c ∈ rest.head?, (c == '\x60') = false) :
    nextRun? length run rest =
      if run = length then some ([], rest)
      else (nextRun? length 0 rest).map fun (inside, more) =>
        (List.replicate run '\x60' ++ inside, more) := by
  cases rest with
  | nil => simp [nextRun?, hpos.ne]
  | cons c rest =>
    have hc : c ≠ '\x60' := beq_eq_false_iff_ne.mp (hrest c rfl)
    rw [nextRun?, nextRun?, if_neg hc, if_neg hc, if_neg hpos.ne, Option.map_map]
    rfl

theorem nextRun?_eq_of_run {length : Nat} (hpos : 0 < length) (cs : List Char) :
    nextRun? length 0 cs =
      if (cs.takeWhile (· == '\x60')).length = length then some ([], cs.dropWhile (· == '\x60'))
      else (nextRun? length 0 (cs.dropWhile (· == '\x60'))).map fun (inside, rest) =>
        (cs.takeWhile (· == '\x60') ++ inside, rest) := by
  have hwhole : cs.takeWhile (· == '\x60') ++ cs.dropWhile (· == '\x60') = cs :=
    List.takeWhile_append_dropWhile
  have hstop : ∀ c ∈ (cs.dropWhile (· == '\x60')).head?, (c == '\x60') = false :=
    fun _ => eq_false_of_head?_dropWhile
  obtain ⟨n, hrun⟩ : ∃ n, cs.takeWhile (· == '\x60') = List.replicate n '\x60' :=
    ⟨_, List.eq_replicate_of_mem fun c hc =>
      beq_iff_eq.mp (List.mem_takeWhile_imp (p := (· == '\x60')) hc)⟩
  conv => lhs; rw [← hwhole]
  rw [hrun, nextRun?_replicate, Nat.zero_add, nextRun?_of_stop hpos n hstop, List.length_replicate]

/-- What holds no backtick stands before the run that closes. -/
theorem nextRun?_append {length : Nat} (hpos : 0 < length) (hvalue : '\x60' ∉ value)
    (rest : List Char) :
    nextRun? length 0 (value ++ rest) =
      (nextRun? length 0 rest).map fun (inside, more) => (value ++ inside, more) := by
  induction value with
  | nil => simp
  | cons c value ih =>
    obtain ⟨hc, hvalue⟩ := not_or.mp (List.mem_cons.not.mp hvalue)
    rw [List.cons_append, nextRun?, if_neg (Ne.symm hc), if_neg hpos.ne, ih hvalue,
      Option.map_map]
    rfl

/-! ### The reader of spans -/

/-- Going from run to run finds the run that closes. -/
theorem closingRun?_eq_nextRun? {length fuel : Nat} (hpos : 0 < length) {cs : List Char}
    (hfuel : cs.length < fuel) : closingRun? length fuel cs = nextRun? length 0 cs := by
  induction fuel generalizing cs with
  | zero => omega
  | succ fuel ih =>
    have htext : '\x60' ∉ cs.takeWhile (· ≠ '\x60') := fun hmem =>
      absurd rfl (of_decide_eq_true (List.mem_takeWhile_imp (p := (· ≠ '\x60')) hmem))
    have hshorter : (cs.dropWhile (· ≠ '\x60')).length ≤ cs.length :=
      (List.dropWhile_suffix _).length_le
    conv => rhs; rw [← List.takeWhile_append_dropWhile (p := (· ≠ '\x60')) (l := cs)]
    rw [closingRun?, nextRun?_append hpos htext]
    dsimp only
    cases hmore : cs.dropWhile (· ≠ '\x60') with
    | nil => simp [nextRun?, hpos.ne]
    | cons c more =>
      have hc : c = '\x60' := by
        have hhead : (cs.dropWhile (· ≠ '\x60')).head? = some c := by rw [hmore]; rfl
        simpa using eq_false_of_head?_dropWhile hhead
      rw [hmore, List.length_cons] at hshorter
      have hafter : ((c :: more).dropWhile (· == '\x60')).length < fuel := by
        rw [List.dropWhile_cons, if_pos (beq_iff_eq.mpr hc)]
        have := (List.dropWhile_suffix (l := more) (· == '\x60')).length_le
        omega
      rw [if_neg (by simp [hc]), ih hafter, nextRun?_eq_of_run hpos (c :: more)]
      split
      · simp
      · simp [Option.map_map, Function.comp_def]

/-- There is no run of no backticks. -/
theorem closingRun?_zero (fuel : Nat) (cs : List Char) : closingRun? 0 fuel cs = none := by
  induction fuel generalizing cs with
  | zero => rfl
  | succ fuel ih =>
    rw [closingRun?]
    dsimp only
    split
    · rfl
    next hrun =>
      rw [if_neg (by simpa using hrun), ih]
      rfl

/-- **The reader of spans reads code spans by the rule.** -/
theorem codeSpan?_eq_spanByRule? (cs : List Char) : codeSpan? cs = spanByRule? cs := by
  rw [codeSpan?, spanByRule?]
  dsimp only
  split
  next hnone => rw [hnone, closingRun?_zero, Option.map_none]
  next hrun => rw [closingRun?_eq_nextRun? (Nat.pos_of_ne_zero hrun) (Nat.lt_succ_self _)]

end

/-! ## 3. Written code spans

The fence is one longer than the longest run of the value.  That is enough only if no backtick of
the value touches the fence, since it would make the run at the end longer than the fence; hence
the padding, which the rule takes away again. -/

section

variable {value rest : List Char}

/-- A code span as it stands inside its fences. -/
def paddedCode (value : List Char) : List Char :=
  if needsPadding value then ' ' :: value ++ [' '] else value

theorem longestRun_paddedCode (value : List Char) :
    longestRun '\x60' (paddedCode value) = longestRun '\x60' value := by
  rw [paddedCode]
  split
  · rw [longestRun, List.cons_append, longestRunFrom, if_neg (by decide), Nat.zero_max,
      longestRunFrom_append_singleton (by decide)]
    rfl
  · rfl

/-- Inside its fences a code span neither begins nor ends with a backtick. -/
theorem ends_paddedCode (hvalue : value ≠ []) :
    paddedCode value ≠ [] ∧ (∀ c ∈ (paddedCode value).head?, (c == '\x60') = false) ∧
      (paddedCode value).getLast? ≠ some '\x60' := by
  rw [paddedCode]
  split
  · refine ⟨List.cons_ne_nil _ _, ?_, ?_⟩
    · intro c hc
      obtain rfl := Option.some.inj hc
      decide
    · rw [List.getLast?_concat]
      decide
  next hpad =>
    simp only [needsPadding, Bool.or_eq_true, not_or, beq_iff_eq] at hpad
    obtain ⟨⟨hhead, hlast⟩, -⟩ := hpad
    refine ⟨hvalue, ?_, hlast⟩
    intro c hc
    cases value with
    | nil => cases hc
    | cons d value =>
      obtain rfl := Option.some.inj hc
      exact Bool.eq_false_iff.mpr hhead

theorem all_space_of_needsPadding (h : needsPadding value = true) :
    value.all (· == ' ') = false := by
  have htick (hmem : '\x60' ∈ value) : value.all (· == ' ') = false :=
    List.all_eq_false.mpr ⟨'\x60', hmem, by decide⟩
  simp only [needsPadding, Bool.or_eq_true] at h
  rcases h with (h | h) | h
  · cases value with
    | nil => cases h
    | cons c value => exact htick (beq_iff_eq.mp h ▸ List.mem_cons_self)
  · exact htick (List.mem_of_getLast? (beq_iff_eq.mp h))
  · simp only [Bool.and_eq_true, Bool.not_eq_true'] at h
    exact h.2

theorem map_eq_self_of_not_mem (h : '\n' ∉ value) :
    value.map (fun c => if c = '\n' then ' ' else c) = value := by
  have hkept : ∀ c ∈ value, (if c = '\n' then ' ' else c) = c := by
    intro c hc
    refine if_neg ?_
    rintro rfl
    exact h hc
  rw [List.map_congr_left hkept, List.map_id']

/-- The spaces inside the fences are taken away, and no others. -/
theorem codeContent_paddedCode (hfeed : '\n' ∉ value) :
    codeContent (paddedCode value) = value := by
  rw [paddedCode, codeContent]
  by_cases hpad : needsPadding value = true
  · have hfeed' : '\n' ∉ ' ' :: value ++ [' '] := by simp [hfeed]
    rw [if_pos hpad, map_eq_self_of_not_mem hfeed']
    have hlast : (' ' :: value ++ [' ']).getLast? = some ' ' := List.getLast?_concat
    have hall : (' ' :: value ++ [' ']).all (· == ' ') = false := by
      rw [List.cons_append, List.all_cons, List.all_append, all_space_of_needsPadding hpad]
      rfl
    rw [hlast, hall]
    rw [if_pos ⟨rfl, rfl, rfl⟩, List.cons_append, List.drop_succ_cons, List.drop_zero]
    exact List.dropLast_concat
  · rw [if_neg hpad, map_eq_self_of_not_mem hfeed, if_neg]
    rintro ⟨hhead, hlast, hall⟩
    refine hpad ?_
    cases value with
    | nil => cases hhead
    | cons c value =>
      obtain rfl := Option.some.inj hhead
      rw [Bool.not_eq_true'] at hall
      simp [needsPadding, headIs, hlast, hall]

/-- The run of backticks on either side of a code span. -/
def codeFence (value : List Char) : List Char :=
  List.replicate (longestRun '\x60' value + 1) '\x60'

theorem renderCodeSpan_eq (value : List Char) :
    renderCodeSpan value = codeFence value ++ paddedCode value ++ codeFence value := rfl

theorem beq_of_mem_codeFence : ∀ c ∈ codeFence value, (c == '\x60') = true := by
  intro c hc
  exact beq_iff_eq.mpr (List.eq_of_mem_replicate hc)

/-- **The run that closes is the next one that is longer than all inside.**  The induction keeps the
backticks that have been read of a run. -/
theorem nextRun?_value {length run : Nat} (hpos : 0 < length)
    (hlast : (List.replicate run '\x60' ++ value).getLast? ≠ some '\x60')
    (hlong : longestRunFrom '\x60' run value < length)
    (hrest : ∀ c ∈ rest.head?, (c == '\x60') = false) :
    nextRun? length run (value ++ (List.replicate length '\x60' ++ rest)) =
      some (List.replicate run '\x60' ++ value, rest) := by
  induction value generalizing run with
  | nil =>
    have hrun : run = 0 := by
      by_contra hrun
      obtain ⟨n, rfl⟩ := Nat.exists_eq_succ_of_ne_zero hrun
      rw [List.append_nil, List.replicate_succ', List.getLast?_concat] at hlast
      exact hlast rfl
    rw [hrun, List.nil_append, nextRun?_replicate, Nat.zero_add, nextRun?_of_stop hpos _ hrest,
      if_pos rfl]
    rfl
  | cons c value ih =>
    rw [List.cons_append, nextRun?]
    rw [longestRunFrom] at hlong
    split
    next hc =>
      subst hc
      rw [if_pos rfl] at hlong
      have hmore : List.replicate run '\x60' ++ '\x60' :: value =
          List.replicate (run + 1) '\x60' ++ value := by
        rw [List.replicate_succ', List.append_assoc]
        rfl
      rw [hmore] at hlast ⊢
      exact ih hlast hlong
    next hc =>
      rw [if_neg hc] at hlong
      have hlast' : (List.replicate 0 '\x60' ++ value).getLast? ≠ some '\x60' := by
        cases value with
        | nil => nofun
        | cons d value => simpa using hlast
      rw [if_neg (by omega), ih hlast' (by omega)]
      rfl

/-- A code span is read back, whatever follows it. -/
theorem spanByRule?_renderCodeSpan_append (hvalue : value ≠ []) (hfeed : '\n' ∉ value)
    (hrest : ∀ c ∈ rest.head?, (c == '\x60') = false) :
    spanByRule? (renderCodeSpan value ++ rest) = some (value, rest) := by
  obtain ⟨hne, hhead, hlast⟩ := ends_paddedCode hvalue
  have hstop :
      ∀ c ∈ (paddedCode value ++ (codeFence value ++ rest)).head?, (c == '\x60') = false := by
    rwa [List.head?_append_of_ne_nil _ hne]
  have hclosed : nextRun? (longestRun '\x60' value + 1) 0
      (paddedCode value ++ (codeFence value ++ rest)) = some (paddedCode value, rest) := by
    refine nextRun?_value (Nat.succ_pos _) hlast ?_ hrest
    exact Nat.lt_succ_of_le (longestRun_paddedCode value).le
  rw [renderCodeSpan_eq, List.append_assoc, List.append_assoc, spanByRule?,
    takeWhile_append_of_stop beq_of_mem_codeFence hstop,
    dropWhile_append_of_stop beq_of_mem_codeFence hstop]
  dsimp only
  rw [codeFence, List.length_replicate, ← codeFence, if_neg (Nat.succ_ne_zero _), hclosed,
    Option.map_some, codeContent_paddedCode hfeed]

theorem codeSpan?_renderCodeSpan (hvalue : value ≠ []) (hfeed : '\n' ∉ value)
    (hrest : ∀ c ∈ rest.head?, (c == '\x60') = false) :
    codeSpan? (renderCodeSpan value ++ rest) = some (value, rest) := by
  rw [codeSpan?_eq_spanByRule?, spanByRule?_renderCodeSpan_append hvalue hfeed hrest]

/-- **A code span is read back.**  What is written for a code of one line is one code span from its
first backtick to its last, and holds just that code. -/
theorem spanByRule?_renderCodeSpan (hvalue : value ≠ []) (hfeed : '\n' ∉ value) :
    spanByRule? (renderCodeSpan value) = some (value, []) := by
  have hread : spanByRule? (renderCodeSpan value ++ []) = some (value, []) :=
    spanByRule?_renderCodeSpan_append hvalue hfeed nofun
  rwa [List.append_nil] at hread

/-- A code that begins and ends with runs of backticks, and one that is nothing but a space. -/
theorem spanByRule?_renderCodeSpan_ticks :
    ("\x60\x60 \x60".toList ≠ [] ∧ '\n' ∉ "\x60\x60 \x60".toList ∧
      renderCodeSpan "\x60\x60 \x60".toList =
        "\x60\x60\x60 \x60\x60 \x60 \x60\x60\x60".toList ∧
      spanByRule? (renderCodeSpan "\x60\x60 \x60".toList) = some ("\x60\x60 \x60".toList, [])) ∧
    spanByRule? (renderCodeSpan [' ']) = some ([' '], []) :=
  ⟨⟨by decide, by decide, by decide, spanByRule?_renderCodeSpan (by decide) (by decide)⟩,
    spanByRule?_renderCodeSpan (by decide) (by decide)⟩

/-- A code span begins and ends with a backtick. -/
theorem exists_renderCodeSpan (value : List Char) :
    ∃ used, renderCodeSpan value = '\x60' :: used ∧ ('\x60' :: used).getLast? = some '\x60' := by
  refine ⟨List.replicate (longestRun '\x60' value) '\x60' ++ paddedCode value ++ codeFence value,
    ?_, ?_⟩
  · rw [renderCodeSpan_eq, List.append_assoc, List.append_assoc]
    conv => lhs; rw [codeFence, List.replicate_succ]
    rfl
  · rw [codeFence, List.replicate_succ', ← List.append_assoc, ← List.cons_append,
      List.getLast?_concat]

end

end TaskNotes
