/-
# Destinations of links

The destination of a link stands between angle brackets, with escapes, or bare: without blanks, and
with parentheses that are balanced in order (`destinationByGrammar?`).  How deep parentheses may
nest is left to the reader, so the grammar takes a limit or none.

A path is encoded for its URL, but its parentheses stay as they are, and the destination is written
bare when as many close as open.  So it is read back exactly when those close in order and nest no
deeper than the limit (`destinationByGrammar?_encodePath_iff`); with more of one kind than of the
other it stands between angle brackets and is always read back.  The reader of links follows the
grammar with its own limit (`destination?_encodePath_iff`).

Both readers go through an encoded path by the same few steps (`IsBareReader`), so the induction is
done once for all of them.

A reader of bare destinations is described by what it does with the characters of an encoded path:
those that are plain, the two parentheses, and the blank or the parenthesis that ends it.  Nothing
else can turn up in a link that was written for a path, since percent coding leaves letters, digits
and a few marks.

That counting is not enough is shown by a closing parenthesis that stands in front of an opening
one: a path with such a name is written bare, and its link leads elsewhere.
-/
import TaskNotes.Markup.Target
import TaskNotes.Proofs.Percent
import TaskNotes.Render.Inline

namespace TaskNotes

open Markup

/-! ## 1. The grammar

The depth is the number of parentheses that are open.  A parenthesis behind a backslash is not
counted. -/

/-- Puts a character in front of what has been read. -/
def withFirst (c : Char) : Option (List Char × List Char) → Option (List Char × List Char) :=
  Option.map fun (inside, after) => (c :: inside, after)

/-- Reads a destination behind an opening angle bracket, and what follows the closing one. -/
def angledForm? : List Char → Option (List Char × List Char)
  | [] => none
  | '\\' :: d :: rest =>
    if isAsciiPunctuation d then withFirst d (angledForm? rest)
    else withFirst '\\' (angledForm? (d :: rest))
  | c :: rest =>
    if c = '>' then some ([], rest)
    else if c = '<' ∨ c = '\n' then none
    else withFirst c (angledForm? rest)

/-- Reads a bare destination inside so many open parentheses, and what follows it. -/
def bareForm? (limit : Option Nat) (depth : Nat) : List Char → Option (List Char × List Char)
  | [] => if depth = 0 then some ([], []) else none
  | '\\' :: d :: rest =>
    if isAsciiPunctuation d then withFirst d (bareForm? limit depth rest)
    else withFirst '\\' (bareForm? limit depth (d :: rest))
  | c :: rest =>
    if c = '(' then
      if limit.all (depth < ·) then withFirst c (bareForm? limit (depth + 1) rest) else none
    else if endsBare c ∨ (c = ')' ∧ depth = 0) then
      if depth = 0 then some ([], c :: rest) else none
    else withFirst c (bareForm? limit (if c = ')' then depth - 1 else depth) rest)

/-- Reads the destination behind the opening parenthesis of a link; an empty one stands for none. -/
def destinationByGrammar? (limit : Option Nat) (cs : List Char) :
    Option (List Char × List Char) :=
  match cs with
  | '<' :: rest => angledForm? rest
  | _ => bareForm? limit 0 cs

/-- Whether the parentheses of a text, behind so many open ones, close in order, and nest no deeper
than a limit. -/
structure NestsWithin (limit : Option Nat) (depth : Nat) (cs : List Char) : Prop where
  inOrder : ∀ part, part <+: cs → part.count ')' ≤ depth + part.count '('
  within : ∀ n ∈ limit, ∀ part, part <+: cs → depth + part.count '(' ≤ n + part.count ')'

section

variable {limit : Option Nat} {depth : Nat} {c : Char} {cs : List Char}

theorem nestsWithin_nil (hdepth : ∀ n ∈ limit, depth ≤ n) : NestsWithin limit depth [] where
  inOrder part hpart := by
    rw [List.prefix_nil.mp hpart]
    exact Nat.zero_le _
  within n hn part hpart := by
    rw [List.prefix_nil.mp hpart]
    exact hdepth n hn

/-- The parentheses of a text close in order if those behind its first character do, once that
character has opened or closed one. -/
theorem nestsWithin_cons (after : Nat) (hdepth : ∀ n ∈ limit, depth ≤ n)
    (hafter : after + [c].count ')' = depth + [c].count '(') :
    NestsWithin limit depth (c :: cs) ↔ NestsWithin limit after cs := by
  have hcount (mark : Char) (part : List Char) :
      (c :: part).count mark = [c].count mark + part.count mark := by
    rw [← List.count_append, List.singleton_append]
  constructor
  · rintro ⟨hinOrder, hwithin⟩
    refine ⟨fun part hpart => ?_, fun n hn part hpart => ?_⟩
    · have := hinOrder (c :: part) (List.cons_prefix_cons.mpr ⟨rfl, hpart⟩)
      have := hcount '(' part
      have := hcount ')' part
      omega
    · have := hwithin n hn (c :: part) (List.cons_prefix_cons.mpr ⟨rfl, hpart⟩)
      have := hcount '(' part
      have := hcount ')' part
      omega
  · rintro ⟨hinOrder, hwithin⟩
    refine ⟨fun part hpart => ?_, fun n hn part hpart => ?_⟩
    · rcases List.prefix_cons_iff.mp hpart with rfl | ⟨more, rfl, hmore⟩
      · exact Nat.zero_le _
      · have := hinOrder more hmore
        have := hcount '(' more
        have := hcount ')' more
        omega
    · rcases List.prefix_cons_iff.mp hpart with rfl | ⟨more, rfl, hmore⟩
      · exact hdepth n hn
      · have := hwithin n hn more hmore
        have := hcount '(' more
        have := hcount ')' more
        omega

theorem not_nestsWithin_close : ¬ NestsWithin limit 0 (')' :: cs) := by
  intro h
  have := h.inOrder [')'] ⟨cs, rfl⟩
  simp at this

theorem not_nestsWithin_open {n : Nat} (hn : n ∈ limit) (hdepth : n ≤ depth) :
    ¬ NestsWithin limit depth ('(' :: cs) := by
  intro h
  have := h.within n hn ['('] ⟨cs, rfl⟩
  simp at this
  omega

end

/-! ## 2. Readers of bare destinations

The induction goes along the path with the depth left open, since each parenthesis changes it. -/

/-- The characters of which an encoded path consists. -/
def isUrlChar (c : Char) : Bool := isPathChar c || c == '%'

/-- What a reader of bare destinations does with what it finds in a link to a path. -/
structure IsBareReader (limit : Option Nat)
    (read : Nat → List Char → Option (List Char × List Char)) : Prop where
  plain {depth : Nat} {c : Char} {cs : List Char} : isUrlChar c → c ≠ '(' → c ≠ ')' →
    read depth (c :: cs) = withFirst c (read depth cs)
  opens (depth : Nat) (cs : List Char) : read depth ('(' :: cs) =
    if limit.all (depth < ·) then withFirst '(' (read (depth + 1) cs) else none
  closes (depth : Nat) (cs : List Char) :
    read (depth + 1) (')' :: cs) = withFirst ')' (read depth cs)
  stops (cs : List Char) : read 0 (')' :: cs) = some ([], ')' :: cs)
  atBlank (depth : Nat) (cs : List Char) :
    read depth (' ' :: cs) = if depth = 0 then some ([], ' ' :: cs) else none

theorem withFirst_eq_some_iff {c : Char} {found : Option (List Char × List Char)}
    {cs after : List Char} :
    withFirst c found = some (c :: cs, after) ↔ found = some (cs, after) := by
  cases found with
  | none => simp [withFirst]
  | some parts => simp [withFirst, Prod.ext_iff]

theorem withFirst_ne_some_nil {c : Char} {found : Option (List Char × List Char)}
    {after : List Char} : withFirst c found ≠ some ([], after) := by
  cases found <;> simp [withFirst]

namespace IsBareReader

variable {limit : Option Nat} {read : Nat → List Char → Option (List Char × List Char)}
  {depth : Nat} {title : Option String} {url rest : List Char}

/-- Behind the destination a reader stops if no parenthesis is left open. -/
theorem read_behind_iff (hread : IsBareReader limit read) :
    read depth (renderTitle title ++ ')' :: rest) = some ([], renderTitle title ++ ')' :: rest) ↔
      depth = 0 := by
  cases title with
  | some title =>
    simp only [renderTitle, List.cons_append, hread.atBlank]
    split <;> simp [*]
  | none =>
    rw [renderTitle, List.nil_append]
    cases depth with
    | zero => simp [hread.stops]
    | succ depth =>
      rw [hread.closes]
      exact iff_of_false withFirst_ne_some_nil (Nat.succ_ne_zero depth)

/-- **A reader takes what an encoded path is made of to its end exactly when the parentheses close
in order, nest no deeper than the limit and are closed in the end.** -/
theorem read_url_iff (hread : IsBareReader limit read) (hurl : ∀ c ∈ url, isUrlChar c)
    (hdepth : ∀ n ∈ limit, depth ≤ n) :
    read depth (url ++ (renderTitle title ++ ')' :: rest))
        = some (url, renderTitle title ++ ')' :: rest) ↔
      NestsWithin limit depth url ∧ depth + url.count '(' = url.count ')' := by
  induction url generalizing depth with
  | nil =>
    rw [List.nil_append, hread.read_behind_iff]
    simp [nestsWithin_nil hdepth]
  | cons c url ih =>
    have hrest : ∀ d ∈ url, isUrlChar d := fun d hd => hurl d (List.mem_cons_of_mem c hd)
    rw [List.cons_append]
    by_cases hopen : c = '('
    · subst hopen
      rw [hread.opens]
      cases hroom : limit.all (depth < ·) with
      | true =>
        have hdeeper : ∀ n ∈ limit, depth + 1 ≤ n := fun n hn =>
          of_decide_eq_true ((Option.all_eq_true _ _).mp hroom n hn)
        rw [if_pos rfl, withFirst_eq_some_iff, ih hrest hdeeper,
          nestsWithin_cons (depth + 1) hdepth (by simp)]
        simp
        omega
      | false =>
        obtain ⟨n, hn, hfull⟩ := (Option.all_eq_false _ _).mp hroom
        rw [if_neg Bool.false_ne_true]
        simp [not_nestsWithin_open hn (Nat.not_lt.mp (of_decide_eq_false hfull))]
    · by_cases hclose : c = ')'
      · subst hclose
        cases depth with
        | zero => simp [hread.stops, not_nestsWithin_close]
        | succ depth =>
          have hlower : ∀ n ∈ limit, depth ≤ n := fun n hn => Nat.le_of_succ_le (hdepth n hn)
          rw [hread.closes, withFirst_eq_some_iff, ih hrest hlower,
            nestsWithin_cons depth hdepth (by simp)]
          simp
          omega
      · rw [hread.plain (hurl c List.mem_cons_self) hopen hclose, withFirst_eq_some_iff,
          ih hrest hdepth, nestsWithin_cons depth hdepth (by simp [hopen, hclose])]
        simp [hopen, hclose]

end IsBareReader

/-! ### The grammar and the reader of links -/

theorem toNat_of_isUrlChar {c : Char} (h : isUrlChar c) : 33 ≤ c.toNat ∧ c.toNat ≤ 126 := by
  have hbounds : ∀ n < 128, isUrlChar (Char.ofNat n) → 33 ≤ n ∧ n ≤ 126 := by decide
  have hascii : isAscii c := by
    rw [isUrlChar, Bool.or_eq_true, beq_iff_eq] at h
    rcases h with h | rfl
    · exact isAscii_of_isPathChar h
    · decide
  exact hbounds c.toNat (of_decide_eq_true hascii) (by rwa [Char.ofNat_toNat])

theorem ne_of_isUrlChar {c d : Char} (h : isUrlChar c) (hd : isUrlChar d = false) : c ≠ d := by
  rintro rfl
  rw [hd] at h
  cases h

theorem endsBare_of_isUrlChar {c : Char} (h : isUrlChar c) : endsBare c = false := by
  have hne : c ≠ ' ' := ne_of_isUrlChar h (by decide)
  have := toNat_of_isUrlChar h
  simp only [endsBare, Bool.or_eq_false_iff, beq_eq_false_iff_ne, decide_eq_false_iff_not]
  exact ⟨⟨hne, by omega⟩, by omega⟩

theorem isBlank_of_isUrlChar {c : Char} (h : isUrlChar c) : isBlank c = false := by
  have := toNat_of_isUrlChar h
  simp only [isBlank, Bool.or_eq_false_iff, Bool.and_eq_false_iff, beq_eq_false_iff_ne,
    decide_eq_false_iff_not]
  omega

theorem bareForm?_cons {limit : Option Nat} {depth : Nat} {c : Char} {cs : List Char}
    (hescape : c ≠ '\\') : bareForm? limit depth (c :: cs) =
      if c = '(' then
        if limit.all (depth < ·) then withFirst c (bareForm? limit (depth + 1) cs) else none
      else if endsBare c ∨ (c = ')' ∧ depth = 0) then
        if depth = 0 then some ([], c :: cs) else none
      else withFirst c (bareForm? limit (if c = ')' then depth - 1 else depth) cs) := by
  rw [bareForm?]
  exact fun _ _ h _ => hescape h

theorem bareInside?_cons {depth : Nat} {c : Char} {cs : List Char} (hescape : c ≠ '\\') :
    bareInside? depth (c :: cs) =
      if endsBare c ∨ (c = ')' ∧ depth = 0) then
        if depth = 0 then some ([], c :: cs) else none
      else if c = '(' then
        if parenthesisLimit ≤ depth then none else withFirst c (bareInside? (depth + 1) cs)
      else withFirst c (bareInside? (if c = ')' then depth - 1 else depth) cs) := by
  rw [bareInside?]
  · rfl
  · exact fun h _ => hescape h
  · exact fun _ _ h _ => hescape h

theorem isBareReader_bareForm? (limit : Option Nat) : IsBareReader limit (bareForm? limit) where
  plain hurl hopen hclose := by
    rw [bareForm?_cons (ne_of_isUrlChar hurl (by decide))]
    simp [hopen, hclose, endsBare_of_isUrlChar hurl]
  opens depth cs := by rw [bareForm?_cons (by decide), if_pos rfl]
  closes depth cs := by
    rw [bareForm?_cons (by decide)]
    simp [endsBare]
  stops cs := by
    rw [bareForm?_cons (by decide)]
    simp
  atBlank depth cs := by
    rw [bareForm?_cons (by decide)]
    simp [endsBare]

theorem isBareReader_bareInside? : IsBareReader (some parenthesisLimit) bareInside? where
  plain hurl hopen hclose := by
    rw [bareInside?_cons (ne_of_isUrlChar hurl (by decide))]
    simp [hopen, hclose, endsBare_of_isUrlChar hurl]
  opens depth cs := by
    rw [bareInside?_cons (by decide)]
    by_cases hroom : depth < parenthesisLimit
    · simp [endsBare, hroom, Nat.not_le.mpr hroom]
    · simp [endsBare, hroom, Nat.not_lt.mp hroom]
  closes depth cs := by
    rw [bareInside?_cons (by decide)]
    simp [endsBare]
  stops cs := by
    rw [bareInside?_cons (by decide)]
    simp
  atBlank depth cs := by
    rw [bareInside?_cons (by decide)]
    simp [endsBare]

/-! ## 3. Destinations between angle brackets

Here nothing can go wrong: an encoded path has no angle brackets, no line feeds and no backslashes.
-/

section

variable {url rest : List Char}

/-- A reader that takes each character of an encoded path as it is, and stops at a closing angle
bracket, takes the path. -/
theorem read_angled {read : List Char → Option (List Char × List Char)}
    (hplain : ∀ c cs, isUrlChar c → read (c :: cs) = withFirst c (read cs))
    (hcloses : read ('>' :: rest) = some ([], rest)) (hurl : ∀ c ∈ url, isUrlChar c) :
    read (url ++ '>' :: rest) = some (url, rest) := by
  induction url with
  | nil => exact hcloses
  | cons c url ih =>
    rw [List.cons_append, hplain c _ (hurl c List.mem_cons_self),
      ih fun d hd => hurl d (List.mem_cons_of_mem c hd)]
    rfl

theorem angledForm?_cons {c : Char} (hescape : c ≠ '\\') :
    angledForm? (c :: rest) =
      if c = '>' then some ([], rest)
      else if c = '<' ∨ c = '\n' then none else withFirst c (angledForm? rest) := by
  rw [angledForm?]
  exact fun _ _ h _ => hescape h

theorem angledForm?_append (hurl : ∀ c ∈ url, isUrlChar c) :
    angledForm? (url ++ '>' :: rest) = some (url, rest) := by
  refine read_angled (fun c cs hc => ?_) ?_ hurl
  · rw [angledForm?_cons (ne_of_isUrlChar hc (by decide)),
      if_neg (ne_of_isUrlChar hc (by decide)),
      if_neg (not_or.mpr ⟨ne_of_isUrlChar hc (by decide), ne_of_isUrlChar hc (by decide)⟩)]
  · rw [angledForm?_cons (by decide), if_pos rfl]

theorem angledInside?_cons {c : Char} (hescape : c ≠ '\\') :
    angledInside? (c :: rest) =
      if c = '\n' ∨ c = '<' then none
      else if c = '>' then some ([], rest) else withFirst c (angledInside? rest) := by
  rw [angledInside?]
  · rfl
  · exact fun h _ => hescape h
  · exact fun _ _ h _ => hescape h

theorem angledInside?_append (hurl : ∀ c ∈ url, isUrlChar c) :
    angledInside? (url ++ '>' :: rest) = some (url, rest) := by
  refine read_angled (fun c cs hc => ?_) ?_ hurl
  · rw [angledInside?_cons (ne_of_isUrlChar hc (by decide)),
      if_neg (not_or.mpr ⟨ne_of_isUrlChar hc (by decide), ne_of_isUrlChar hc (by decide)⟩),
      if_neg (ne_of_isUrlChar hc (by decide))]
  · rw [angledInside?_cons (by decide), if_neg (by decide), if_pos rfl]

end

/-! ## 4. Encoded paths

Percent coding turns a character into characters other than parentheses, or leaves it as it is, so
a path and its code have the same parentheses in the same order. -/

section

variable {limit : Option Nat} {depth : Nat} {cs path : List Char} {c : Char}

theorem isUrlChar_of_mem_encodePath (h : c ∈ encodePath path) : isUrlChar c := by
  rw [isUrlChar, Bool.or_eq_true, beq_iff_eq]
  exact isPathChar_or_eq_of_mem_encodePath h

theorem encodePath_eq_nil_iff : encodePath path = [] ↔ path = [] :=
  ⟨fun h => by_contra fun hne => encodePath_ne_nil hne h, fun h => by rw [h]; rfl⟩

/-- Whether a character is a parenthesis. -/
def isParenthesis (c : Char) : Bool := c == '(' || c == ')'

/-- How parentheses nest does not depend on what stands between them. -/
theorem nestsWithin_filter :
    NestsWithin limit depth (cs.filter isParenthesis) ↔ NestsWithin limit depth cs := by
  have hopen (part : List Char) : (part.filter isParenthesis).count '(' = part.count '(' :=
    List.count_filter rfl
  have hclose (part : List Char) : (part.filter isParenthesis).count ')' = part.count ')' :=
    List.count_filter rfl
  constructor
  · rintro ⟨hinOrder, hwithin⟩
    refine ⟨fun part hpart => ?_, fun n hn part hpart => ?_⟩
    · simpa only [hopen, hclose] using hinOrder _ (hpart.filter _)
    · simpa only [hopen, hclose] using hwithin n hn _ (hpart.filter _)
  · rintro ⟨hinOrder, hwithin⟩
    refine ⟨fun part hpart => ?_, fun n hn part hpart => ?_⟩
    · obtain ⟨whole, hwhole, rfl⟩ := List.prefix_filter_iff.mp hpart
      simpa only [hopen, hclose] using hinOrder whole hwhole
    · obtain ⟨whole, hwhole, rfl⟩ := List.prefix_filter_iff.mp hpart
      simpa only [hopen, hclose] using hwithin n hn whole hwhole

theorem isParenthesis_of_mem_percentChar {d : Char} (h : d ∈ percentChar c) :
    isParenthesis d = false := by
  have hdigit : ∀ n < 16, isParenthesis (hexDigitUpper n) = false := by decide
  obtain ⟨b, -, hb⟩ := List.mem_flatMap.mp h
  have hlt : b.toNat < 256 := b.toNat_lt
  simp only [percentByte, List.mem_cons, List.not_mem_nil, or_false] at hb
  rcases hb with rfl | rfl | rfl
  · decide
  · exact hdigit _ (by omega)
  · exact hdigit _ (by omega)

/-- Encoding a path leaves its parentheses. -/
theorem filter_encodePath (path : List Char) :
    (encodePath path).filter isParenthesis = path.filter isParenthesis := by
  induction path with
  | nil => rfl
  | cons c path ih =>
    rw [encodePath, List.flatMap_cons, ← encodePath, List.filter_append, ih]
    split
    next => rw [← List.filter_append, List.singleton_append]
    next hpath =>
      have hc : isParenthesis c = false := by
        rw [← Bool.not_eq_true, isParenthesis, Bool.or_eq_true, beq_iff_eq, beq_iff_eq]
        rintro (rfl | rfl)
        · exact hpath (by decide)
        · exact hpath (by decide)
      rw [List.filter_eq_nil_iff.mpr fun d hd => by simp [isParenthesis_of_mem_percentChar hd],
        List.nil_append, List.filter_cons_of_neg (by simp [hc])]

theorem nestsWithin_encodePath :
    NestsWithin limit depth (encodePath path) ↔ NestsWithin limit depth path := by
  rw [← nestsWithin_filter, filter_encodePath, nestsWithin_filter]

theorem count_encodePath (hmark : isParenthesis c) (path : List Char) :
    (encodePath path).count c = path.count c := by
  rw [← List.count_filter hmark, filter_encodePath, List.count_filter hmark]

/-- An encoded path has no angle brackets to escape. -/
theorem escapeAngles_encodePath (path : List Char) :
    escapeAngles (encodePath path) = encodePath path := by
  rw [escapeAngles, List.flatMap_congr (g := fun c => [c]), List.flatMap_singleton']
  intro c hc
  have hurl := isUrlChar_of_mem_encodePath hc
  exact if_neg (not_or.mpr ⟨ne_of_isUrlChar hurl (by decide), ne_of_isUrlChar hurl (by decide)⟩)

/-- An encoded path stands between angle brackets if it is empty or has more parentheses of one
kind than of the other. -/
theorem renderDestination_encodePath (path : List Char) :
    renderDestination (encodePath path) =
      if path ≠ [] ∧ path.count '(' = path.count ')' then encodePath path
      else '<' :: encodePath path ++ ['>'] := by
  have hplain : ((encodePath path).any fun c => isBlank c || c == '<' || c == '>') = false := by
    rw [List.any_eq_false]
    intro c hc
    have hurl := isUrlChar_of_mem_encodePath hc
    simp [isBlank_of_isUrlChar hurl, ne_of_isUrlChar hurl (d := '<') (by decide),
      ne_of_isUrlChar hurl (d := '>') (by decide)]
  rw [renderDestination, hplain, escapeAngles_encodePath, count_encodePath (by decide),
    count_encodePath (by decide)]
  by_cases hpath : path = []
  · subst hpath
    rfl
  · have hne : (encodePath path).isEmpty = false := by simp [encodePath_eq_nil_iff, hpath]
    by_cases hcount : path.count '(' = path.count ')'
    · simp [hne, hpath, hcount]
    · simp [hne, hpath, hcount]

end

/-! ## 5. Links to paths

The two ways of writing a destination are put together: a path with as many closing as opening
parentheses is written bare, and all others, and the empty path, between angle brackets. -/

section

variable {limit : Option Nat} {depth : Nat} {cs inside after path rest : List Char}
  {title : Option String}

theorem IsBareReader.read_encodePath_iff {read : Nat → List Char → Option (List Char × List Char)}
    (hread : IsBareReader limit read) (hcount : path.count '(' = path.count ')') :
    read 0 (encodePath path ++ (renderTitle title ++ ')' :: rest))
        = some (encodePath path, renderTitle title ++ ')' :: rest) ↔
      NestsWithin limit 0 path := by
  rw [hread.read_url_iff (fun c hc => isUrlChar_of_mem_encodePath hc) fun n _ => Nat.zero_le n,
    nestsWithin_encodePath, count_encodePath (by decide), count_encodePath (by decide)]
  simp [hcount]

/-- What both ways of writing a destination come to: only a path with as many opening as closing
parentheses can be misread. -/
theorem reads_renderDestination_iff (reads : List Char → Prop)
    (hbare : path ≠ [] → path.count '(' = path.count ')' →
      (reads (encodePath path) ↔ NestsWithin limit 0 path))
    (hangled : reads ('<' :: encodePath path ++ ['>'])) :
    reads (renderDestination (encodePath path)) ↔
      (path.count '(' = path.count ')' → NestsWithin limit 0 path) := by
  rw [renderDestination_encodePath]
  split
  next h =>
    rw [hbare h.1 h.2]
    exact ⟨fun hnests _ => hnests, fun hnests => hnests h.2⟩
  next h =>
    refine iff_of_true hangled fun hcount => ?_
    obtain rfl : path = [] := by_contra fun hne => h ⟨hne, hcount⟩
    exact nestsWithin_nil fun n _ => Nat.zero_le n

/-- A bare destination begins with no angle bracket. -/
theorem exists_encodePath_eq_cons (hne : path ≠ []) :
    ∃ c url, encodePath path = c :: url ∧ c ≠ '<' := by
  obtain ⟨c, url, hurl⟩ := List.exists_cons_of_ne_nil (encodePath_ne_nil hne)
  have hc : isUrlChar c := isUrlChar_of_mem_encodePath (hurl ▸ List.mem_cons_self)
  exact ⟨c, url, hurl, ne_of_isUrlChar hc (by decide)⟩

theorem autolink?_eq_none_of_not_mem {url : List Char} (hcolon : ':' ∉ url) (shown : List Char) :
    autolink? url shown = none := by
  have hscheme : isAutolinkable url = false := by
    rw [isAutolinkable]
    split
    next hrest =>
      exact absurd ((List.dropWhile_sublist _).mem (hrest ▸ List.mem_cons_self)) hcolon
    next => rfl
  have hmail : url ≠ ['m', 'a', 'i', 'l', 't', 'o', ':'] ++ shown := by
    rintro rfl
    exact hcolon (List.mem_append_left _ (by decide))
  rw [autolink?, if_neg (by simp [hscheme]), if_neg fun h => hmail h.1]

/-- A link to a path is never written as its own address, since an encoded path has no colon. -/
theorem renderLink_encodePath (path : List Char) (title : Option String) (children : List Node)
    (label : List Char) : renderLink (encodePath path) title children label =
      '[' :: label ++ [']', '('] ++ renderDestination (encodePath path) ++ renderTitle title
        ++ [')'] := by
  have hcolon : ':' ∉ encodePath path := not_mem_encodePath (by decide) (by decide)
  unfold renderLink
  split
  · rw [autolink?_eq_none_of_not_mem hcolon, Option.getD_none]
  · rfl

/-- **A link to a path** is written with the encoded path as its destination, and this is read back
up to the end of the link exactly when the parentheses of the path, if as many close as open, close
in order and nest no deeper than the limit. -/
theorem destinationByGrammar?_encodePath_iff (limit : Option Nat) (path : List Char)
    (title : Option String) (children : List Node) (label rest : List Char) :
    renderLink (encodePath path) title children label =
        '[' :: label ++ [']', '('] ++ renderDestination (encodePath path) ++ renderTitle title
          ++ [')'] ∧
      (destinationByGrammar? limit
          (renderDestination (encodePath path) ++ (renderTitle title ++ ')' :: rest))
          = some (encodePath path, renderTitle title ++ ')' :: rest) ↔
        (path.count '(' = path.count ')' → NestsWithin limit 0 path)) := by
  refine ⟨renderLink_encodePath path title children label, ?_⟩
  refine reads_renderDestination_iff (fun written =>
    destinationByGrammar? limit (written ++ (renderTitle title ++ ')' :: rest))
      = some (encodePath path, renderTitle title ++ ')' :: rest)) (fun hne hcount => ?_) ?_
  · obtain ⟨c, url, hurl, hc⟩ := exists_encodePath_eq_cons hne
    rw [← (isBareReader_bareForm? limit).read_encodePath_iff hcount, hurl, List.cons_append,
      destinationByGrammar?]
    exact fun rest h => hc (List.cons.inj h).1
  · rw [List.append_assoc]
    exact angledForm?_append fun c hc => isUrlChar_of_mem_encodePath hc

/-- In the file name `a)b(c.md` one parenthesis closes and one opens, so the link to the file has
a bare destination; that ends in front of the first parenthesis, and the link leads to `a`. -/
theorem destinationByGrammar?_encodePath_crossed :
    renderLink (encodePath "a)b(c.md".toList) none [.text "x"] ['x'] = "[x](a)b(c.md)".toList ∧
      destinationByGrammar? none "a)b(c.md)".toList = some ("a".toList, ")b(c.md)".toList) := by
  decide

/-! ### The reader of links -/

/-- The reader takes a bare destination as it is written. -/
theorem append_of_bareInside? (h : bareInside? depth cs = some (inside, after)) :
    inside ++ after = cs := by
  fun_induction bareInside? depth cs generalizing inside after with
  | case7 depth d rest hblank ih =>
    obtain ⟨more, hmore, rfl⟩ := by simpa using h
    rw [List.cons_append, List.cons_append, ih hmore]
  | case11 depth rest _ _ _ _ ih =>
    obtain ⟨more, hmore, rfl⟩ := by simpa using h
    rw [List.cons_append, ih hmore]
  | case12 depth c rest _ _ _ _ ih =>
    obtain ⟨more, hmore, rfl⟩ := by simpa using h
    rw [List.cons_append, ih hmore]
  | _ => simp_all

theorem unescapeAll_encodePath (path : List Char) :
    unescapeAll (encodePath path) = encodePath path := by
  have hurl : ∀ c ∈ encodePath path, isUrlChar c := fun c hc => isUrlChar_of_mem_encodePath hc
  rw [unescapeAll]
  generalize encodePath path = url at hurl
  induction url with
  | nil => rfl
  | cons c url ih =>
    have hc := hurl c List.mem_cons_self
    have hescape : c ≠ '\\' := ne_of_isUrlChar hc (by decide)
    have hreference : c ≠ '&' := ne_of_isUrlChar hc (by decide)
    rw [unescapeFrom]
    · rw [ih fun d hd => hurl d (List.mem_cons_of_mem c hd)]
    · exact hreference
    · exact fun _ _ h _ => hescape h

theorem rawDestination?_eq_some_iff (hne : path ≠ []) {found : List Char × List Char} :
    rawDestination? (encodePath path ++ after) = some found ↔
      bareInside? 0 (encodePath path ++ after) = some found ∧ found.1 ≠ [] := by
  obtain ⟨c, url, hurl, hc⟩ := exists_encodePath_eq_cons hne
  rw [hurl, List.cons_append]
  unfold rawDestination?
  split
  next h => exact absurd (List.cons.inj h).1 hc
  next =>
    split
    next hbare =>
      rw [hbare]
      refine iff_of_false nofun ?_
      rintro ⟨hfound, hinside⟩
      obtain rfl := Option.some.inj hfound
      exact hinside rfl
    next hinside =>
      refine ⟨fun h => ⟨h, ?_⟩, fun h => h.1⟩
      intro hnil
      exact hinside found.2 (by rw [h, ← hnil])

theorem destination?_eq_some_iff (hne : path ≠ []) :
    destination? (encodePath path ++ after) = some (encodePath path, after) ↔
      bareInside? 0 (encodePath path ++ after) = some (encodePath path, after) := by
  rw [destination?, Option.map_eq_some_iff]
  constructor
  · rintro ⟨⟨inside, rest⟩, hraw, hparts⟩
    obtain ⟨-, rfl⟩ := Prod.mk.inj hparts
    have hinside := ((rawDestination?_eq_some_iff hne).mp hraw).1
    rw [hinside, List.append_cancel_right (append_of_bareInside? hinside)]
  · intro h
    have hraw := (rawDestination?_eq_some_iff hne).mpr ⟨h, encodePath_ne_nil hne⟩
    exact ⟨_, hraw, Prod.ext (unescapeAll_encodePath path) rfl⟩

/-- **The reader of links** reads the destination of a link to a path as it was exactly when the
parentheses of the path, if as many close as open, close in order and nest no deeper than the
reader's limit. -/
theorem destination?_encodePath_iff (path : List Char) (title : Option String)
    (rest : List Char) :
    destination? (renderDestination (encodePath path) ++ (renderTitle title ++ ')' :: rest))
        = some (encodePath path, renderTitle title ++ ')' :: rest) ↔
      (path.count '(' = path.count ')' → NestsWithin (some parenthesisLimit) 0 path) := by
  refine reads_renderDestination_iff (fun written =>
    destination? (written ++ (renderTitle title ++ ')' :: rest))
      = some (encodePath path, renderTitle title ++ ')' :: rest)) (fun hne hcount => ?_) ?_
  · rw [destination?_eq_some_iff hne, isBareReader_bareInside?.read_encodePath_iff hcount]
  · have hinside : rawDestination?
        ('<' :: encodePath path ++ ['>'] ++ (renderTitle title ++ ')' :: rest))
          = some (encodePath path, renderTitle title ++ ')' :: rest) := by
      rw [List.append_assoc]
      exact angledInside?_append fun c hc => isUrlChar_of_mem_encodePath hc
    rw [destination?, Option.map_eq_some_iff]
    exact ⟨_, hinside, Prod.ext (unescapeAll_encodePath path) rfl⟩

end

end TaskNotes
