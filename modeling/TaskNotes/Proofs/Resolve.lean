/-
# Resolving paths

A path is resolved against a directory by joining the two and bringing the result into normal
form.  In normal form, below the root and without `..`, paths are told apart by their names, and
the way from a directory to a target leads to the target:

* `resolve_relativeTo`: the way, written as a text and resolved against the directory, is the
  target again;
* `isNormal_resolve`: what a relative text resolves to is in normal form;
* `isNormal_outputPath`: a document is never sent out of normal form, whatever its title.

Going along names is a fold with the names that have been gone down so far, the last one in front,
and `..` takes the last one away.  All that is proved of ways is proved of this fold: names that
lead down are put in front one after the other, and as many steps up take them away again.

Nothing is looked up on a disk.  A path in normal form stands for a place only as far as no link is
in its way; what links do to paths is told in `Proofs/Routes`.
-/
import TaskNotes.Plan.Output
import TaskNotes.Proofs.Lists

namespace TaskNotes

/-! ## 1. Names between slashes

What is cut at slashes holds no slash.  Empty names and single dots are dropped, so that a path has
one list of names. -/

/-- Whether a name can be written between slashes and is read back as a name. -/
def IsWritten (name : Name) : Prop := isName name = true ∧ '/' ∉ name

/-- Whether a name leads down, to a file or a directory, and not up. -/
def IsProper (name : Name) : Prop := IsWritten name ∧ name ≠ parentName

instance (name : Name) : Decidable (IsWritten name) := inferInstanceAs (Decidable (_ ∧ _))

instance (name : Name) : Decidable (IsProper name) := inferInstanceAs (Decidable (_ ∧ _))

theorem isWritten_parentName : IsWritten parentName := ⟨by decide, by decide⟩

theorem splitAtChar_of_not_mem {c : Char} {word : List Char} (h : c ∉ word) :
    splitAtChar c word = [word] := by
  induction word with
  | nil => rfl
  | cons d word ih =>
    have hne : (d == c) = false := beq_false_of_ne fun hd => h (hd ▸ List.mem_cons_self)
    have ih := ih fun hc => h (List.mem_cons_of_mem _ hc)
    rw [splitAtChar] at ih ⊢
    simp only [splitAtSeparators, hne, Bool.false_eq_true, if_false, ih]

theorem splitAtChar_append {c : Char} {word : List Char} (h : c ∉ word) (rest : List Char) :
    splitAtChar c (word ++ c :: rest) = word :: splitAtChar c rest := by
  induction word with
  | nil => simp [splitAtChar, splitAtSeparators]
  | cons d word ih =>
    have hne : (d == c) = false := beq_false_of_ne fun hd => h (hd ▸ List.mem_cons_self)
    have ih := ih fun hc => h (List.mem_cons_of_mem _ hc)
    rw [splitAtChar] at ih ⊢
    simp only [List.cons_append, splitAtSeparators, hne, Bool.false_eq_true, if_false, ih]

/-- Words that are put together with a character they do not hold are cut apart again. -/
theorem splitAtChar_joinWith {c : Char} :
    ∀ {words : List (List Char)}, words ≠ [] → (∀ word ∈ words, c ∉ word) →
      splitAtChar c (joinWith [c] words) = words
  | [], hne, _ => absurd rfl hne
  | [word], _, h => splitAtChar_of_not_mem (h word List.mem_cons_self)
  | word :: next :: words, _, h => by
    rw [joinWith, List.append_assoc, List.singleton_append,
      splitAtChar_append (h word List.mem_cons_self),
      splitAtChar_joinWith (List.cons_ne_nil _ _) fun w hw => h w (List.mem_cons_of_mem _ hw)]

theorem not_mem_of_mem_splitAtChar {c : Char} {text word : List Char}
    (h : word ∈ splitAtChar c text) : c ∉ word := by
  induction text generalizing word with
  | nil =>
    rw [List.mem_singleton.mp h]
    exact List.not_mem_nil
  | cons d text ih =>
    rw [splitAtChar, splitAtSeparators] at h
    rw [← splitAtChar] at h
    by_cases hd : (d == c) = true
    · rw [if_pos hd] at h
      rcases List.mem_cons.mp h with rfl | h
      · exact List.not_mem_nil
      · exact ih h
    · rw [if_neg hd] at h
      have hdc : c ≠ d := fun e => hd (beq_iff_eq.mpr e.symm)
      cases hrest : splitAtChar c text with
      | nil =>
        rw [hrest] at h
        rw [List.mem_singleton.mp h, List.mem_singleton]
        exact hdc
      | cons first more =>
        rw [hrest] at h
        rcases List.mem_cons.mp h with rfl | h
        · have hfirst : c ∉ first := ih (by rw [hrest]; exact List.mem_cons_self)
          exact List.not_mem_cons_of_ne_of_not_mem hdc hfirst
        · exact ih (by rw [hrest]; exact List.mem_cons_of_mem _ h)

theorem isWritten_of_mem_namesOf {text : List Char} {name : Name} (h : name ∈ namesOf text) :
    IsWritten name := by
  obtain ⟨hmem, hname⟩ := List.mem_filter.mp h
  exact ⟨hname, not_mem_of_mem_splitAtChar hmem⟩

namespace Path

/-! ## 2. Relative paths as texts -/

theorem toList_ne_nil_of_relative {p : Path} (hanchor : p.anchor = .relative)
    (hnames : ∀ name ∈ p.names, IsWritten name) :
    p.toList ≠ [] ∧ p.toList.head? ≠ some '/' := by
  rw [toList]
  cases hcase : p.names with
  | nil =>
    rw [if_pos ⟨hanchor, rfl⟩]
    exact ⟨List.cons_ne_nil _ _, by decide⟩
  | cons name names =>
    rw [hcase] at hnames
    obtain ⟨hname, hslash⟩ := hnames name List.mem_cons_self
    rw [if_neg fun h => List.cons_ne_nil _ _ h.2, hanchor, Anchor.text, List.nil_append]
    cases name with
    | nil => cases hname
    | cons c name =>
      have hc : c ≠ '/' := fun h => hslash (h ▸ List.mem_cons_self)
      have hhead : (joinWith ['/'] ((c :: name) :: names)).head? = some c := by
        cases names <;> rfl
      constructor
      · intro hnil
        rw [hnil] at hhead
        cases hhead
      · rw [hhead]
        exact fun h => hc (Option.some.inj h)

/-- **A relative path is read back from its text.** -/
theorem ofList_toList_of_relative {p : Path} (hanchor : p.anchor = .relative)
    (hnames : ∀ name ∈ p.names, IsWritten name) : ofList p.toList = p := by
  have hhead := (toList_ne_nil_of_relative hanchor hnames).2
  have hslashes : p.toList.takeWhile (· == '/') = [] := by
    cases htext : p.toList with
    | nil => rfl
    | cons c text =>
      rw [htext, List.head?_cons] at hhead
      have hc : (c == '/') = false := beq_false_of_ne fun h => hhead (congrArg some h)
      rw [List.takeWhile_cons, hc]
      rfl
  have hread : namesOf p.toList = p.names := by
    rw [toList]
    by_cases hnil : p.names = []
    · rw [if_pos ⟨hanchor, hnil⟩, hnil]
      rfl
    · rw [if_neg fun h => hnil h.2, hanchor, Anchor.text, List.nil_append, namesOf,
        splitAtChar_joinWith hnil fun name hname => (hnames name hname).2]
      exact List.filter_eq_self.mpr fun name hname => (hnames name hname).1
  rw [ofList, hslashes, hread, List.length_nil, Anchor.ofSlashes, ← hanchor]

/-! ## 3. Normal form

Above the root there is nothing, so steps up from there lead nowhere else, and what is left at the
end are names that lead down. -/

/-- Whether a path begins at the root and all its names lead down. -/
structure IsNormal (p : Path) : Prop where
  anchor_eq : p.anchor = .root
  isProper : ∀ name ∈ p.names, IsProper name

instance (p : Path) : Decidable p.IsNormal :=
  decidable_of_iff (p.anchor = .root ∧ ∀ name ∈ p.names, IsProper name)
    ⟨fun h => ⟨h.1, h.2⟩, fun h => ⟨h.anchor_eq, h.isProper⟩⟩

theorem isNormal_parent {p : Path} (h : p.IsNormal) : p.parent.IsNormal :=
  ⟨h.anchor_eq, fun name hname => h.isProper name ((List.dropLast_sublist _).mem hname)⟩

theorem isNormal_child {p : Path} (h : p.IsNormal) {name : Name} (hname : IsProper name) :
    (p.child name).IsNormal := by
  refine ⟨h.anchor_eq, fun n hn => ?_⟩
  rcases List.mem_append.mp hn with hn | hn
  · exact h.isProper n hn
  · rw [List.mem_singleton.mp hn]
    exact hname

variable {anchored : Bool} {names : List Name}

theorem step_of_ne {name : Name} (h : name ≠ parentName) (before : List Name) :
    step anchored before name = name :: before := if_neg h

theorem step_parentName_cons {last : Name} (h : last ≠ parentName) (before : List Name) :
    step anchored (last :: before) parentName = before := by
  unfold step
  rw [if_pos rfl]
  exact if_neg h

/-- Names that lead down are gone down one after the other. -/
theorem foldl_step_of_ne (h : ∀ name ∈ names, name ≠ parentName) (before : List Name) :
    names.foldl (step anchored) before = names.reverse ++ before := by
  induction names generalizing before with
  | nil => rfl
  | cons name names ih =>
    have hname : name ≠ parentName := h name List.mem_cons_self
    rw [List.foldl_cons, step_of_ne hname, ih fun n hn => h n (List.mem_cons_of_mem _ hn),
      List.reverse_cons, List.append_assoc, List.singleton_append]

/-- As many steps up as there were steps down lead back. -/
theorem foldl_step_parents (h : ∀ name ∈ names, name ≠ parentName) (before : List Name) :
    (List.replicate names.length parentName).foldl (step anchored) (names ++ before) = before := by
  induction names with
  | nil => rfl
  | cons name names ih =>
    have hname : name ≠ parentName := h name List.mem_cons_self
    rw [List.length_cons, List.replicate_succ, List.foldl_cons, List.cons_append,
      step_parentName_cons hname]
    exact ih fun n hn => h n (List.mem_cons_of_mem _ hn)

/-- Below the root, steps leave only names that lead down. -/
theorem isProper_of_mem_foldl_step (hnames : ∀ name ∈ names, IsWritten name)
    {before : List Name} (hbefore : ∀ name ∈ before, IsProper name) :
    ∀ name ∈ names.foldl (step true) before, IsProper name := by
  induction names generalizing before with
  | nil => exact hbefore
  | cons name names ih =>
    refine ih (fun n hn => hnames n (List.mem_cons_of_mem _ hn)) ?_
    by_cases hname : name = parentName
    · rw [hname]
      cases before with
      | nil =>
        intro n hn
        cases hn
      | cons last before =>
        rw [step_parentName_cons (hbefore last List.mem_cons_self).2]
        exact fun n hn => hbefore n (List.mem_cons_of_mem _ hn)
    · rw [step_of_ne hname]
      intro n hn
      rcases List.mem_cons.mp hn with rfl | hn
      · exact ⟨hnames n List.mem_cons_self, hname⟩
      · exact hbefore n hn

/-- A path whose names all lead down stays as it is. -/
theorem normalize_of_isProper {p : Path} (h : ∀ name ∈ p.names, IsProper name) :
    p.normalize = p := by
  rw [normalize, foldl_step_of_ne fun name hname => (h name hname).2, List.append_nil,
    List.reverse_reverse]

theorem isNormal_normalize {p : Path} (hanchor : p.anchor = .root)
    (hnames : ∀ name ∈ p.names, IsWritten name) : p.normalize.IsNormal := by
  have habsolute : p.isAbsolute = true := by
    rw [isAbsolute, hanchor]
    rfl
  refine ⟨hanchor, fun name hname => ?_⟩
  rw [normalize, habsolute] at hname
  refine isProper_of_mem_foldl_step hnames ?_ name (List.mem_reverse.mp hname)
  intro n hn
  cases hn

/-! ## 4. Ways

A way is made by dropping what two paths have in common: one step up for each name that is left of
the directory, and then the names that are left of the target. -/

theorem exists_common (names others : List Name) :
    ∃ common, names = common ++ (dropCommon names others).1 ∧
      others = common ++ (dropCommon names others).2 := by
  induction names generalizing others with
  | nil => exact ⟨[], rfl, rfl⟩
  | cons a names ih =>
    cases others with
    | nil => exact ⟨[], rfl, rfl⟩
    | cons b others =>
      rw [dropCommon]
      split
      next hab =>
        obtain ⟨common, hnames, hothers⟩ := ih others
        refine ⟨a :: common, ?_, ?_⟩
        · rw [List.cons_append, ← hnames]
        · rw [List.cons_append, ← hothers, hab]
      next => exact ⟨[], rfl, rfl⟩

/-- What a text resolves to from a directory. -/
def resolve (directory : Path) (text : List Char) : Path := (directory.join (ofList text)).normalize

theorem anchor_relativeTo (target directory : Path) :
    (target.relativeTo directory).anchor = .relative := rfl

variable {target directory : Path}

/-- The way goes up to what the directory and the target have in common, and down again. -/
theorem exists_relativeTo_of_isProper (htarget : ∀ name ∈ target.names, IsProper name)
    (hdirectory : ∀ name ∈ directory.names, IsProper name) :
    ∃ common up down, directory.names = common ++ up ∧ target.names = common ++ down ∧
      target.relativeTo directory = ⟨.relative, (up.map fun _ => parentName) ++ down⟩ := by
  obtain ⟨common, hup, hdown⟩ := exists_common directory.names target.names
  refine ⟨common, _, _, hup, hdown, ?_⟩
  rw [relativeTo, normalize_of_isProper htarget, normalize_of_isProper hdirectory]

section

variable (htarget : target.IsNormal) (hdirectory : directory.IsNormal)

include htarget hdirectory

theorem exists_relativeTo_eq :
    ∃ common up down, directory.names = common ++ up ∧ target.names = common ++ down ∧
      target.relativeTo directory = ⟨.relative, (up.map fun _ => parentName) ++ down⟩ :=
  exists_relativeTo_of_isProper htarget.isProper hdirectory.isProper

theorem isWritten_of_mem_relativeTo :
    ∀ name ∈ (target.relativeTo directory).names, IsWritten name := by
  obtain ⟨common, up, down, -, hdown, hway⟩ := exists_relativeTo_eq htarget hdirectory
  intro name hname
  rw [hway] at hname
  rcases List.mem_append.mp hname with hname | hname
  · obtain ⟨_, -, rfl⟩ := List.mem_map.mp hname
    exact isWritten_parentName
  · refine (htarget.isProper name ?_).1
    rw [hdown]
    exact List.mem_append_right _ hname

/-- Gone from the directory, the steps up leave what the two have in common. -/
theorem foldl_step_relativeTo :
    (directory.names ++ (target.relativeTo directory).names).foldl (step anchored) [] =
      target.names.reverse := by
  obtain ⟨common, up, down, hup, hdown, hway⟩ := exists_relativeTo_eq htarget hdirectory
  have hdirectoryNe : ∀ name ∈ directory.names, name ≠ parentName :=
    fun name hname => (hdirectory.isProper name hname).2
  have htargetNe : ∀ name ∈ target.names, name ≠ parentName :=
    fun name hname => (htarget.isProper name hname).2
  rw [hup] at hdirectoryNe
  rw [hdown] at htargetNe
  have hback : (up.map fun _ => parentName).foldl (step anchored) (up.reverse ++ common.reverse) =
      common.reverse := by
    rw [List.map_const', ← List.length_reverse]
    refine foldl_step_parents (fun name hname => ?_) _
    exact hdirectoryNe name (List.mem_append_right _ (List.mem_reverse.mp hname))
  calc
    _ = (up.map (fun _ => parentName) ++ down).foldl (step anchored)
          (up.reverse ++ common.reverse) := by
      rw [hway, hup, List.foldl_append, foldl_step_of_ne hdirectoryNe, List.append_nil,
        List.reverse_append]
    _ = down.foldl (step anchored) common.reverse := by rw [List.foldl_append, hback]
    _ = target.names.reverse := by
      rw [foldl_step_of_ne fun name hname => htargetNe name (List.mem_append_right _ hname),
        ← List.reverse_append, hdown]

/-- **The way from a directory to a target leads to the target.** -/
theorem resolve_relativeTo :
    directory.resolve (target.relativeTo directory).toList = target := by
  have hread := ofList_toList_of_relative (anchor_relativeTo target directory)
    (isWritten_of_mem_relativeTo htarget hdirectory)
  have hjoin : directory.join (target.relativeTo directory) =
      ⟨.root, directory.names ++ (target.relativeTo directory).names⟩ := by
    rw [join, isAbsolute, anchor_relativeTo, ← hdirectory.anchor_eq]
    rfl
  rw [resolve, hread, hjoin, normalize]
  change (⟨.root, (List.foldl (step true) [] _).reverse⟩ : Path) = target
  rw [foldl_step_relativeTo htarget hdirectory, List.reverse_reverse, ← htarget.anchor_eq]

end

/-! ## 5. What texts resolve to -/

theorem anchor_ofList_of_head? {text : List Char} (h : text.head? ≠ some '/') :
    (ofList text).anchor = .relative := by
  cases text with
  | nil => rfl
  | cons c text =>
    have hc : (c == '/') = false := beq_false_of_ne fun hc => h (congrArg some hc)
    rw [ofList, List.takeWhile_cons, hc]
    rfl

theorem isAbsolute_ofList_of_head? {text : List Char} (h : text.head? = some '/') :
    (ofList text).isAbsolute = true := by
  cases text with
  | nil => cases h
  | cons c text =>
    obtain rfl := Option.some.inj h
    rw [isAbsolute, ofList, List.takeWhile_cons, beq_self_eq_true, if_pos rfl, List.length_cons]
    generalize (text.takeWhile (· == '/')).length = slashes
    match slashes with
    | 0 => rfl
    | 1 => rfl
    | _ + 2 => rfl

/-- An absolute text resolves to the same path from everywhere. -/
theorem resolve_of_head? {text : List Char} (h : text.head? = some '/')
    (directory other : Path) : directory.resolve text = other.resolve text := by
  rw [resolve, resolve, join, join, if_pos (isAbsolute_ofList_of_head? h),
    if_pos (isAbsolute_ofList_of_head? h)]

/-- **What a relative text resolves to is in normal form.** -/
theorem isNormal_resolve {directory : Path} (hdirectory : directory.IsNormal) {text : List Char}
    (h : text.head? ≠ some '/') : (directory.resolve text).IsNormal := by
  have hrelative : ¬ (ofList text).isAbsolute = true := by
    rw [isAbsolute, anchor_ofList_of_head? h]
    decide
  rw [resolve, join, if_neg hrelative]
  refine isNormal_normalize hdirectory.anchor_eq fun name hname => ?_
  rcases List.mem_append.mp hname with hname | hname
  · exact (hdirectory.isProper name hname).1
  · exact isWritten_of_mem_namesOf hname

end Path

/-! ## 6. Names from titles

In a name the slashes of a title become hyphens, and a name that would be a row of dots is refused,
so no title leads elsewhere. -/

theorem mem_of_mem_trimBlanks {c : Char} {cs : List Char} (h : c ∈ trimBlanks cs) : c ∈ cs := by
  rw [trimBlanks, trimBoth, dropEndWhile, List.mem_reverse] at h
  have h := (List.dropWhile_sublist _).mem h
  rw [List.mem_reverse] at h
  exact (List.dropWhile_sublist _).mem h

/-- A name that a title gives holds no slash and is no row of dots. -/
theorem isProper_of_fileName? {title : List Char} {name : Name}
    (h : fileName? title = some name) : IsProper name := by
  unfold fileName? at h
  simp only at h
  split at h
  next => cases h
  next hdots =>
    obtain rfl := Option.some.inj h
    refine ⟨⟨?_, ?_⟩, ?_⟩
    · rw [isName, Bool.and_eq_true, Bool.not_eq_true', bne_iff_ne]
      refine ⟨?_, ?_⟩
      · rw [List.isEmpty_eq_false_iff]
        intro hnil
        rw [hnil] at hdots
        exact hdots rfl
      · intro hdot
        rw [hdot] at hdots
        exact hdots rfl
    · intro hslash
      obtain ⟨c, -, hc⟩ := List.mem_map.mp (mem_of_mem_trimBlanks hslash)
      split at hc
      next => cases hc
      next hkept => exact hkept (.inl hc)
    · intro hparent
      rw [hparent] at hdots
      exact hdots rfl

theorem isProper_indexName : IsProper indexName := ⟨⟨by decide, by decide⟩, by decide⟩

/-- A name stays proper with the extension of documents. -/
theorem isProper_append_documentExtension {name : Name} (h : IsProper name) :
    IsProper (name ++ documentExtension) := by
  have hlast : (name ++ documentExtension).getLast? = some 'd' := by
    rw [List.getLast?_append]
    rfl
  refine ⟨⟨?_, ?_⟩, ?_⟩
  · rw [isName, Bool.and_eq_true, Bool.not_eq_true', bne_iff_ne, List.isEmpty_eq_false_iff]
    constructor
    · intro hnil
      rw [hnil] at hlast
      cases hlast
    · intro hdot
      rw [hdot] at hlast
      cases hlast
  · rw [List.mem_append, not_or]
    exact ⟨h.1.2, by decide⟩
  · intro hparent
    rw [hparent] at hlast
    cases hlast

/-- **A document is sent to a path in normal form**, whatever its title. -/
theorem isNormal_outputPath {root input : Path} (h : input.IsNormal) (title : Option String) :
    (outputPath root input title).IsNormal := by
  rw [outputPath]
  cases hname : title.bind fun title => fileName? title.toList with
  | none => exact h
  | some name =>
    obtain ⟨text, -, hname⟩ := Option.bind_eq_some_iff.mp hname
    have hproper : IsProper name := isProper_of_fileName? hname
    simp only
    split
    · split
      · exact h
      · exact Path.isNormal_child (Path.isNormal_child
          (Path.isNormal_parent (Path.isNormal_parent h)) hproper) isProper_indexName
    · exact Path.isNormal_child (Path.isNormal_parent h)
        (isProper_append_documentExtension hproper)

end TaskNotes
