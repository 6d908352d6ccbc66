/-
# Ways there and back

A path that is written into a URL stays a path there: it is read back as it was, and nothing of it
is taken for a scheme, a query or a fragment.  The way from a directory to a target, followed from
the directory, leads to the target.  So neither of the two writes different paths alike.

Places are texts here, as they are in a link: `IsPlace` says which of them stand for themselves,
and such a text is the text of a path in normal form (`IsPlace.isNormal`, `IsPlace.toList_eq`).

What is proved about paths in `Proofs/Resolve` and about URLs in `Proofs/Percent` is put together
here for texts, which is what links are made of and what a path is given as.  A place is a text
that normalising leaves as it is, so it says of itself what it needs to be read back.
-/
import TaskNotes.Proofs.Listings
import Mathlib.Data.Set.Function

namespace TaskNotes

/-! ## 1. Paths in URLs

None of these needs the path to be a place: any text can be encoded. -/

/-- An encoded path has no scheme, and gets none from a suffix either. -/
theorem hasScheme_encodePath_append (path : List Char) {suffix : List Char}
    (hsuffix : IsSuffix suffix) : hasScheme (encodePath path ++ suffix) = false := by
  cases path with
  | nil =>
    cases suffix with
    | nil => rfl
    | cons c suffix =>
      have hc : beginsSuffix c = true := hsuffix c rfl
      rw [beginsSuffix, Bool.or_eq_true, beq_iff_eq, beq_iff_eq] at hc
      rcases hc with rfl | rfl <;> rfl
  | cons c path =>
    exact hasScheme_append (encodePath_ne_nil (List.cons_ne_nil c path))
      (not_mem_encodePath (by decide) (by decide)) hsuffix

theorem splitSuffix_encodePath_append (path : List Char) {suffix : List Char}
    (hsuffix : IsSuffix suffix) :
    splitSuffix (encodePath path ++ suffix) = (encodePath path, suffix) :=
  splitSuffix_append (fun _ hc => beginsSuffix_of_mem_encodePath hc) hsuffix

theorem isFragment_encodePath (path : List Char) : isFragment (encodePath path) = false := by
  rw [isFragment, beq_eq_false_iff_ne]
  intro hmark
  exact not_mem_encodePath (by decide) (by decide) (List.mem_of_head? hmark)

/-! ## 2. Places

Two slashes in front begin at another root, and three or more at the usual one; with one slash
there is no such choice. -/

/-- Whether a text is an absolute path in normal form, with a single slash in front. -/
structure IsPlace (text : List Char) : Prop where
  slash : text.head? = some '/'
  single : text[1]? ≠ some '/'
  normal : (Path.ofList text).normalize.toList = text

instance (text : List Char) : Decidable (IsPlace text) :=
  decidable_of_iff (text.head? = some '/' ∧ text[1]? ≠ some '/' ∧
      (Path.ofList text).normalize.toList = text)
    ⟨fun h => ⟨h.1, h.2.1, h.2.2⟩, fun h => ⟨h.slash, h.single, h.normal⟩⟩

/-- The way from a directory to a target, all three as texts. -/
def wayTo (directory target : List Char) : List Char :=
  ((Path.ofList target).relativeTo (.ofList directory)).toList

theorem namesOf_cons_slash (text : List Char) : namesOf ('/' :: text) = namesOf text := by
  have hsplit := splitAtChar_append (List.not_mem_nil : '/' ∉ []) text
  rw [List.nil_append] at hsplit
  rw [namesOf, hsplit, List.filter_cons_of_neg (by decide), namesOf]

/-- One slash in front of a relative text begins at the root. -/
theorem Path.anchor_ofList_cons_slash {text : List Char} (h : text.head? ≠ some '/') :
    (ofList ('/' :: text)).anchor = .root := by
  cases text with
  | nil => rfl
  | cons c text =>
    have hc : (c == '/') = false := beq_false_of_ne fun hc => h (congrArg some hc)
    rw [ofList, List.takeWhile_cons, List.takeWhile_cons, hc]
    rfl

/-- **A path in normal form is read back from its text.** -/
theorem Path.IsNormal.ofList_toList {p : Path} (h : p.IsNormal) : ofList p.toList = p := by
  obtain ⟨anchor, names⟩ := p
  obtain rfl : anchor = .root := h.anchor_eq
  cases names with
  | nil => rfl
  | cons name names =>
    -- below the slash stands the text of a relative path
    let below : Path := ⟨.relative, name :: names⟩
    have hwritten : ∀ n ∈ below.names, IsWritten n := fun n hn => (h.isProper n hn).1
    have hbelow := ofList_toList_of_relative rfl hwritten
    have hhead := (toList_ne_nil_of_relative rfl hwritten).2
    have htext : toList ⟨.root, name :: names⟩ = '/' :: below.toList := rfl
    have hanchor := anchor_ofList_cons_slash hhead
    have hnames : (ofList ('/' :: below.toList)).names = name :: names := by
      have hread : namesOf below.toList = name :: names := congrArg Path.names hbelow
      exact (namesOf_cons_slash below.toList).trans hread
    rw [htext]
    exact congrArg₂ Path.mk hanchor hnames

namespace IsPlace

variable {text directory target other : List Char}

theorem anchor_eq (h : IsPlace text) : (Path.ofList text).anchor = .root := by
  cases text with
  | nil => cases h.slash
  | cons c text =>
    obtain rfl := Option.some.inj h.slash
    refine Path.anchor_ofList_cons_slash ?_
    rw [List.head?_eq_getElem?]
    exact h.single

theorem normalize_ofList (h : IsPlace text) :
    (Path.ofList text).normalize.IsNormal ∧ (Path.ofList text).normalize = Path.ofList text := by
  have hnormal : (Path.ofList text).normalize.IsNormal :=
    Path.isNormal_normalize h.anchor_eq fun _ hname => isWritten_of_mem_namesOf hname
  have hread := hnormal.ofList_toList
  rw [h.normal] at hread
  exact ⟨hnormal, hread.symm⟩

theorem isNormal (h : IsPlace text) : (Path.ofList text).IsNormal := by
  obtain ⟨hnormal, heq⟩ := h.normalize_ofList
  rwa [heq] at hnormal

theorem toList_eq (h : IsPlace text) : (Path.ofList text).toList = text := by
  have hnormal := h.normal
  rwa [h.normalize_ofList.2] at hnormal

/-- **The way to a place leads there.** -/
theorem resolve_wayTo (htarget : IsPlace target) (hdirectory : IsPlace directory) :
    ((Path.ofList directory).resolve (wayTo directory target)).toList = target := by
  rw [wayTo, Path.resolve_relativeTo htarget.isNormal hdirectory.isNormal, htarget.toList_eq]

/-- Places are told apart by the ways to them. -/
theorem injOn_wayTo (hdirectory : IsPlace directory) :
    Set.InjOn (wayTo directory) {text | IsPlace text} := by
  intro target htarget other hother hway
  rw [← resolve_wayTo htarget hdirectory, hway, resolve_wayTo hother hdirectory]

end IsPlace

/-! ## 3. There and back

Being inverse gives that neither writes two texts alike. -/

/-- **Writing a path and finding its target are inverse to each other.**  An encoded path is read
back as it was.  It holds no question mark, number sign or colon, so it is no fragment, has no
scheme, and ends where the suffix begins that is put behind it.  From one place the way to another
leads there.  And two paths are never encoded alike, nor are the ways from a place to two others
the same. -/
theorem ways_there_and_back :
    (∀ path : List Char, decodeUrl (encodePath path) = .ok path ∧
      '?' ∉ encodePath path ∧ '#' ∉ encodePath path ∧ ':' ∉ encodePath path ∧
      isFragment (encodePath path) = false ∧
      ∀ suffix, IsSuffix suffix →
        splitSuffix (encodePath path ++ suffix) = (encodePath path, suffix) ∧
        hasScheme (encodePath path ++ suffix) = false ∧
        (path ≠ [] → isFragment (encodePath path ++ suffix) = false)) ∧
      (∀ target directory, IsPlace target → IsPlace directory →
        ((Path.ofList directory).resolve (wayTo directory target)).toList = target) ∧
      Function.Injective encodePath ∧
      ∀ directory, IsPlace directory → Set.InjOn (wayTo directory) {text | IsPlace text} := by
  refine ⟨fun path => ⟨decodeUrl_encodePath path, not_mem_encodePath (by decide) (by decide),
      not_mem_encodePath (by decide) (by decide), not_mem_encodePath (by decide) (by decide),
      isFragment_encodePath path, fun suffix hsuffix => ⟨?_, ?_, fun hpath => ?_⟩⟩,
    fun target directory => IsPlace.resolve_wayTo, fun path other => encodePath_injective,
    fun directory => IsPlace.injOn_wayTo⟩
  · exact splitSuffix_encodePath_append path hsuffix
  · exact hasScheme_encodePath_append path hsuffix
  · exact (refersTo_encodePath hpath hsuffix).no_fragment

/-- A path with marks of its own in front of a suffix, and the way between two directories. -/
theorem ways_there_and_back_questions :
    IsSuffix "?x#top".toList ∧
      splitSuffix (encodePath "a: b?#.md".toList ++ "?x#top".toList) =
        ("a%3A%20b%3F%23.md".toList, "?x#top".toList) ∧
      IsPlace "/n/s/Why?.md".toList ∧ IsPlace "/n/t/u".toList ∧
      wayTo "/n/t/u".toList "/n/s/Why?.md".toList = "../../s/Why?.md".toList ∧
      ((Path.ofList "/n/t/u".toList).resolve "../../s/Why?.md".toList).toList =
        "/n/s/Why?.md".toList := by
  obtain ⟨hencoded, hways, -, -⟩ := ways_there_and_back
  have hsuffix : IsSuffix "?x#top".toList := fun c hc => by
    obtain rfl := Option.some.inj hc
    rfl
  have htarget : IsPlace "/n/s/Why?.md".toList := by decide +kernel
  have hdirectory : IsPlace "/n/t/u".toList := by decide +kernel
  have htext : encodePath "a: b?#.md".toList = "a%3A%20b%3F%23.md".toList := by decide +kernel
  have hway : wayTo "/n/t/u".toList "/n/s/Why?.md".toList = "../../s/Why?.md".toList := by
    decide +kernel
  obtain ⟨-, -, -, -, -, hsuffixes⟩ := hencoded "a: b?#.md".toList
  refine ⟨hsuffix, ?_, htarget, hdirectory, hway, ?_⟩
  · rw [← htext]
    exact (hsuffixes _ hsuffix).1
  · rw [← hway]
    exact hways _ _ htarget hdirectory

end TaskNotes
