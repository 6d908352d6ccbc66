/-
# Paths

A path is an anchor and the names below it.  Empty names and `.` do not count, `..` is a name
like any other until a path is normalised; a path that begins with exactly two slashes has an
anchor of its own.  Paths are compared as they are, and all of this is lexical: no file is looked
at.

`Path.relativeTo` goes up from the directory to what the two paths have in common and down again.

A path is what is written, and a place is what it leads to on a disk.  Without links the two agree
for paths in normal form, and what links do is told in `Disk`.

The text of a path and the path are two things: many texts are read as one path, and writing it
gives one of them, with single slashes and no dots but `..`.
-/
import TaskNotes.Text.CodeTable
import TaskNotes.Text.Lines

namespace TaskNotes

/-! ## 1. Paths and their texts

A name may hold any characters but a slash. -/

/-- A part of a path. -/
abbrev Name := List Char

/-- Where a path begins. -/
inductive Anchor
  | relative
  | root
  | doubleRoot
deriving DecidableEq, Repr

/-- The slashes of an anchor. -/
def Anchor.text : Anchor → List Char
  | .relative => []
  | .root => ['/']
  | .doubleRoot => ['/', '/']

/-- The anchor of a text with so many slashes in front. -/
def Anchor.ofSlashes : Nat → Anchor
  | 0 => .relative
  | 2 => .doubleRoot
  | _ => .root

/-- A path in a file system. -/
structure Path where
  anchor : Anchor
  names : List Name
deriving DecidableEq, Repr

/-- The name for the directory above. -/
def parentName : Name := ['.', '.']

/-- Whether a text between slashes counts as a name. -/
def isName (text : List Char) : Bool := !text.isEmpty && text != ['.']

/-- The names between the slashes of a text. -/
def namesOf (text : List Char) : List Name := (splitAtChar '/' text).filter isName

namespace Path

/-- Reads a path. -/
def ofList (text : List Char) : Path :=
  ⟨.ofSlashes (text.takeWhile (· == '/')).length, namesOf text⟩

/-- Reads a path. -/
def ofString (text : String) : Path := ofList text.toList

/-- The text of a path. -/
def toList (p : Path) : List Char :=
  if p.anchor = .relative ∧ p.names = [] then ['.']
  else p.anchor.text ++ joinWith ['/'] p.names

/-- The text of a path. -/
def toString (p : Path) : String := String.ofList p.toList

/-! ## 2. Parts

All of these are taken of the names as they stand; the directory above `a/..` is `a`. -/

/-- Whether a path begins at a root. -/
def isAbsolute (p : Path) : Bool := p.anchor != .relative

/-- The last name of a path, empty if there is none. -/
def name (p : Path) : Name := p.names.getLast?.getD []

/-- The directory in which a path lies; a path without names lies in itself. -/
def parent (p : Path) : Path := { p with names := p.names.dropLast }

/-- All directories in which a path lies, the innermost first. -/
def parents (p : Path) : List Path :=
  (List.range p.names.length).reverse.map fun n => { p with names := p.names.take n }

/-- The path of a name below another path. -/
def child (p : Path) (name : Name) : Path := { p with names := p.names ++ [name] }

/-- Whether a path is another one or lies below it. -/
def isWithin (p root : Path) : Bool := p == root || p.parents.contains root

/-- A path seen from another one: itself if it begins at a root. -/
def join (base p : Path) : Path :=
  if p.isAbsolute then p else { base with names := base.names ++ p.names }

/-- A name without its last extension.  A dot at either end begins none. -/
def stemOf (name : Name) : Name :=
  let extension := (name.reverse.takeWhile (· != '.')).length
  if 0 < extension ∧ extension + 1 < name.length then name.take (name.length - extension - 1)
  else name

/-! ## 3. Normal form

Names are gone through from the front, with those gone down so far kept in reverse. -/

/-- Goes on from names, the last one first, by one more: `..` takes one away if there is one. -/
def step (anchored : Bool) (names : List Name) (name : Name) : List Name :=
  if name = parentName then
    match names with
    | [] => if anchored then [] else [name]
    | last :: before => if last = parentName then name :: names else before
  else name :: names

/-- A path without `..`, except at the start of a relative one. -/
def normalize (p : Path) : Path :=
  { p with names := (p.names.foldl (step p.isAbsolute) []).reverse }

/-- Drops what two lists of names have in common at the start. -/
def dropCommon : List Name → List Name → List Name × List Name
  | a :: as, b :: bs => if a = b then dropCommon as bs else (a :: as, b :: bs)
  | as, bs => (as, bs)

/-- The path of a target as seen from a directory, both brought into normal form before: one step
up for each name of the directory that the target does not share, and then the rest of the target.
-/
def relativeTo (target directory : Path) : Path :=
  let (up, down) := dropCommon directory.normalize.names target.normalize.names
  ⟨.relative, up.map (fun _ => parentName) ++ down⟩

end Path

end TaskNotes
