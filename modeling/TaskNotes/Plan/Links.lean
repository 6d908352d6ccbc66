/-
# Links that follow renamed files

A relative link is read from the directory its document was authored in and written for the
directory the document goes to; when its target is renamed it points at the new path.  Its query
and fragment stay as they are.  A label that names the old target names the new one.

A tree in which no URL changes is left alone, so that its document is not written anew.

A link refers to a file if its URL has no scheme, is no fragment and has a path that can be decoded
(`fileReference?`).  All other URLs are left as they are.  Where a link refers to a file that has
not been renamed, its URL is written anew only if the document has moved to another directory and
the URL is relative; and not even then if it would read the same.

Links inside links are left alone, and with them the labels of links whose URL stays.
-/
import TaskNotes.Plan.Output
import TaskNotes.Url.Reference

namespace TaskNotes

/-! ## 1. URLs

Paths are resolved from the directory in which a link was authored, and written for the directory
its document goes to. -/

/-- Old paths and the new ones. -/
abbrev Renames := List (Path × Path)

/-- The new path of a renamed file; of several the last counts. -/
def Renames.target? (renames : Renames) (path : Path) : Option Path :=
  renames.reverse.lookup path

/-- The name a label would use for a file: that of an index is the name of its directory. -/
def linkName (path : Path) : Name :=
  if path.name = indexName then path.parent.name else Path.stemOf path.name

/-- What becomes of a URL: the new one, and the old and the new path of its target when that has
been renamed. -/
structure Relinked where
  url : List Char
  renamed : Option (Path × Path)
deriving DecidableEq

/-- A link to a file: the path as it is written and the suffix of the URL. -/
def fileReference? (url : List Char) : Option (List Char × List Char) :=
  if url.isEmpty || hasScheme url || isFragment url then none
  else
    let (head, suffix) := splitSuffix url
    if head.isEmpty then none
    else
      match decodeUrl head with
      | .ok path => some (path, suffix)
      | .error _ => none

/-- The URL of a link as it reads from the directory its document is written to.  The URL of a
renamed file is always written anew; any other one only if it is relative and its document moves to
another directory, from which the file is reached in another way. -/
def relinkUrl (source output : Path) (renames : Renames) (url : List Char) : Relinked :=
  match fileReference? url with
  | none => ⟨url, none⟩
  | some (path, suffix) =>
    let target := (source.join (.ofList path)).normalize
    match renames.target? target with
    | some moved =>
      ⟨encodePath (moved.relativeTo output).toList ++ suffix, some (target, moved)⟩
    | none =>
      let relative := (target.relativeTo output).toList
      if source = output ∨ path.head? = some '/' ∨ relative = path then ⟨url, none⟩
      else ⟨encodePath relative ++ suffix, none⟩

/-! ## 2. Trees

The functions give nothing when nothing changes.  So a change is seen without comparing trees, and
what has not changed is shared. -/

/-- The label of a link after its target has been renamed.  It is replaced if it is one text, and
this is the name of the old target. -/
def relabel (renamed : Option (Path × Path)) (label : List Node) : List Node :=
  match renamed, label with
  | some (old, new), [.text value] =>
    if value.toList = linkName old then [.text (String.ofList (linkName new))] else label
  | _, _ => label

/-- A link with its URL and label brought up to date, if the URL changes. -/
def relinkLink? (relink : List Char → Relinked) (url : String) (title : Option String)
    (label : List Node) : Option Node :=
  let found := relink url.toList
  if found.url = url.toList then none
  else some (.link (String.ofList found.url) title (relabel found.renamed label))

mutual
/-- A tree with its links brought up to date, if any URL changes.  Links inside links are left
alone. -/
def Node.relink? (relink : List Char → Relinked) : Node → Option Node
  | .leaf _ => none
  | .branch kind cs =>
    match kind with
    | .link url title => relinkLink? relink url title cs
    | _ => (relinkAll? relink cs).map (.branch kind)

/-- Several trees with their links brought up to date, if any URL changes. -/
def relinkAll? (relink : List Char → Relinked) : List Node → Option (List Node)
  | [] => none
  | c :: cs =>
    match c.relink? relink, relinkAll? relink cs with
    | none, none => none
    | changed, others => some (changed.getD c :: others.getD cs)
end

/-! ## 3. Plans

The renames of all documents are known before the links of any are brought up to date. -/

/-- A write with its links brought up to date. -/
def Write.relink (formatted : Bool) (renames : Renames) (w : Write) : Write :=
  match w.tree.relink? (relinkUrl w.origin.parent w.path.parent renames) with
  | some tree => w.withTree formatted tree
  | none => w

/-- Carries out the renames of a plan: what is left are the writes, their links brought up to
date, and after them the deletes. -/
def relinkCommands (formatted : Bool) (steps : List Step) : List Command :=
  let renames := steps.filterMap Step.rename?
  let commands := steps.filterMap Step.command?
  (writesOf commands).map (fun w => .write (w.relink formatted renames))
    ++ commands.filter Command.isDelete

end TaskNotes
