/-
# Regions

A region is a run of siblings between two comments, `<!-- index -->` and `<!-- /index -->`; its
body is generated and not written by hand.  A region ends at the first end marker of its name
among the later siblings; where there is none its body is empty and the siblings after the begin
marker are not part of it.

`Node.rebuild` is the one traversal that knows about regions: it hands region bodies to a
builder and visits all other nodes, so that what is generated and what is authored are treated
apart everywhere in the same way.

Markers are compared without the blanks around them, as a comment may be followed by a line feed or
be indented.  They are only looked for among siblings: a region does not begin in one container and
end in another.
-/
import TaskNotes.Node
import TaskNotes.Text.Blank

namespace TaskNotes

/-! ## 1. Markers

A marker is a node of raw HTML that holds a comment and nothing else. -/

/-- The region that lists the files of a directory. -/
def indexRegion : String := "index"

/-- The region that lists all files. -/
def tocRegion : String := "toc"

/-- The regions that are kept up to date. -/
def regionNames : List String := [indexRegion, tocRegion]

/-- The comment that begins a region. -/
def beginMarker (name : String) : String := "<!-- " ++ name ++ " -->"

/-- The comment that ends a region. -/
def endMarker (name : String) : String := "<!-- /" ++ name ++ " -->"

/-- Whether a node is a certain comment, blanks around it aside. -/
def isMarker (marker : String) : Node → Bool
  | .html value => trimBlanks value.toList == marker.toList
  | _ => false

/-- The region of one of some names that a node begins. -/
def regionBegin? (names : List String) (node : Node) : Option String :=
  names.find? (fun name => isMarker (beginMarker name) node)

/-- Whether a node ends a region. -/
def isRegionEnd (name : String) (node : Node) : Bool := isMarker (endMarker name) node

mutual
/-- Whether a region begins somewhere in a tree. -/
def Node.containsRegion (name : String) : Node → Bool
  | .branch _ cs => containsRegionAll name cs
  | .leaf kind => isMarker (beginMarker name) (.leaf kind)

/-- Whether a region begins somewhere in several trees. -/
def containsRegionAll (name : String) : List Node → Bool
  | [] => false
  | c :: cs => c.containsRegion name || containsRegionAll name cs
end

/-! ## 2. Rebuilding a tree

What is done to a branch is a parameter (`Visit`), in any monad: numbering draws from an allocator,
and replacing bodies needs no monad at all. -/

/-- Which regions there are, and what becomes of their bodies. -/
structure Regions where
  names : List String
  build : String → List Node → List Node

/-- What a region body becomes, with the end marker and what follows it. -/
def Regions.close (regions : Regions) (name : String) (body rest : List Node) : List Node :=
  regions.build name body ++ .html (endMarker name) :: rest

/-- What becomes of a branch, given its kind and its children: its new kind, and how its children
are changed once they have been rebuilt. -/
abbrev Visit (m : Type → Type) := Branch → List Node → m (Branch × (List Node → List Node))

section

variable {m : Type → Type} [Monad m]

mutual
/-- Rebuilds a tree.  A branch is visited before its children, so what is drawn from a state is
drawn in document order; how its children change is carried out once they have been rebuilt.
Region bodies are not visited at all. -/
def Node.rebuild (regions : Regions) (visit : Visit m) : Node → m Node
  | .leaf kind => pure (.leaf kind)
  | .branch kind cs => do
    let (kind, finish) ← visit kind cs
    let cs ← rebuildAll regions visit none cs
    pure (.branch kind (finish cs))

/-- Rebuilds siblings; `skipping` is the region whose body is being passed over. -/
def rebuildAll (regions : Regions) (visit : Visit m) (skipping : Option String) :
    List Node → m (List Node)
  | [] => pure []
  | c :: cs =>
    match skipping with
    | some name => rebuildAll regions visit (if isRegionEnd name c then none else some name) cs
    | none =>
      match regionBegin? regions.names c with
      | none => do
        let c ← c.rebuild regions visit
        let rest ← rebuildAll regions visit none cs
        pure (c :: rest)
      | some name =>
        if cs.any (isRegionEnd name) then do
          let rest ← rebuildAll regions visit (some name) cs
          pure (c :: regions.close name (cs.takeWhile (fun c => !isRegionEnd name c)) rest)
        else do
          let rest ← rebuildAll regions visit none cs
          pure (c :: regions.close name [] rest)
end

end

/-! ## 3. Replacing region bodies

The authored part of a tree has its regions emptied and not taken out, so that it is seen where
they are. -/

/-- Leaves a branch as it is. -/
def visitNothing : Visit Id := fun kind _ => (kind, id)

/-- Gives every region the body that is built for it, anywhere in a tree. -/
def Node.replaceRegions (regions : Regions) (tree : Node) : Node :=
  Id.run (tree.rebuild regions visitNothing)

/-- The regions that are kept up to date, all with empty bodies. -/
def Regions.emptied : Regions := ⟨regionNames, fun _ _ => []⟩

/-- A tree without what is generated in it. -/
def Node.authored (tree : Node) : Node := tree.replaceRegions .emptied

end TaskNotes
