/-
# Disks

A disk maps locations to entries; a location is the list of names on the way to it from the root,
which is always a directory.  An entry is a directory, a file, one of several names of a file that
is kept apart under a number, or a link, which stands for another path; and it can be without the
right to be read, written or searched.

A path is followed name by name (`Disk.follow`).  A link on the way is followed in its place, up to
`linkLimit` of them, and what stops the way is reported as the system reports it: a name that does
not exist, a file where a directory is needed, a directory that may not be searched, a name that is
too long.  A path to be written to may end in a name that does not exist yet (`Disk.spot`).
`Disk.resolve` takes the links out of a path as far as they can be seen and leaves the rest as it is
written; it needs nothing to exist.

What changes the disk is an `Access`: it can fail, and what it has done before it fails stays
done.  There are three: `Disk.makeDirectories`, `Disk.putFile` and `Disk.deleteFile`.

Left out are a bound on the length of whole paths, the character NUL, which no path of the system
can hold, files that are neither files of bytes nor directories nor links, times and owners of
entries, and failures of the medium (a disk that is full, or that cannot be read or written at all).
Rights are those of whoever runs the program, and the root has all of them.
-/
import TaskNotes.Path
import TaskNotes.Text.Utf8

namespace TaskNotes

/-! ## 1. Disks -/

/-- The names on the way from the root. -/
abbrev Location := List Name

/-- Whether another location lies below a location. -/
def Location.isAbove (location other : Location) : Bool :=
  location.isPrefixOf other && other != location

/-- What one may do with an entry: read a file or list a directory, write a file or change which
names a directory holds, look up names in a directory. -/
inductive Right
  | read
  | write
  | search
deriving DecidableEq, Repr

/-- What can be at a location.  Several locations with the same number are names of one file. -/
inductive Entry
  | directory
  | file (bytes : Bytes)
  | shared (number : Nat)
  | link (target : Path)
  | without (right : Right) (entry : Entry)
deriving DecidableEq, Repr

namespace Entry

/-- Whether an entry is a directory. -/
def isDirectory : Entry → Bool
  | directory => true
  | without _ e => e.isDirectory
  | _ => false

/-- Whether an entry is an ordinary directory or file: no link, no second name, with all rights. -/
def isPlain : Entry → Bool
  | directory | file _ => true
  | _ => false

/-- The path that a link stands for. -/
def target? : Entry → Option Path
  | link target => some target
  | without _ e => e.target?
  | _ => none

/-- The number under which a file with several names is kept. -/
def number? : Entry → Option Nat
  | shared number => some number
  | without _ e => e.number?
  | _ => none

/-- Whether an entry has a right. -/
def allows (right : Right) : Entry → Bool
  | without r e => r != right && e.allows right
  | _ => true

/-- An entry with other bytes, if it holds any. -/
def fill (bytes : Bytes) : Entry → Entry
  | file _ => file bytes
  | without r e => without r (e.fill bytes)
  | e => e

end Entry

/-- Files, directories and links, and the bytes of the files that have several names; the root need
not be listed. -/
structure Disk where
  entries : List (Location × Entry)
  shared : List (Nat × Bytes) := []
deriving DecidableEq, Repr

/-- Why a file cannot be reached. -/
inductive FileError
  | notFound
  | permissionDenied
  | alreadyExists
  | notDirectory
  | isDirectory
  | nameTooLong
  | tooManyLinks
deriving DecidableEq, Repr

namespace FileError

/-- The number of an error. -/
def code : FileError → Nat
  | notFound => 2
  | permissionDenied => 13
  | alreadyExists => 17
  | notDirectory => 20
  | isDirectory => 21
  | nameTooLong => 36
  | tooManyLinks => 40

/-- The wording of an error. -/
def message : FileError → String
  | notFound => "No such file or directory"
  | permissionDenied => "Permission denied"
  | alreadyExists => "File exists"
  | notDirectory => "Not a directory"
  | isDirectory => "Is a directory"
  | nameTooLong => "File name too long"
  | tooManyLinks => "Too many levels of symbolic links"

/-- Whether an error says that a path leads nowhere, where one only asks what a path leads to. -/
def isAbsence : FileError → Bool
  | notFound | notDirectory | tooManyLinks => true
  | _ => false

end FileError

/-- How many bytes a name may have. -/
def nameLimit : Nat := 255

/-- Whether a name is too long. -/
def isTooLong (name : Name) : Bool := nameLimit < (utf8 name).length

/-- How many links are followed on one way. -/
def linkLimit : Nat := 40

/-- Where the way along a link begins: at the root, or at the directory that the link is in. -/
def linkStart (target : Path) (location : Location) : Location :=
  if target.isAbsolute then [] else location

namespace Disk

/-- What is at a location. -/
def entryAt? (d : Disk) (location : Location) : Option Entry :=
  if location = [] then some .directory else d.entries.lookup location

/-- Puts an entry at a location. -/
def put (d : Disk) (location : Location) (entry : Entry) : Disk :=
  { d with entries := (location, entry) :: d.entries.filter (fun e => e.1 != location) }

/-- Takes away what is at a location. -/
def erase (d : Disk) (location : Location) : Disk :=
  { d with entries := d.entries.filter (fun e => e.1 != location) }

/-- Gives the file of a number other bytes. -/
def fillShared (d : Disk) (number : Nat) (bytes : Bytes) : Disk :=
  { d with shared := (number, bytes) :: d.shared }

/-- The bytes of an entry, if it is a file. -/
def bytesOf? (d : Disk) : Entry → Option Bytes
  | .file bytes => some bytes
  | .shared number => some ((d.shared.lookup number).getD [])
  | .without _ entry => d.bytesOf? entry
  | _ => none

/-- Whether there is something at a location that has a right. -/
def permits (d : Disk) (right : Right) (location : Location) : Bool :=
  match d.entryAt? location with
  | none => false
  | some entry => entry.allows right

/-! ## 2. Looking -/

/-- What a name is that of in a directory; a link is not followed. -/
def lookIn (d : Disk) (location : Location) (name : Name) : Except FileError (Option Entry) :=
  match d.entryAt? location with
  | none => .error .notFound
  | some here =>
    if !here.isDirectory then .error .notDirectory
    else if !here.allows .search then .error .permissionDenied
    else if isTooLong name then .error .nameTooLong
    else .ok (d.entryAt? (location ++ [name]))

/-- Follows names from a location up to the first link, where `turn` goes on.  If the end may be
`new`, the last name need not exist. -/
def followBy (d : Disk) (new : Bool) (turn : Location → List Name → Except FileError Location)
    (location : Location) : List Name → Except FileError Location
  | [] => .ok location
  | name :: rest =>
    match d.lookIn location name with
    | .error e => .error e
    | .ok next =>
      if name = parentName then followBy d new turn location.dropLast rest
      else
        match next with
        | none => if new && rest.isEmpty then .ok (location ++ [name]) else .error .notFound
        | some entry =>
          match entry.target? with
          | none => followBy d new turn (location ++ [name]) rest
          | some target => turn (linkStart target location) (target.names ++ rest)

/-- Follows names from a location, along so many links at most. -/
def followLinks (d : Disk) (new : Bool) : Nat → Location → List Name → Except FileError Location
  | 0 => d.followBy new fun _ _ => .error .tooManyLinks
  | links + 1 => d.followBy new (followLinks d new links)

/-- Follows names from a location. -/
def follow (d : Disk) (location : Location) (names : List Name) : Except FileError Location :=
  d.followLinks false linkLimit location names

/-- Where a file at a path is, or would be. -/
def spot (d : Disk) (path : Path) : Except FileError Location :=
  d.followLinks true linkLimit [] path.names

/-- What names lead to from the root. -/
def lookUp (d : Disk) (names : List Name) : Except FileError Entry :=
  match d.follow [] names with
  | .error e => .error e
  | .ok location =>
    match d.entryAt? location with
    | none => .error .notFound
    | some entry => .ok entry

/-- What a path leads to. -/
def find (d : Disk) (path : Path) : Except FileError Entry := d.lookUp path.names

/-- What a path leads to, if anything. -/
def find? (d : Disk) (path : Path) : Except FileError (Option Entry) :=
  match d.find path with
  | .ok entry => .ok (some entry)
  | .error e => if e.isAbsence then .ok none else .error e

/-- Whether a path leads anywhere. -/
def exists? (d : Disk) (path : Path) : Except FileError Bool :=
  match d.find path with
  | .ok _ => .ok true
  | .error .notFound => .ok false
  | .error e => .error e

/-! ## 3. Links taken out of paths

A way is also gone without asking whether it can be: links are followed as far as they are seen, and
all else is taken as it is written.  What matters is where the way ends and what it has passed. -/

end Disk

/-- Where a way ends, and the locations that it has passed before: those from which it has gone on
by a name, and those of the links that it has followed. -/
structure Route where
  passed : List Location
  place : Location
deriving DecidableEq, Repr

namespace Route

/-- A route that has passed another location before. -/
def after (location : Location) (t : Route) : Route := { t with passed := location :: t.passed }

/-- One route and then another one from where it ends. -/
def andThen (t other : Route) : Route := ⟨t.passed ++ other.passed, other.place⟩

/-- A route that goes on by one name, whatever that is the name of. -/
def below (t : Route) (name : Name) : Route := ⟨t.passed ++ [t.place], t.place ++ [name]⟩

end Route

/-- Goes along names from a location; at a link, `turn` goes along its target. -/
def walkBy (target? : Location → Option Path) (turn : Location → List Name → Route)
    (location : Location) : List Name → Route
  | [] => ⟨[], location⟩
  | name :: rest =>
    if name = parentName then
      (walkBy target? turn location.dropLast rest).after location
    else
      match target? (location ++ [name]) with
      | none => (walkBy target? turn (location ++ [name]) rest).after location
      | some target =>
        let t := turn (linkStart target location) target.names
        ((t.andThen (walkBy target? turn t.place rest)).after (location ++ [name])).after location

/-- Goes along names from a location, following links in the targets of links so deep at most. -/
def walk (target? : Location → Option Path) : Nat → Location → List Name → Route
  | 0 => walkBy (fun _ => none) fun location _ => ⟨[], location⟩
  | depth + 1 => walkBy target? (walk target? depth)

namespace Disk

/-- Whether what is at a location can be seen: all directories above it may be searched. -/
def isVisible (d : Disk) (location : Location) : Bool :=
  (List.range location.length).all fun n => d.permits .search (location.take n)

/-- The path that is seen to stand at a location, if a link does. -/
def seenTarget? (d : Disk) (location : Location) : Option Path :=
  if d.isVisible location then (d.entryAt? location).bind Entry.target? else none

/-- The path of a location. -/
def pathOf (location : Location) : Path := ⟨.root, location⟩

/-- A path without links and without `..`.  It need not lead anywhere, but links that lead to each
other in a ring are an error. -/
def resolve (d : Disk) (path : Path) : Except FileError Path :=
  let resolved := pathOf (walk d.seenTarget? (d.entries.length + 1) [] path.names).place
  match d.find resolved with
  | .error .tooManyLinks => .error .tooManyLinks
  | _ => .ok resolved

/-! ## 4. Reading -/

/-- Why the text of a file cannot be read. -/
inductive ReadError
  | file (error : FileError)
  | encoding (error : Utf8Error)
deriving DecidableEq, Repr

/-- What is said about a text that cannot be read. -/
def ReadError.message : ReadError → String
  | .file error => error.message
  | .encoding error => error.message

/-- The text of a file, with uniform line ends. -/
def readText (d : Disk) (path : Path) : Except ReadError (List Char) :=
  match d.find path with
  | .error e => .error (.file e)
  | .ok entry =>
    if !entry.allows .read then .error (.file .permissionDenied)
    else
      match d.bytesOf? entry with
      | none => .error (.file .isDirectory)
      | some bytes =>
        match decodeUtf8 bytes with
        | .ok text => .ok (uniformLines text)
        | .error e => .error (.encoding e)

/-- The text of a file, if there is one. -/
def readText? (d : Disk) (path : Path) : Except ReadError (Option (List Char)) :=
  match d.readText path with
  | .ok text => .ok (some text)
  | .error (.file .notFound) => .ok none
  | .error e => .error e

/-- The files below a location, with their bytes. -/
def filesBelow (d : Disk) (location : Location) : List (Location × Bytes) :=
  d.entries.filterMap fun (other, entry) =>
    if location.isAbove other then (d.bytesOf? entry).map fun bytes => (other, bytes) else none

/-- Whether nothing is in a directory. -/
def isEmptyAt (d : Disk) (location : Location) : Bool :=
  !d.entries.any fun e => location.isAbove e.1

/-- The directories below a location in which there is nothing. -/
def emptyBelow (d : Disk) (location : Location) : List Location :=
  d.entries.filterMap fun (other, entry) =>
    if entry.isDirectory ∧ location.isAbove other ∧ d.isEmptyAt other then some other else none

/-- Whether a directory can be listed. -/
def isListable (d : Disk) (location : Location) : Bool :=
  match d.entryAt? location with
  | none => false
  | some entry => entry.isDirectory && entry.allows .read

/-- Whether a location is come by when a directory, those in it and so on are listed. -/
def isListedBelow (d : Disk) (top location : Location) : Bool :=
  top.isAbove location && (List.range location.length).all fun n =>
    decide (n < top.length) || d.isListable (location.take n)

/-- Whether a name is that of a document. -/
def isDocumentName (name : Name) : Bool := ['.', 'm', 'd'].isSuffixOf name

/-- The path of a location, if it leads to a file. -/
def filePath? (d : Disk) (location : Location) : Except FileError (Option Path) :=
  match d.find? (pathOf location) with
  | .error e => .error e
  | .ok none => .ok none
  | .ok (some entry) => .ok (if entry.isDirectory then none else some (pathOf location))

/-- The documents below a location, ordered by the names on the way to them. -/
def documentsBelow (d : Disk) (top : Location) : Except FileError (List Path) := do
  let named := (d.entries.map (·.1)).filter fun location =>
    isDocumentName (location.getLast?.getD []) && d.isListedBelow top location
  let found ← (named.mergeSort fun a b => (compare a b).isLE).mapM d.filePath?
  pure (found.filterMap id)

/-- The documents below a directory, none if it does not exist. -/
def documents (d : Disk) (directory : Path) : Except FileError (List Path) :=
  match d.follow [] directory.names with
  | .ok location => d.documentsBelow location
  | .error e => if e.isAbsence then .ok [] else .error e

end Disk

/-! ## 5. Changing -/

/-- Something done to a disk. -/
abbrev Access (α : Type) := ExceptT FileError (StateM Disk) α

namespace Disk

/-- Makes a directory in one that is there, unless names lead to one already.  What a name that is
not the `last` one is refused for is told by the way that goes on behind it. -/
def makeDirectory (front : List Name) (name : Name) (last : Bool) : Access Unit := do
  let d ← get
  match d.lookUp (front ++ [name]) with
  | .ok entry =>
    if !entry.isDirectory then throw (if last then .alreadyExists else .notDirectory)
  | .error e =>
    match d.follow [] front with
    | .error e => throw e
    | .ok location =>
      -- What is there and leads nowhere can only be a link.
      if (d.entryAt? (location ++ [name])).isSome then
        throw (if e = .notFound ∨ (last ∧ e.isAbsence) then .alreadyExists else e)
      if e ≠ .notFound then throw e
      if !d.permits .write location then throw .permissionDenied
      modify (·.put (location ++ [name]) .directory)

/-- Makes the directories on the way along names behind others. -/
def makeFrom (front : List Name) : List Name → Access Unit
  | [] => pure ()
  | name :: rest => do
    makeDirectory front name rest.isEmpty
    makeFrom (front ++ [name]) rest

/-- Makes a directory and those it lies in, as far as they are missing. -/
def makeDirectories (path : Path) : Access Unit := makeFrom [] path.names

/-- Makes a directory that must not exist. -/
def makeNewDirectory (path : Path) : Access Unit := do
  if ((← get).entryAt? path.names).isSome then throw .alreadyExists
  makeDirectories path

/-- Puts bytes into a file, whose directory must exist. -/
def putFile (path : Path) (bytes : Bytes) : Access Unit := do
  let d ← get
  match d.spot path with
  | .error e => throw e
  | .ok location =>
    match d.entryAt? location with
    | none => do
      if !d.permits .write location.dropLast then throw .permissionDenied
      modify (·.put location (.file bytes))
    | some entry => do
      if entry.isDirectory then throw .isDirectory
      if !entry.allows .write then throw .permissionDenied
      match entry.number? with
      | some number => modify (·.fillShared number bytes)
      | none => modify (·.put location (entry.fill bytes))

/-- Writes a file, and makes the directories it lies in. -/
def writeFile (path : Path) (bytes : Bytes) : Access Unit := do
  makeDirectories path.parent
  putFile path bytes

/-- Deletes a file or a link; says whether there was one. -/
def deleteFile (path : Path) : Access Bool := do
  let d ← get
  match d.follow [] path.parent.names with
  | .error .notFound => pure false
  | .error e => throw e
  | .ok location => do
    if path.names = [] ∨ path.name = parentName then throw .isDirectory
    match d.lookIn location path.name with
    | .error e => throw e
    | .ok none => pure false
    | .ok (some entry) => do
      if !d.permits .write location then throw .permissionDenied
      if entry.isDirectory then throw .isDirectory
      modify (·.erase (location ++ [path.name]))
      pure true

end Disk

end TaskNotes
