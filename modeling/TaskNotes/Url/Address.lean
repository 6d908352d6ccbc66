/-
# Addresses

The destination of a link, taken apart as far as its host: a scheme, two slashes, what stands
before an `@`, the host, a port and the rest.  Only the host matters, because a host with other
than ASCII characters is written by its ASCII form; putting the parts together again otherwise
gives the text back, but for blanks around it, an `@` with nothing before it, brackets around a
host that is no number, and a host of more than 255 characters, which are dropped.

`normalizeAddress` is the form in which a destination is kept, `readableAddress` the form in
which an autolink is shown, and `isSafeAddress` refuses schemes that run or embed something.

Nothing here decides whether a destination is a file of the corpus; that is asked of the URL as it
stands in the tree (`Url/Reference`).  What is decided is how the URL of a link came to stand there
in the first place.
-/
import TaskNotes.Url.Percent
import TaskNotes.Url.Punycode
import TaskNotes.Text.Blank
import TaskNotes.Text.Casefold

namespace TaskNotes

/-- An address in parts; a part that is missing is empty. -/
structure Address where
  scheme : List Char
  slashes : Bool
  user : List Char
  host : List Char
  port : List Char
  rest : List Char
deriving DecidableEq, Repr

namespace Address

/-! ## 1. Taking apart

Each part is taken off the front of what the one before has left.  There is a host only behind two
slashes, or behind a scheme that can do without them, as that of a mail address. -/

/-- Whether a character can stand in the scheme before the colon. -/
def isSchemeChar (c : Char) : Bool :=
  (asciiLetter c).isAlphanum || c == '.' || c == '+' || c == '-'

/-- The scheme with its colon, and the rest. -/
def splitScheme (cs : List Char) : List Char × List Char :=
  match cs.takeWhile isSchemeChar, cs.dropWhile isSchemeChar with
  | c :: word, ':' :: rest => (c :: word ++ [':'], rest)
  | _, _ => ([], cs)

/-- The schemes that are always followed by two slashes. -/
def slashedSchemes : List (List Char) :=
  ["http:", "https:", "ftp:", "gopher:", "file:"].map String.toList

/-- Characters that end the part in which an `@` counts. -/
def endsUser (c : Char) : Bool := c == '/' || c == '?' || c == '#'

/-- Characters that no host holds. -/
def endsHost (c : Char) : Bool := "%/?;#'\x7b\x7d|\\^`<>\" \r\n\t".toList.contains c

/-- What stands before the last `@`, and the rest. -/
def splitUser (cs : List Char) : List Char × List Char :=
  let zone := cs.takeWhile (fun c => !endsUser c)
  if zone.contains '@' then
    let host := (zone.reverse.takeWhile (· ≠ '@')).reverse
    (zone.take (zone.length - host.length - 1), host ++ cs.drop zone.length)
  else ([], cs)

/-- The host with its port, and the rest; a colon at the end belongs to the rest. -/
def splitHost (cs : List Char) : List Char × List Char :=
  let host := cs.takeWhile (fun c => !endsHost c)
  let rest := cs.drop host.length
  if host.getLast? = some ':' then (host.dropLast, ':' :: rest) else (host, rest)

/-- The host without its port, and the port. -/
def splitPort (host : List Char) : List Char × List Char :=
  let digits := (host.reverse.takeWhile Char.isDigit).reverse
  let before := host.take (host.length - digits.length)
  if before.getLast? = some ':' then (before.dropLast, digits) else (host, [])

/-- Whether a character can stand in a label of a host. -/
def isLabelChar (c : Char) : Bool := c.isAlphanum || c == '+' || c == '_' || c == '-'

/-- Whether a label can stand in a host; other than ASCII characters count as letters. -/
def isLabel (label : List Char) : Bool :=
  label.length ≤ 63 && label.all (fun c => 127 < c.toNat || isLabelChar c)

/-- Cuts a host where a label goes wrong: what remains of the host, and what does not belong to
it. -/
def cutHost : List (List Char) → List (List Char) × List (List Char)
  | [] => ([], [])
  | label :: labels =>
    if isLabel label then
      let (good, bad) := cutHost labels
      (label :: good, bad)
    else
      let good := (label.takeWhile isLabelChar).take 63
      ([good], label.drop good.length :: labels)

/-- Puts labels together with full stops. -/
def joinLabels : List (List Char) → List Char
  | [] => []
  | [label] => label
  | label :: next :: labels => label ++ '.' :: joinLabels (next :: labels)

/-- The host, and what was cut off from it. -/
def checkHost (host : List Char) : List Char × List Char :=
  if host.head? = some '[' ∧ host.getLast? = some ']' then
    ((if 255 < host.length then [] else (host.drop 1).dropLast), [])
  else
    let (good, bad) := cutHost (splitAtChar '.' host)
    let host := joinLabels good
    (if 255 < host.length then [] else host, joinLabels bad)

/-- Takes an address apart. -/
def read (text : List Char) : Address :=
  let (scheme, afterScheme) := splitScheme (trimBlanks text)
  let slashes := afterScheme.take 2 == ['/', '/']
  let body := if slashes then afterScheme.drop 2 else afterScheme
  if slashes || (!scheme.isEmpty && !slashedSchemes.contains scheme) then
    let (user, afterUser) := splitUser body
    let (hostAndPort, afterHost) := splitHost afterUser
    let (host, port) := splitPort hostAndPort
    let (good, bad) := checkHost host
    ⟨scheme, slashes, user, good, port, bad ++ afterHost⟩
  else ⟨scheme, slashes, [], [], [], body⟩

/-! ## 2. Putting together

The host is changed label by label.  Towards ASCII this cannot fail; the other way the host stays
as a whole if one of its labels cannot be read. -/

/-- The text of an address, its parts written in a given way; the brackets around a host that is
a number are not part of it. -/
def printWith (write : List Char → List Char) (a : Address) : List Char :=
  write (a.scheme ++ (if a.slashes then ['/', '/'] else [])
      ++ (if a.user.isEmpty then [] else a.user ++ ['@']))
    ++ (if a.host.contains ':' then '[' :: write a.host ++ [']'] else write a.host)
    ++ write ((if a.port.isEmpty then [] else ':' :: a.port) ++ a.rest)

/-- The text of an address. -/
def print (a : Address) : List Char := a.printWith id

/-- The text of an address with everything encoded that an address cannot hold. -/
def printEncoded (a : Address) : List Char := a.printWith encodeAddress

/-- Whether the host of an address is a name that has an ASCII form. -/
def namesHost (a : Address) : Bool :=
  !a.host.isEmpty
    && (a.scheme.isEmpty || ["http:", "https:", "mailto:"].contains (String.ofList a.scheme))

/-- The characters that can stand for the full stop of a host. -/
def isLabelStop (c : Char) : Bool :=
  c == '.' || c.toNat == 0x3002 || c.toNat == 0xFF0E || c.toNat == 0xFF61

/-- The ASCII form of a label. -/
def labelToAscii (label : List Char) : List Char :=
  if label.any (fun c => 126 < c.toNat) then "xn--".toList ++ Punycode.encode label else label

/-- The form of a label with all its characters; `none` when its ASCII form is broken. -/
def labelToUnicode? (label : List Char) : Option (List Char) :=
  if "xn--".toList.isPrefixOf label then Punycode.decode? (lowercase (label.drop 4))
  else some label

/-- The host in ASCII. -/
def withAsciiHost (a : Address) : Address :=
  if a.namesHost then
    { a with host := joinLabels ((splitAtSeparators isLabelStop a.host).map labelToAscii) }
  else a

/-- The host with all its characters, if all its labels can be read. -/
def withUnicodeHost (a : Address) : Address :=
  if a.namesHost then
    match (splitAtSeparators isLabelStop a.host).mapM labelToUnicode? with
    | some labels => { a with host := joinLabels labels }
    | none => a
  else a

end Address

/-! ## 3. Forms of an address

What is refused is told by how an address begins, in small letters and without blanks before it. -/

/-- The form in which a destination is kept. -/
def normalizeAddress (text : List Char) : List Char :=
  (Address.read text).withAsciiHost.printEncoded

/-- The form in which an autolink is shown. -/
def readableAddress (text : List Char) : List Char :=
  decodeAddress (Address.read text).withUnicodeHost.print

/-- The schemes that are refused. -/
def refusedSchemes : List (List Char) :=
  ["vbscript:", "javascript:", "file:", "data:"].map String.toList

/-- The images that may be embedded nevertheless. -/
def embeddedImages : List (List Char) :=
  ["data:image/gif;", "data:image/png;", "data:image/jpeg;", "data:image/webp;"].map
    String.toList

/-- Whether an address may be linked to. -/
def isSafeAddress (address : List Char) : Bool :=
  let text := lowercase (trimBlanks address)
  !refusedSchemes.any (·.isPrefixOf text) || embeddedImages.any (·.isPrefixOf text)

end TaskNotes
