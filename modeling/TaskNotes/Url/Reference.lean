/-
# References to files

The URL of a link refers to a file when it has no scheme and does more than name a place in the
document itself.  Its query and fragment are a suffix that says nothing about the file.

The suffix begins with the first question mark or number sign and is never decoded.  It is kept as
it is written when the rest of the URL changes.
-/
import TaskNotes.Url.Percent

namespace TaskNotes

/-- Whether a URL begins with a scheme. -/
def hasScheme (url : List Char) : Bool :=
  match url with
  | [] => false
  | c :: rest =>
    c.isAlpha
      && (rest.dropWhile (fun d => d.isAlphanum || d == '+' || d == '.' || d == '-')).head?
        == some ':'

/-- Whether a URL names a place in the document itself. -/
def isFragment (url : List Char) : Bool := url.head? == some '#'

/-- Whether a character begins the suffix of a URL. -/
def beginsSuffix (c : Char) : Bool := c == '?' || c == '#'

/-- A URL without its query and fragment, and these as they are written. -/
def splitSuffix (url : List Char) : List Char × List Char :=
  (url.takeWhile (fun c => !beginsSuffix c), url.dropWhile (fun c => !beginsSuffix c))

end TaskNotes
