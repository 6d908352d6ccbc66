/-
# Raw HTML

What counts as a tag inside a line (`rawHtml?`), and which lines begin a block of HTML
(`HtmlBlock.ofLine?`).  A block of the first five kinds ends with the line that holds its end
mark, one of the last two before an empty line; the last kind, any complete tag alone on its
line, cannot interrupt a paragraph.

The names of tags are not looked up inside a line: anything that has the form of a tag is one.
Only the two kinds of blocks that are named after elements know the names that there are.
-/
import TaskNotes.Text.Blank

namespace TaskNotes.Markup

/-! ## 1. Tags

A tag can go over several lines.  Its attributes are read in order, and where one goes wrong there
is no tag. -/

/-- Reads a letter, then letters, digits and hyphens. -/
def tagName? : List Char → Option (List Char)
  | [] => none
  | c :: cs =>
    if c.isAlpha then some (cs.dropWhile (fun d => d.isAlphanum || d == '-')) else none

/-- Whether a character can begin the name of an attribute. -/
def isAttributeStart (c : Char) : Bool := c.isAlpha || c == '_' || c == ':'

/-- Whether a character can stand in the name of an attribute. -/
def isAttributeChar (c : Char) : Bool :=
  c.isAlphanum || c == ':' || c == '.' || c == '_' || c == '-'

/-- Whether a character can stand in the value of an attribute without quotes. -/
def isUnquotedChar (c : Char) : Bool :=
  32 < c.toNat && !(c == '"' || c == '\'' || c == '=' || c == '<' || c == '>' || c.toNat == 96)

/-- Reads up to a closing quote. -/
def closingQuote? (quote : Char) (cs : List Char) : Option (List Char) :=
  match cs.dropWhile (· ≠ quote) with
  | _ :: rest => some rest
  | [] => none

/-- Whether a value without quotes may end before a text. -/
def endsUnquoted : List Char → Bool
  | [] => true
  | c :: _ => isBlank c || !isUnquotedChar c

/-- What may follow a value without quotes at the start of a text, the longest value first.
Blanks beyond ASCII may belong to the value or end it. -/
def unquotedRests : List Char → List (List Char)
  | [] => []
  | c :: cs =>
    if isUnquotedChar c then unquotedRests cs ++ (if endsUnquoted cs then [cs] else []) else []

/-- What may follow the value of an attribute, behind its equals sign. -/
def valueRests : List Char → List (List Char)
  | [] => []
  | c :: cs =>
    if isBlank c then valueRests cs ++ unquotedRests (c :: cs)
    else if c = '"' ∨ c = '\'' then (closingQuote? c cs).toList
    else unquotedRests (c :: cs)

/-- What may follow an attribute, behind its name. -/
def attributeRests (cs : List Char) : List (List Char) :=
  match cs.dropWhile isBlank with
  | '=' :: value => valueRests value
  | _ => [cs]

/-- Reads the end of an opening tag. -/
def openTagEnd? (cs : List Char) : Option (List Char) :=
  match cs with
  | '>' :: rest => some rest
  | '/' :: '>' :: rest => some rest
  | _ => none

/-- Reads attributes and the end of an opening tag; `fuel` bounds the number of attributes. -/
def attributesAndEnd? (fuel : Nat) (cs : List Char) : Option (List Char) :=
  match fuel with
  | 0 => none
  | fuel + 1 =>
    match cs.takeWhile isBlank, cs.dropWhile isBlank with
    | _ :: _, c :: rest =>
      if isAttributeStart c then
        (attributeRests (rest.dropWhile isAttributeChar)).findSome? fun more =>
          attributesAndEnd? fuel more
      else openTagEnd? (c :: rest)
    | _, rest => openTagEnd? rest

/-- Reads an opening tag after its `<`. -/
def openTag? (cs : List Char) : Option (List Char) :=
  match tagName? cs with
  | some rest => attributesAndEnd? (rest.length + 1) rest
  | none => none

/-- Reads a closing tag after its `</`. -/
def closeTag? (cs : List Char) : Option (List Char) :=
  match tagName? cs with
  | none => none
  | some rest =>
    match rest.dropWhile isBlank with
    | '>' :: after => some after
    | _ => none

/-! ## 2. Other raw HTML

All of these end at the first occurrence of their end mark, but comments, which follow older rules:
two hyphens inside of one do not end it where no `>` comes right behind. -/

/-- Takes a word in small letters off the front of a text, regardless of the case of ASCII
letters. -/
def dropWord? : (word text : List Char) → Option (List Char)
  | [], text => some text
  | _ :: _, [] => none
  | e :: word, c :: text => if e = c.toLower then dropWord? word text else none

/-- What follows the first occurrence of a word, regardless of the case of letters. -/
def afterFirst? (mark : List Char) : List Char → Option (List Char)
  | [] => dropWord? mark []
  | c :: cs =>
    match dropWord? mark (c :: cs) with
    | some rest => some rest
    | none => afterFirst? mark cs

/-- Whether a word occurs, regardless of the case of letters. -/
def occurs (mark cs : List Char) : Bool := (afterFirst? mark cs).isSome

/-- Reads the inside and the end of a comment: single characters, a hyphen with one other
character, or two hyphens with a character that does not end the comment. -/
def commentEnd? : List Char → Option (List Char)
  | [] => none
  | [_] => none
  | c :: d :: rest =>
    if c ≠ '-' then commentEnd? (d :: rest)
    else if d ≠ '-' then commentEnd? rest
    else
      match rest with
      | [] => none
      | e :: more => if e = '>' then some more else commentEnd? more

/-- Reads a comment after its opening mark. -/
def comment? (cs : List Char) : Option (List Char) :=
  match cs with
  | '>' :: rest => some rest
  | '-' :: '>' :: rest => some rest
  | _ => commentEnd? cs

/-- What stands after `<!` when a section of characters begins. -/
def sectionStart : List Char := "[CDATA[".toList

/-- Reads a tag, comment, instruction, declaration or section of characters at the start of a
text: what follows it. -/
def rawHtml? (cs : List Char) : Option (List Char) :=
  match cs with
  | '<' :: '/' :: rest => closeTag? rest
  | '<' :: '?' :: rest => afterFirst? ['?', '>'] rest
  | '<' :: '!' :: '-' :: '-' :: rest => comment? rest
  | '<' :: '!' :: rest =>
    match rest with
    | c :: more =>
      if c.isAlpha then afterFirst? ['>'] more
      else if sectionStart.isPrefixOf rest then
        afterFirst? [']', ']', '>'] (rest.drop sectionStart.length)
      else none
    | [] => none
  | '<' :: rest => openTag? rest
  | _ => none

/-! ## 3. Blocks

A block of HTML is kept as it is written, line by line, and each line is only asked whether it ends
the block. -/

/-- The kinds of HTML block. -/
inductive HtmlBlock
  | verbatim
  | comment
  | instruction
  | declaration
  | characters
  | element
  | tag
deriving DecidableEq, Repr

/-- Elements whose content is not markup. -/
def verbatimNames : List (List Char) :=
  ["script", "pre", "style", "textarea"].map String.toList

/-- Elements whose tags begin a block. -/
def blockNames : List (List Char) :=
  ["address", "article", "aside", "base", "basefont", "blockquote", "body", "caption", "center",
    "col", "colgroup", "dd", "details", "dialog", "dir", "div", "dl", "dt", "fieldset",
    "figcaption", "figure", "footer", "form", "frame", "frameset", "h1", "h2", "h3", "h4", "h5",
    "h6", "head", "header", "hr", "html", "iframe", "legend", "li", "link", "main", "menu",
    "menuitem", "nav", "noframes", "ol", "optgroup", "option", "p", "param", "search", "section",
    "summary", "table", "tbody", "td", "tfoot", "th", "thead", "title", "tr", "track",
    "ul"].map String.toList

/-- The blanks of ASCII. -/
def isAsciiBlank (c : Char) : Bool := isSpacing c && c.toNat < 128

/-- Whether a text ends the name of a verbatim element. -/
def endsVerbatimName : List Char → Bool
  | [] => true
  | c :: _ => isAsciiBlank c || c == '>'

/-- Whether a text ends the name of a block element. -/
def endsBlockName : List Char → Bool
  | [] => true
  | '/' :: '>' :: _ => true
  | c :: _ => isAsciiBlank c || c == '>'

/-- Whether a text begins with one of some names. -/
def beginsWithName (names : List (List Char)) (ends : List Char → Bool) (cs : List Char) : Bool :=
  names.any fun name =>
    match dropWord? name cs with
    | some rest => ends rest
    | none => false

/-- Whether a complete tag stands alone on a line. -/
def isLoneTag (cs : List Char) : Bool :=
  let rest := match cs with
    | '<' :: '/' :: name => closeTag? name
    | '<' :: name => openTag? name
    | _ => none
  match rest with
  | some rest => rest.all isBlank
  | none => false

namespace HtmlBlock

/-- The kind of block that a line begins, its margin left out. -/
def ofLine? (cs : List Char) : Option HtmlBlock :=
  match cs with
  | '<' :: rest =>
    if beginsWithName verbatimNames endsVerbatimName rest then some .verbatim
    else if ['!', '-', '-'].isPrefixOf rest then some .comment
    else if ['?'].isPrefixOf rest then some .instruction
    else
      match rest with
      | '!' :: more =>
        match more with
        | c :: _ =>
          if c.isAlpha then some .declaration
          else if sectionStart.isPrefixOf more then some .characters
          else none
        | [] => none
      | _ =>
        let name := match rest with
          | '/' :: name => name
          | _ => rest
        if beginsWithName blockNames endsBlockName name then some .element
        else if isLoneTag cs then some .tag
        else none
  | _ => none

/-- Whether a block of this kind can interrupt a paragraph. -/
def interrupts : HtmlBlock → Bool
  | .tag => false
  | _ => true

/-- Whether a line ends a block of this kind. -/
def endsAt (kind : HtmlBlock) (line : List Char) : Bool :=
  match kind with
  | .verbatim => verbatimNames.any fun name => occurs (['<', '/'] ++ name ++ ['>']) line
  | .comment => occurs ['-', '-', '>'] line
  | .instruction => occurs ['?', '>'] line
  | .declaration => occurs ['>'] line
  | .characters => occurs [']', ']', '>'] line
  | .element | .tag => line.isEmpty

end HtmlBlock

end TaskNotes.Markup
