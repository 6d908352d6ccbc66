/-
# Percent encoding

A byte can be written as `%` and two hexadecimal digits.  Three uses of this:

* `encodePath` writes the segments of a path, so that every file name can stand in a link, and
  `decodeUrl` reads such a text back and refuses what is not UTF-8;
* `encodeAddress` makes an address printable and keeps what is already encoded;
* `decodeAddress` makes an address readable and keeps what has a meaning of its own.

Writing a path and reading it back gives the path again, for every path (`Proofs/Percent`).  The
other two are not inverse to each other, and serve readers: of the document, and of the text of an
autolink.
-/
import TaskNotes.Text.Utf8
import TaskNotes.Text.CodeTable

namespace TaskNotes

/-! ## 1. Bytes

Digits are written with capital letters and read with either. -/

/-- A hexadecimal digit, with capital letters. -/
def hexDigitUpper (n : Nat) : Char :=
  if n < 10 then Char.ofNat (0x30 + n) else Char.ofNat (0x41 + (n - 10))

/-- The value of a hexadecimal digit. -/
def hexDigit? (c : Char) : Option Nat :=
  let n := c.toNat
  if 0x30 ≤ n ∧ n ≤ 0x39 then some (n - 0x30)
  else if 0x41 ≤ n ∧ n ≤ 0x46 then some (n - 0x41 + 10)
  else if 0x61 ≤ n ∧ n ≤ 0x66 then some (n - 0x61 + 10)
  else none

/-- Whether a character is a hexadecimal digit. -/
def isHexDigit (c : Char) : Bool := (hexDigit? c).isSome

/-- An encoded byte. -/
def percentByte (b : UInt8) : List Char :=
  ['%', hexDigitUpper (b.toNat / 16), hexDigitUpper (b.toNat % 16)]

/-- A character with all its bytes encoded. -/
def percentChar (c : Char) : List Char := (utf8Char c).flatMap percentByte

/-- The byte that two hexadecimal digits stand for. -/
def byteOfDigits? (high low : Char) : Option UInt8 :=
  match hexDigit? high, hexDigit? low with
  | some h, some l => some (UInt8.ofNat (16 * h + l))
  | _, _ => none

/-! ## 2. Paths

Slashes and the characters that need no encoding stay, and so do parentheses.  What is not ASCII is
read as it stands, so a run of encoded bytes ends there, and bytes on its two sides do not form one
character. -/

/-- The characters of a path that are written as they are. -/
def isPathChar (c : Char) : Bool :=
  c.isAlphanum || c == '_' || c == '.' || c == '-' || c == '~' || c == '!' || c == '*'
    || c == '\'' || c == '(' || c == ')' || c == '/'

/-- Writes a path for a link: segment by segment, the slashes between them stay. -/
def encodePath (path : List Char) : List Char :=
  path.flatMap fun c => if isPathChar c then [c] else percentChar c

/-- The byte that `%` and two digits encode. -/
def encodedByte? (mark high low : Char) : Option UInt8 :=
  if mark = '%' then byteOfDigits? high low else none

/-- The byte of an ASCII character. -/
def asciiByte (c : Char) : UInt8 := UInt8.ofNat c.toNat

/-- The bytes of ASCII characters, `%` with two digits read as the byte it encodes. -/
def percentBytes : List Char → Bytes
  | [] => []
  | [c] => [asciiByte c]
  | [c, d] => [asciiByte c, asciiByte d]
  | c :: high :: low :: more =>
    match encodedByte? c high low with
    | some b => b :: percentBytes more
    | none => asciiByte c :: percentBytes (high :: low :: more)

/-- Whether a character is ASCII. -/
def isAscii (c : Char) : Bool := c.toNat < 128

/-- Decodes the ASCII characters that have been read, and then the rest of a text; other
characters stand for themselves. -/
def decodeUrlFrom (read : List Char) : List Char → Except Utf8Error (List Char)
  | [] => decodeUtf8 (percentBytes read)
  | c :: rest =>
    if isAscii c then decodeUrlFrom (read ++ [c]) rest
    else do
      let decoded ← decodeUtf8 (percentBytes read)
      let more ← decodeUrlFrom [] rest
      pure (decoded ++ c :: more)

/-- Reads a percent-encoded text; each run of ASCII characters is decoded by itself. -/
def decodeUrl (url : List Char) : Except Utf8Error (List Char) := decodeUrlFrom [] url

/-! ## 3. Addresses

An address that is shown keeps the codes of the characters that would change its meaning. -/

/-- The characters besides letters and digits that an address holds as they are. -/
def addressMarks : List Char := ";/?:@&=+$,-_.!~*'()#".toList

/-- Encodes what an address cannot hold; a `%` with two digits stays. -/
def encodeAddress : List Char → List Char
  | [] => []
  | c :: rest =>
    if c.isAlphanum || addressMarks.contains c then c :: encodeAddress rest
    else if c = '%' ∧ 2 ≤ rest.length ∧ (rest.take 2).all isHexDigit then
      c :: encodeAddress rest
    else percentChar c ++ encodeAddress rest

/-- The characters that stay encoded in a readable address. -/
def reservedMarks : List Char := ";/?:@&=+$,#%".toList

/-- The replacement for bytes that are no text. -/
def replacementChar : Char := Char.ofNat 0xFFFD

/-- A character from an encoded run of bytes, and how many bytes it takes: a character of UTF-8,
or a replacement for each byte when these do not form one. -/
def readableStep (b : UInt8) (rest : Bytes) : List Char × Nat :=
  let n := b.toNat
  let size := if n < 0x80 then 1 else if n / 32 = 6 then 2 else if n / 16 = 14 then 3
    else if n / 8 = 30 then 4 else 1
  let taken := rest.take (size - 1)
  if n < 0x80 then
    let c := Char.ofNat n
    (if reservedMarks.contains c then percentByte b else [c], 1)
  else if size = 1 ∨ taken.length + 1 < size ∨ !taken.all isContinuation then
    ([replacementChar], 1)
  else
    match decodeUtf8 (b :: taken) with
    | .ok cs => (cs, size)
    | .error _ => (List.replicate size replacementChar, size)

/-- Makes a run of encoded bytes readable; `skip` bytes belong to the character before. -/
def readableBytes (skip : Nat) : Bytes → List Char
  | [] => []
  | b :: rest =>
    match skip with
    | k + 1 => readableBytes k rest
    | 0 =>
      let (cs, size) := readableStep b rest
      cs ++ readableBytes (size - 1) rest

/-- Makes an address readable, given the encoded bytes that have just been read. -/
def decodeAddressFrom (run : Bytes) : List Char → List Char
  | [] => readableBytes 0 run
  | [c] => readableBytes 0 run ++ [c]
  | [c, d] => readableBytes 0 run ++ [c, d]
  | c :: high :: low :: more =>
    match encodedByte? c high low with
    | some b => decodeAddressFrom (run ++ [b]) more
    | none => readableBytes 0 run ++ c :: decodeAddressFrom [] (high :: low :: more)

/-- Makes an address readable. -/
def decodeAddress (address : List Char) : List Char := decodeAddressFrom [] address

end TaskNotes
