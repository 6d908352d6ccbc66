/-
# UTF-8

Characters as bytes and back.  Decoding is strict: overlong forms, surrogates and numbers beyond
the last character are refused.  A refusal names the broken bytes: from where the character
begins, as many as could still belong to it.

Positions and counts are those of bytes, and nothing is decoded of a text that has broken bytes
somewhere.
-/
import TaskNotes.Text.Quoted

namespace TaskNotes

/-- A row of bytes. -/
abbrev Bytes := List UInt8

/-! ## 1. Encoding

One to four bytes, by the size of the number. -/

/-- A continuation byte with six bits of a number. -/
def continuationByte (n : Nat) : UInt8 := UInt8.ofNat (0x80 + n % 64)

/-- The bytes of a character. -/
def utf8Char (c : Char) : Bytes :=
  let n := c.toNat
  if n < 0x80 then [UInt8.ofNat n]
  else if n < 0x800 then [UInt8.ofNat (0xC0 + n / 64), continuationByte n]
  else if n < 0x10000 then
    [UInt8.ofNat (0xE0 + n / 4096), continuationByte (n / 64), continuationByte n]
  else
    [UInt8.ofNat (0xF0 + n / 262144), continuationByte (n / 4096), continuationByte (n / 64),
      continuationByte n]

/-- The bytes of a text. -/
def utf8 (cs : List Char) : Bytes := cs.flatMap utf8Char

/-! ## 2. Decoding

The first byte of a character says how many there are.  Overlong forms, surrogates and numbers that
are too large show in the second at the latest, and the third and the fourth only have to continue.
-/

/-- Why bytes are no text. -/
inductive Utf8Reason
  | invalidStart
  | invalidContinuation
  | unexpectedEnd
deriving DecidableEq, Repr

/-- The wording of a reason. -/
def Utf8Reason.message : Utf8Reason → String
  | .invalidStart => "invalid start byte"
  | .invalidContinuation => "invalid continuation byte"
  | .unexpectedEnd => "unexpected end of data"

/-- Bytes that are no text: the first broken byte, where it is, how many bytes are broken. -/
structure Utf8Error where
  byte : UInt8
  position : Nat
  count : Nat
  reason : Utf8Reason
deriving DecidableEq, Repr

/-- What is said about broken bytes. -/
def Utf8Error.message (e : Utf8Error) : String :=
  let place :=
    if e.count = 1 then
      "byte 0x" ++ String.ofList (hexPadded 2 e.byte.toNat) ++ " in position "
        ++ toString e.position
    else
      "bytes in position " ++ toString e.position ++ "-"
        ++ toString (e.position + e.count - 1)
  "'utf-8' codec can't decode " ++ place ++ ": " ++ e.reason.message

/-- Whether a byte continues a character. -/
def isContinuation (b : UInt8) : Bool := 0x80 ≤ b.toNat && b.toNat ≤ 0xBF

/-- Whether a byte may come second, after a first byte; this keeps out overlong forms,
surrogates and what lies beyond the last character. -/
def isSecond (lead b : UInt8) : Bool :=
  isContinuation b
    && (lead.toNat != 0xE0 || 0xA0 ≤ b.toNat) && (lead.toNat != 0xED || b.toNat ≤ 0x9F)
    && (lead.toNat != 0xF0 || 0x90 ≤ b.toNat) && (lead.toNat != 0xF4 || b.toNat ≤ 0x8F)

/-- The six bits of a continuation byte. -/
def lowBits (b : UInt8) : Nat := b.toNat % 64

/-- Decodes bytes that begin at a position. -/
def decodeUtf8From (position : Nat) : Bytes → Except Utf8Error (List Char)
  | [] => .ok []
  | b :: rest =>
    let fail (count : Nat) (reason : Utf8Reason) : Except Utf8Error (List Char) :=
      .error ⟨b, position, count, reason⟩
    let n := b.toNat
    if n < 0x80 then (decodeUtf8From (position + 1) rest).map (Char.ofNat n :: ·)
    else if n < 0xC2 ∨ 0xF4 < n then fail 1 .invalidStart
    else
      match rest with
      | [] => fail 1 .unexpectedEnd
      | b₁ :: rest₁ =>
        if !isSecond b b₁ then fail 1 .invalidContinuation
        else if n < 0xE0 then
          (decodeUtf8From (position + 2) rest₁).map (Char.ofNat (n % 32 * 64 + lowBits b₁) :: ·)
        else
          match rest₁ with
          | [] => fail 2 .unexpectedEnd
          | b₂ :: rest₂ =>
            if !isContinuation b₂ then fail 2 .invalidContinuation
            else if n < 0xF0 then
              (decodeUtf8From (position + 3) rest₂).map
                (Char.ofNat (n % 16 * 4096 + lowBits b₁ * 64 + lowBits b₂) :: ·)
            else
              match rest₂ with
              | [] => fail 3 .unexpectedEnd
              | b₃ :: rest₃ =>
                if !isContinuation b₃ then fail 3 .invalidContinuation
                else
                  (decodeUtf8From (position + 4) rest₃).map
                    (Char.ofNat (n % 8 * 262144 + lowBits b₁ * 4096 + lowBits b₂ * 64
                      + lowBits b₃) :: ·)

/-- Decodes bytes. -/
def decodeUtf8 (bytes : Bytes) : Except Utf8Error (List Char) := decodeUtf8From 0 bytes

end TaskNotes
