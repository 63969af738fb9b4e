/-!
Reading bytes as UTF-8. The first byte of a character says how many follow and within which bounds
the second lies, so that every character has one form only; all further bytes lie within `80` to
`BF`. Writing is the inverse, one character at a time.
-/

namespace SqlRegexp.Text

/-- Why bytes are not UTF-8. -/
inductive Utf8Reason where
  /-- No character starts with the byte. -/
  | start
  /-- A byte cannot stand where it does within a character. -/
  | continuation
  /-- The bytes end within a character. -/
  | unfinished
deriving DecidableEq, Repr

/-- Where and why bytes are not UTF-8: `count` bytes from `first` on, the first of which is `byte`,
have been read as the start of a character. -/
structure Utf8Error where
  first : Nat
  count : Nat
  byte : Nat
  reason : Utf8Reason
deriving DecidableEq, Repr

namespace Utf8Reason

def message : Utf8Reason → String
  | start => "invalid start byte"
  | continuation => "invalid continuation byte"
  | unfinished => "unexpected end of data"

end Utf8Reason

namespace Utf8

/-- What a first byte announces: the bits that it gives, how many bytes follow, and the bounds of
the second byte. -/
structure Lead where
  bits : Nat
  more : Nat
  low : Nat := 0x80
  high : Nat := 0xBF

/-- The announcement of a first byte that is not a character by itself. -/
def lead? (b : Nat) : Option Lead :=
  if 0xC2 ≤ b ∧ b ≤ 0xDF then some ⟨b - 0xC0, 1, 0x80, 0xBF⟩
  else if b = 0xE0 then some ⟨0, 2, 0xA0, 0xBF⟩
  else if b = 0xED then some ⟨0xD, 2, 0x80, 0x9F⟩
  else if 0xE1 ≤ b ∧ b ≤ 0xEF then some ⟨b - 0xE0, 2, 0x80, 0xBF⟩
  else if b = 0xF0 then some ⟨0, 3, 0x90, 0xBF⟩
  else if b = 0xF4 then some ⟨4, 3, 0x80, 0x8F⟩
  else if 0xF1 ≤ b ∧ b ≤ 0xF3 then some ⟨b - 0xF0, 3, 0x80, 0xBF⟩
  else none

/-- Where reading stands. -/
inductive Phase where
  /-- Between two characters. -/
  | between
  /-- Within a character that began with a byte at a position, of which `count` bytes have been
  read, with the bits so far, and with `more` bytes to come, the next within bounds. -/
  | within (first byte count code more low high : Nat)

/-- Reads bytes on from a phase; `position` is the number of bytes read. The characters read so far
are kept in reverse. An unfinished character at the end is reported at the start, as it is all that
has not been read yet. -/
def readFrom : (position : Nat) → Phase → List Char → List UInt8 → Except Utf8Error (List Char)
  | _, .between, done, [] => .ok done.reverse
  | _, .within _ byte count _ _ _ _, _, [] => .error ⟨0, count, byte, .unfinished⟩
  | position, .between, done, b :: bs =>
    if b < 0x80 then readFrom (position + 1) .between (Char.ofNat b.toNat :: done) bs
    else
      match lead? b.toNat with
      | some l =>
        readFrom (position + 1) (.within position b.toNat 1 l.bits l.more l.low l.high) done bs
      | none => .error ⟨position, 1, b.toNat, .start⟩
  | position, .within first byte count code more low high, done, b :: bs =>
    let n := b.toNat
    -- the second byte has a narrower range where its first one allows longer forms or surrogates
    if n < low ∨ high < n then .error ⟨first, count, byte, .continuation⟩
    else
      let code := code * 64 + (n - 0x80)
      if more ≤ 1 then readFrom (position + 1) .between (Char.ofNat code :: done) bs
      else
        readFrom (position + 1) (.within first byte (count + 1) code (more - 1) 0x80 0xBF) done bs

/-- The text that bytes hold. -/
def decode (bs : List UInt8) : Except Utf8Error (List Char) := readFrom 0 .between [] bs

def encode (cs : List Char) : List UInt8 := (String.ofList cs).toUTF8.toList

end Utf8

namespace Utf8Error

/-- The message about bytes that are not UTF-8; a single byte is shown. -/
def message (e : Utf8Error) : String :=
  let place :=
    if e.count = 1 then
      "byte 0x" ++ String.ofList (Nat.toDigits 16 e.byte) ++ " in position " ++ toString e.first
    else "bytes in position " ++ toString e.first ++ "-" ++ toString (e.first + e.count - 1)
  "'utf-8' codec can't decode " ++ place ++ ": " ++ e.reason.message

end Utf8Error

end SqlRegexp.Text
