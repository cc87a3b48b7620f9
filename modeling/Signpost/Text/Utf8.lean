import Signpost.Text

/-!
# Text from bytes

Any bytes are read as text: what is not UTF-8 becomes the replacement character, once for each longest
start of a character that is broken off, and once for each byte that cannot start one.

The reader is a state machine.  Between characters it takes a first byte, which says how many bytes follow
and, to keep out overlong forms, surrogates and what is beyond the last code point, in which range the next
one lies.  A byte that does not continue the character is read again as a first byte.
-/

namespace Signpost.Text

/-- The bytes of a text in UTF-8. -/
def toBytes (t : Text) : List UInt8 := t.flatMap String.utf8EncodeChar

/-- What stands for bytes that are no text. -/
def replacement : Char := '\ufffd'

/-- A character of which bytes are still to come. -/
structure Partial where
  /-- The bits read so far. -/
  value : Nat
  /-- The number of bytes to come. -/
  missing : Nat
  /-- The least that the next byte may be. -/
  low : Nat
  /-- The most that the next byte may be. -/
  high : Nat

/-- A first byte: the text it gives by itself, or the character it starts. -/
def firstByte (b : Nat) : Text × Option Partial :=
  if b < 0x80 then ([Char.ofNat b], none)
  else if b < 0xC2 then ([replacement], none)
  else if b < 0xE0 then ([], some ⟨b % 32, 1, 0x80, 0xBF⟩)
  else if b = 0xE0 then ([], some ⟨b % 16, 2, 0xA0, 0xBF⟩)
  else if b = 0xED then ([], some ⟨b % 16, 2, 0x80, 0x9F⟩)
  else if b < 0xF0 then ([], some ⟨b % 16, 2, 0x80, 0xBF⟩)
  else if b = 0xF0 then ([], some ⟨b % 8, 3, 0x90, 0xBF⟩)
  else if b < 0xF4 then ([], some ⟨b % 8, 3, 0x80, 0xBF⟩)
  else if b = 0xF4 then ([], some ⟨b % 8, 3, 0x80, 0x8F⟩)
  else ([replacement], none)

/-- One byte more. -/
def nextByte (b : Nat) : Option Partial → Text × Option Partial
  | none => firstByte b
  | some p =>
    if p.low ≤ b ∧ b ≤ p.high then
      let value := p.value * 64 + b % 64
      if p.missing ≤ 1 then ([Char.ofNat value], none)
      else ([], some ⟨value, p.missing - 1, 0x80, 0xBF⟩)
    else
      let (t, s) := firstByte b
      (replacement :: t, s)

/-- The text of bytes that follow the start of a character, if there is one. -/
def readBytes : Option Partial → List UInt8 → Text
  | none, [] => []
  | some _, [] => [replacement]
  | s, b :: rest =>
    let (t, s) := nextByte b.toNat s
    t ++ readBytes s rest

/-- The text of bytes. -/
def ofBytes (bytes : List UInt8) : Text := readBytes none bytes

end Signpost.Text
