import Signpost.Text.Utf8
import Signpost.Text.Digit

/-!
# Percent encoding

A byte can be written as `%` and two hexadecimal digits.  `Percent.encode` writes so what a URI cannot
carry.  It leaves `%` as it is, so escapes that are there already survive, and for the same reason encoding
twice is encoding once.  `Percent.decode` reads escapes back to bytes; a `%` without two digits stands for
itself.
-/

namespace Signpost.Percent

/-- Whether a character has to be written as escapes: everything beyond ASCII, the control characters, and
a few others. -/
def mustEncode (c : Char) : Bool :=
  c.toNat ≥ 128 || c.toNat < 32 || c.toNat == 127 || " \"<>\\^\x60\x7b|\x7d".toList.contains c

/-- A byte as an escape. -/
def escapeByte (b : UInt8) : Text :=
  ['%', hexCharUpper (b.toNat / 16), hexCharUpper (b.toNat % 16)]

/-- A character, as escapes of its bytes if it has to be. -/
def encodeChar (c : Char) : Text :=
  if mustEncode c then (String.utf8EncodeChar c).flatMap escapeByte else [c]

/-- A text as a URI can carry it. -/
def encode (t : Text) : Text := t.flatMap encodeChar

/-- The byte of an escape, from the two characters after the `%`. -/
def byte? (h l : Char) : Option UInt8 :=
  match hexDigit? h, hexDigit? l with
  | some a, some b => some (UInt8.ofNat (16 * a + b))
  | _, _ => none

/-- The bytes of a text with its escapes read. -/
def decode : Text → List UInt8
  | '%' :: h :: l :: rest =>
    match byte? h l with
    | some b => b :: decode rest
    | none => String.utf8EncodeChar '%' ++ decode (h :: l :: rest)
  | c :: rest => String.utf8EncodeChar c ++ decode rest
  | [] => []

/-- The text that a text with escapes stands for; bytes that are no text are replaced. -/
def decodeText (t : Text) : Text := Text.ofBytes (decode t)

end Signpost.Percent
