import Signpost.Unicode.Character

/-!
# Quoted text

Messages show text in double quotes so that every character can be told: quotes and backslashes are
escaped, line breaks, tabs and NUL have short escapes, and what cannot be shown, or would join the character
before it, is written as its code point in braces.  All else stands as it is.
-/

namespace Signpost.Text

/-- A character inside quotes. -/
def quotedChar (c : Char) : Text :=
  match c with
  | '\x00' => ['\\', '0']
  | '\t' => ['\\', 't']
  | '\n' => ['\\', 'n']
  | '\r' => ['\\', 'r']
  | '"' => ['\\', '"']
  | '\\' => ['\\', '\\']
  | c =>
    if Unicode.extendsGrapheme c || !Unicode.isPrintable c then
      "\\u\x7b".toList ++ hexOfNat c.toNat ++ ['\x7d']
    else [c]

/-- A text in quotes. -/
def quoted (t : Text) : Text := '"' :: t.flatMap quotedChar ++ ['"']

end Signpost.Text
