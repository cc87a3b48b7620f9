import Signpost.Unicode.Character

/-!
# Sets of characters

A set of characters is a set of code points in its one form, so that two sets are equal if they have the
same members.  The sets that have a letter or a name of their own in expressions are written here; those of
ASCII are written out.
-/

namespace Signpost.Regex

/-- A set of characters. -/
abbrev CharSet := Unicode.Ranges

namespace CharSet

/-- The set of one character. -/
def single (c : Char) : CharSet := [(c.toNat, c.toNat)]

/-- The characters from one to another, which does not come before it. -/
def range (lo hi : Char) : CharSet := [(lo.toNat, hi.toNat)]

/-- The set of all characters. -/
def full : CharSet := [(0, Unicode.lastCodePoint)]

/-- All characters but those of a set. -/
def others (s : CharSet) : CharSet := .complement Unicode.lastCodePoint s

/-- The ASCII digits. -/
def asciiDigit : CharSet := [(0x30, 0x39)]

/-- The ASCII letters, digits and the underscore. -/
def asciiWord : CharSet := [(0x30, 0x39), (0x41, 0x5A), (0x5F, 0x5F), (0x61, 0x7A)]

/-- The ASCII blanks. -/
def asciiSpace : CharSet := [(0x9, 0xD), (0x20, 0x20)]

/-- The decimal digits of all scripts. -/
def digit : CharSet := Unicode.decimalDigits

/-- The blanks of all scripts. -/
def space : CharSet := Unicode.whitespace

/-- The characters of words in all scripts. -/
def word : CharSet := Unicode.wordCharacters

/-- The sets with a name of their own, all of ASCII. -/
def named? (name : Text) : Option CharSet :=
  match String.ofList name with
  | "alnum" => some [(0x30, 0x39), (0x41, 0x5A), (0x61, 0x7A)]
  | "alpha" => some [(0x41, 0x5A), (0x61, 0x7A)]
  | "ascii" => some [(0x0, 0x7F)]
  | "blank" => some [(0x9, 0x9), (0x20, 0x20)]
  | "cntrl" => some [(0x0, 0x1F), (0x7F, 0x7F)]
  | "digit" => some asciiDigit
  | "graph" => some [(0x21, 0x7E)]
  | "lower" => some [(0x61, 0x7A)]
  | "print" => some [(0x20, 0x7E)]
  | "punct" => some [(0x21, 0x2F), (0x3A, 0x40), (0x5B, 0x60), (0x7B, 0x7E)]
  | "space" => some asciiSpace
  | "upper" => some [(0x41, 0x5A)]
  | "word" => some asciiWord
  | "xdigit" => some [(0x30, 0x39), (0x41, 0x46), (0x61, 0x66)]
  | _ => none

end CharSet

end Signpost.Regex
