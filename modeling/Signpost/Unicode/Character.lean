import Signpost.Unicode.Category
import Signpost.Unicode.Property
import Signpost.Unicode.CaseFold
import Signpost.Unicode.Recent

/-!
# Classes of characters

The classes that names, words, blanks and quoting need, read off the tables of categories and properties.
A class that holds letters decides ASCII by comparison first: ASCII is most of what is asked, and a proof
about ASCII then never opens a table.

Letters, numerals and what can be shown include the characters of the latest version; what belongs to a
word, like all that an expression can ask for, does not.
-/

namespace Signpost.Unicode

/-- The code points of a general category, by its short name in lower case. -/
def category (name : String) : Ranges := (lookUp? name.toList categoryTable).getD []

/-- The code points of a binary property, by its name in lower case without separators. -/
def property (name : String) : Ranges := (lookUp? name.toList propertyTable).getD []

/-- The blank characters, control characters that separate lines included. -/
def whitespace : Ranges :=
  [(0x9, 0xD), (0x20, 0x20), (0x85, 0x85), (0xA0, 0xA0), (0x1680, 0x1680), (0x2000, 0x200A),
   (0x2028, 0x2029), (0x202F, 0x202F), (0x205F, 0x205F), (0x3000, 0x3000)]

/-- The decimal digits of all scripts. -/
def decimalDigits : Ranges := category "nd"

/-- Numerals that are not decimal digits, such as Roman numerals and fractions. -/
def otherNumerals : List Ranges := [category "nl", category "no"]

/-- Letters and what is used like them. -/
def alphabetic : Ranges := property "alphabetic"

/-- Marks that extend the character before them. -/
def graphemeExtend : Ranges := property "graphemeextend"

/-- Letters that modify others; as marks two of them are counted that take room of their own. -/
def modifierLetters : Ranges := category "lm"

/-- What a word may hold: letters, marks, decimal digits, connectors and joiners. -/
def wordCharacters : Ranges :=
  [decimalDigits, category "mn", category "mc", category "me", category "pc", property "joincontrol"].foldl
    Ranges.union alphabetic

/-- What has no picture of its own: controls, formats, unassigned and private code points, separators, and
fillers, which are not to be shown although they are letters. -/
def pictureless : List Ranges :=
  [category "cc", category "cf", category "co", category "cn", category "zl", category "zp",
   category "zs", property "defaultignorablecodepoint"]

/-- Whether a character is blank. -/
def isWhitespace (c : Char) : Bool := whitespace.has c.toNat

/-- Whether a character is a letter or used like one. -/
def isAlphabetic (c : Char) : Bool :=
  if c.toNat < 128 then c.isAlpha else alphabetic.has c.toNat || recentLetters.has c.toNat

/-- Whether a character is a numeral of some kind. -/
def isNumeric (c : Char) : Bool :=
  if c.toNat < 128 then c.isDigit
  else
    decimalDigits.has c.toNat || otherNumerals.any (·.has c.toNat) || recentNumerals.has c.toNat

/-- Whether a character belongs to words. -/
def isWordChar (c : Char) : Bool :=
  if c.toNat < 128 then c.isAlphanum || c == '_' else wordCharacters.has c.toNat

/-- Whether a character is a mark on the one before it. -/
def extendsGrapheme (c : Char) : Bool :=
  c.toNat ≥ 128 &&
    ((graphemeExtend.has c.toNat && !modifierLetters.has c.toNat) || recentMarks.has c.toNat)

/-- Whether a character can be shown as it is; of the separators only the space can. -/
def isPrintable (c : Char) : Bool :=
  if c.toNat < 128 then decide (32 ≤ c.toNat ∧ c.toNat < 127)
  else !pictureless.any (·.has c.toNat) || recentCharacters.has c.toNat

/-! ## Case variants -/

/-- The families of case variants as code points. -/
def caseFamilies : List (List Nat) :=
  (caseFamilyTable.flatMap words).map fun family =>
    (family.splitOn '.').map fun digits => Digits.value 16 (digits.filterMap hexDigit?)

/-- Every code point that has case variants, in ascending order, with its variants. -/
def caseVariants : List (Nat × List Nat) :=
  (caseFamilies.flatMap fun family => family.map fun n => (n, family.filter (· != n))).mergeSort
    fun a b => decide (a.1 ≤ b.1)

/-- The variants of the members of a set. -/
def variantsOf : Ranges → List (Nat × List Nat) → List Nat
  | _, [] => []
  | runs, (n, variants) :: rows =>
    let runs := runs.dropWhile (·.2 < n)
    if runs.head?.any (·.1 ≤ n) then variants ++ variantsOf runs rows else variantsOf runs rows

/-- A set with all case variants of its members. -/
def foldCase (runs : Ranges) : Ranges := runs.union (.ofPoints (variantsOf runs caseVariants))

/-- A set with the other case of the ASCII letters in it. -/
def foldAsciiCase (runs : Ranges) : Ranges :=
  let shift (f : Nat → Nat) (runs : Ranges) : Ranges := runs.map fun (lo, hi) => (f lo, f hi)
  let upper := shift (· - 32) (runs.inter [(0x61, 0x7A)])
  let lower := shift (· + 32) (runs.inter [(0x41, 0x5A)])
  runs.union (upper.union lower)

end Signpost.Unicode
