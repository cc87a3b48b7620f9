import Signpost.Text
import Signpost.Regex.Token

/-!
# Placeholders

A segment of a template that is wrapped in `<<` and `>>` stands for a value.  Inside is a name, or a name
and a type with a colon between.  The type decides which values are accepted:

| type               | accepted values                        |
|--------------------|----------------------------------------|
| `int`              | digits                                 |
| `string`, `slug`   | digits, letters, `_` and `-`           |
| `uuid`             | hexadecimal digits, 8-4-4-4-12         |
| `any`              | anything but line feeds, `/` included  |
| `hex`              | hexadecimal digits                     |
| `raw(EXPR)`        | what the regular expression matches    |
| any other          | letters                                |
| none               | anything but `/`                       |

Digits and letters are those of ASCII.  A name without a type that is itself a type means that type, so
`<<int>>` takes digits under the name `int`.
-/

namespace Signpost

/-- The kind of values a placeholder accepts. -/
inductive Kind where
  /-- Digits. -/
  | int
  /-- Digits, letters, underscores and hyphens. -/
  | slug
  /-- Groups of 8, 4, 4, 4 and 12 hexadecimal digits. -/
  | uuid
  /-- Anything but line feeds. -/
  | any
  /-- Hexadecimal digits. -/
  | hex
  /-- What a regular expression matches. -/
  | raw (expr : Text)
  /-- Letters. -/
  | alpha
  /-- Anything but slashes. -/
  | segment
deriving DecidableEq

namespace Kind

/-- The expression in `raw(EXPR)`; the word may be written in either case. -/
def rawExpr? : Text → Option Text
  | r :: a :: w :: p :: rest =>
    if Text.asciiLower [r, a, w, p] = ['r', 'a', 'w', '('] then Text.before? [')'] rest else none
  | _ => none

/-- The kind that a word names, if it names one. -/
def known? (token : Text) : Option Kind :=
  if token = "int".toList then some int
  else if token = "string".toList then some slug
  else if token = "slug".toList then some slug
  else if token = "uuid".toList then some uuid
  else if token = "any".toList then some any
  else if token = "hex".toList then some hex
  else (rawExpr? token).map raw

/-- The kind of a placeholder with a type. -/
def ofToken (token : Text) : Kind := (known? token).getD alpha

/-- The kind of a placeholder without a type, by its name. -/
def ofName (name : Text) : Kind := (known? name).getD segment

/-- A number of hexadecimal digits. -/
def hexRun (n : Nat) : Text := "[0-9a-fA-F]".toList ++ '\x7b' :: Text.ofNat n ++ ['\x7d']

/-- The regular expression of a kind. -/
def fragment : Kind → Text
  | int => "[0-9]+".toList
  | slug => "[0-9a-zA-Z_-]+".toList
  | uuid => Text.join '-' ([8, 4, 4, 4, 12].map hexRun)
  | any => ".+".toList
  | hex => "[0-9a-fA-F]+".toList
  | raw expr => expr
  | alpha => "[a-zA-Z]+".toList
  | segment => "[^/]+".toList

end Kind

/-- A segment that stands for a value. -/
structure Placeholder where
  /-- The name under which the value is captured. -/
  name : Text
  /-- The values accepted. -/
  kind : Kind
deriving DecidableEq

namespace Placeholder

/-- What stands between the angle brackets of a placeholder. -/
def inner? (segment : Text) : Option Text :=
  (Text.after? ['<', '<'] segment).bind (Text.before? ['>', '>'])

/-- The placeholder with a given inside: the name ends at the first colon. -/
def ofInner (inner : Text) : Placeholder :=
  match Text.cut? ':' inner with
  | some (name, token) => ⟨name, .ofToken token⟩
  | none => ⟨inner, .ofName inner⟩

/-- The placeholder that a segment is, if it is one. -/
def ofSegment? (segment : Text) : Option Placeholder := (inner? segment).map ofInner

/-- The group that captures the value. -/
def regex (p : Placeholder) : Text :=
  "(?P<".toList ++ p.name ++ '>' :: p.kind.fragment ++ [')']

end Placeholder

/-- Whether a segment has the form of a placeholder: both delimiters, and neither inside the other. -/
def isPlaceholder (segment : Text) : Bool :=
  decide (4 ≤ Text.bytes segment) && ['<', '<'].isPrefixOf segment && ['>', '>'].isSuffixOf segment

end Signpost
