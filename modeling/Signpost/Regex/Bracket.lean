import Signpost.Regex.Flags
import Signpost.Unicode.Query

/-!
# Classes

A class is what `\d`, `\p` or brackets write: a tree of items, kept until the flags in force are known.
`Bracket.set?` gives the set of characters.  Without the flag `unicode` a class ranges over bytes, and the
code points up to 255 stand for them.  Then only ASCII may be written in it, and after each closing bracket
it must hold ASCII only.
-/

namespace Signpost.Regex

/-- A class with a letter of its own. -/
inductive Shorthand where
  /-- Digits, `\d`. -/
  | digit
  /-- Blanks, `\s`. -/
  | space
  /-- Characters of words, `\w`. -/
  | word
deriving DecidableEq

/-- The set of a shorthand, of all scripts or of ASCII. -/
def Shorthand.set (wide : Bool) : Shorthand → CharSet
  | digit => if wide then .digit else .asciiDigit
  | space => if wide then .space else .asciiSpace
  | word => if wide then .word else .asciiWord

/-- An operation between two classes in brackets. -/
inductive SetOp where
  /-- Members of both, `&&`. -/
  | inter
  /-- Members of the first only, `--`. -/
  | diff
  /-- Members of one only, `~~`. -/
  | symmDiff
deriving DecidableEq

/-- The set of an operation. -/
def SetOp.apply : SetOp → CharSet → CharSet → CharSet
  | inter => .inter
  | diff => .diff
  | symmDiff => .symmDiff

/-- A class as written. -/
inductive Bracket where
  /-- No item. -/
  | empty
  /-- A character. -/
  | char (c : Char)
  /-- The characters from one to another. -/
  | range (lo hi : Char)
  /-- A named ASCII class such as `[:alpha:]`. -/
  | ascii (set : CharSet) (negated : Bool)
  /-- A class with a letter of its own. -/
  | shorthand (kind : Shorthand) (negated : Bool)
  /-- The characters with a property. -/
  | property (set : CharSet) (negated : Bool)
  /-- A class in brackets. -/
  | nested (body : Bracket) (negated : Bool)
  /-- Items beside one another. -/
  | union (a b : Bracket)
  /-- Two classes and the operation between them. -/
  | op (kind : SetOp) (a b : Bracket)

namespace Bracket

/-- One item more.  The first item stands for itself. -/
def add : Bracket → Bracket → Bracket
  | empty, item => item
  | items, item => union items item

/-- A set or, if it is negated, all others.  Over bytes the result is accepted if it holds ASCII only. -/
def turn? (f : Flags) (negated : Bool) (s : CharSet) : Option CharSet :=
  let s := if negated then .complement (if f.unicode then Unicode.lastCodePoint else 0xFF) s else s
  if f.unicode || s.all (·.2 < 128) then some s else none

/-- The case closure and the complement that a class asks for. -/
def close? (f : Flags) (negated : Bool) (s : CharSet) : Option CharSet := turn? f negated (f.fold s)

/-- Whether a character may be written in a class. -/
def allows (f : Flags) (c : Char) : Bool := f.unicode || c.toNat < 128

/-- The set of a class. -/
def set? (f : Flags) : Bracket → Option CharSet
  | empty => some []
  | char c => if allows f c then some (.single c) else none
  | range lo hi => if allows f lo && allows f hi then some (.range lo hi) else none
  | ascii s negated => close? f negated s
  | shorthand kind negated => turn? f negated (kind.set f.unicode)
  | property s negated => if f.unicode then close? f negated s else none
  | nested body negated => (body.set? f).bind (close? f negated)
  | union a b => do
    let s ← a.set? f
    let t ← b.set? f
    some (.union s t)
  | op kind a b => do
    let s ← a.set? f
    let t ← b.set? f
    some (kind.apply (f.fold s) (f.fold t))

/-- How deep brackets, lists of items and operations nest; `inList` says that the list around was
counted. -/
def depth (inList : Bool) : Bracket → Nat
  | nested body _ => 1 + body.depth false
  | union a b => (if inList then 0 else 1) + max (a.depth true) (b.depth false)
  | op _ a b => 1 + max (a.depth false) (b.depth false)
  | _ => 0

end Bracket

end Signpost.Regex
