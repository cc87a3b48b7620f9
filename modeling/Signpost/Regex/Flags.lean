import Signpost.Regex.Expr

/-!
# Flags

Flags change how the rest of a group is read.  Each rule of reading that a flag decides is one function
here, from the flags to a piece of an expression; the answer `none` says that the piece is refused.
Without the flag `unicode` only ASCII can be named, because anything else would match part of a character.
-/

namespace Signpost.Regex

/-- A switch. -/
inductive Flag where
  /-- The letter `i`: letters match both cases. -/
  | ignoreCase
  /-- The letter `m`: `^` and `$` match at lines. -/
  | multiLine
  /-- The letter `s`: the dot matches a line feed. -/
  | dotAll
  /-- The letter `U`: repetitions prefer fewer, and more after a `?`. -/
  | swapGreed
  /-- The letter `u`: classes and case are those of all scripts. -/
  | unicode
  /-- The letter `R`: a carriage return ends lines too. -/
  | crlf
  /-- The letter `x`: blanks and comments in the expression are skipped. -/
  | extended
deriving DecidableEq

/-- The letter of a switch. -/
def Flag.ofChar? : Char → Option Flag
  | 'i' => some ignoreCase
  | 'm' => some multiLine
  | 's' => some dotAll
  | 'U' => some swapGreed
  | 'u' => some unicode
  | 'R' => some crlf
  | 'x' => some extended
  | _ => none

/-- Which switches are on. -/
structure Flags where
  /-- Whether letters match both cases. -/
  ignoreCase : Bool := false
  /-- Whether `^` and `$` match at lines. -/
  multiLine : Bool := false
  /-- Whether the dot matches a line feed. -/
  dotAll : Bool := false
  /-- Whether repetitions prefer fewer. -/
  swapGreed : Bool := false
  /-- Whether classes and case are those of all scripts. -/
  unicode : Bool := true
  /-- Whether a carriage return ends lines too. -/
  crlf : Bool := false
  /-- Whether blanks and comments are skipped. -/
  extended : Bool := false
deriving DecidableEq

namespace Flags

/-- One switch set. -/
def set (f : Flags) (on : Bool) : Flag → Flags
  | .ignoreCase => { f with ignoreCase := on }
  | .multiLine => { f with multiLine := on }
  | .dotAll => { f with dotAll := on }
  | .swapGreed => { f with swapGreed := on }
  | .unicode => { f with unicode := on }
  | .crlf => { f with crlf := on }
  | .extended => { f with extended := on }

/-- Switches set one after the other. -/
def apply (f : Flags) (changes : List (Flag × Bool)) : Flags :=
  changes.foldl (fun f change => f.set change.2 change.1) f

/-- The case closure that is in force. -/
def fold (f : Flags) (s : CharSet) : CharSet :=
  if f.ignoreCase then if f.unicode then Unicode.foldCase s else Unicode.foldAsciiCase s else s

/-- One character of a set that was written under the flags. -/
def ofSet (f : Flags) (s : CharSet) : Expr := .ofSet (!f.unicode) s

/-- The expression of a literal character; `byte` says that it was written as a byte of two digits,
which without `unicode` has to be ASCII. -/
def literal? (f : Flags) (c : Char) (byte : Bool) : Option Expr :=
  if !f.unicode && byte && c.toNat > 127 then none
  else if f.ignoreCase then some (f.ofSet (f.fold (CharSet.single c)))
  else some (.char c)

/-- The expression of the dot. -/
def dot? (f : Flags) : Option Expr :=
  if !f.unicode then none
  else if f.dotAll then some (f.ofSet CharSet.full)
  else if f.crlf then some (f.ofSet (CharSet.others [(0xA, 0xA), (0xD, 0xD)]))
  else some (f.ofSet (CharSet.others [(0xA, 0xA)]))

/-- The condition of `^`. -/
def lineStart (f : Flags) : Anchor := if f.multiLine then .lineStart f.crlf else .textStart

/-- The condition of `$`. -/
def lineEnd (f : Flags) : Anchor := if f.multiLine then .lineEnd f.crlf else .textEnd

/-- Whether a repetition prefers more, from whether it was written without a `?`. -/
def greedy (f : Flags) (plain : Bool) : Bool := plain != f.swapGreed

end Flags

end Signpost.Regex
