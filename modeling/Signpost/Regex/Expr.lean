import Signpost.Regex.CharSet

/-!
# Regular expressions

An expression says which texts match and, by the order of its choices, which of several ways of matching
is preferred.  Flags and classes are resolved when it is read, so what is left is characters, conditions
on a place in the text, groups, sequence, choice and repetition.

*Normal form.*  Expressions are built by functions (`ofSet`, `concat`, `choose`, `repeated`) that make
expressions in normal form of such.  There sequences and choices are flat, characters in a row are one
literal, a choice between characters is a set, and an expression that matches nothing but the empty text is
repeated at most once.

*Common starts.*  If all branches of a choice are sequences that start with the same parts, these stand once
before the choice.  So the parts they share are matched before a branch is chosen: in `.+?x|.+?y` the
shortest start comes first, and only then `x` is preferred to `y`.
-/

namespace Signpost.Regex

/-- A condition on the two sides of a place between characters, as to words. -/
inductive WordSide where
  /-- A word starts or ends. -/
  | edge
  /-- No word starts or ends. -/
  | noEdge
  /-- A word starts. -/
  | start
  /-- A word ends. -/
  | stop
  /-- No word character is before. -/
  | startHalf
  /-- No word character is after. -/
  | stopHalf
deriving DecidableEq

/-- A condition on a place between characters. -/
inductive Anchor where
  /-- The start of the text. -/
  | textStart
  /-- The end of the text. -/
  | textEnd
  /-- The start of a line; with `crlf` a carriage return ends lines too and is one end with a line feed. -/
  | lineStart (crlf : Bool)
  /-- The end of a line. -/
  | lineEnd (crlf : Bool)
  /-- A condition on words, of all scripts if `wide` is set and of ASCII otherwise. -/
  | word (side : WordSide) (wide : Bool)
deriving DecidableEq

/-- Whether a place has words on its sides as demanded, from whether a word character is there. -/
def WordSide.holds : WordSide → Bool → Bool → Bool
  | edge, before, after => before != after
  | noEdge, before, after => before == after
  | start, before, after => !before && after
  | stop, before, after => before && !after
  | startHalf, before, _ => !before
  | stopHalf, _, after => !after

/-- Whether a condition holds between two characters, either of which may be missing at an end. -/
def Anchor.holds (before after : Option Char) : Anchor → Bool
  | textStart => before.isNone
  | textEnd => after.isNone
  | lineStart false => before.isNone || before == some '\n'
  | lineEnd false => after.isNone || after == some '\n'
  | lineStart true =>
    before.isNone || before == some '\n' || (before == some '\r' && after != some '\n')
  | lineEnd true =>
    after.isNone || after == some '\r' || (after == some '\n' && before != some '\r')
  | word side wide =>
    let inWord (c : Option Char) : Bool :=
      c.any fun c => if wide then Unicode.isWordChar c else CharSet.asciiWord.has c.toNat
    side.holds (inWord before) (inWord after)

/-- A regular expression. -/
inductive Expr where
  /-- Matches the empty text. -/
  | empty
  /-- Matches a text. -/
  | literal (t : Text)
  /-- Matches one character of a set; `narrow` says that the set was written without the flag `unicode`. -/
  | set (narrow : Bool) (s : CharSet)
  /-- Matches the empty text where a condition holds. -/
  | anchor (a : Anchor)
  /-- Captures what the body matches, perhaps under a name. -/
  | group (name : Option Text) (body : Expr)
  /-- One after the other. -/
  | seq (parts : List Expr)
  /-- One of several, earlier ones preferred. -/
  | choice (branches : List Expr)
  /-- The body at least `min` times and at most `max` times; more is preferred if `greedy` is set and
  fewer otherwise. -/
  | rep (min : Nat) (max : Option Nat) (greedy : Bool) (body : Expr)

namespace Expr

/-! ## Lengths -/

mutual

/-- The least number of characters in a match, as far as the shape tells.  What contains a set without
members has none. -/
def minLength? : Expr → Option Nat
  | empty | anchor _ => some 0
  | literal t => some t.length
  | set _ s => if s.isEmpty then none else some 1
  | group _ e => e.minLength?
  | seq es => (minLengths? es).map (·.foldl (· + ·) 0)
  | choice es => (minLengths? es).bind List.min?
  | rep min _ _ e => e.minLength?.map (min * ·)

/-- The least numbers of characters, if there is one for each. -/
def minLengths? : List Expr → Option (List Nat)
  | [] => some []
  | e :: es => do
    let n ← e.minLength?
    let ns ← minLengths? es
    some (n :: ns)

end

mutual

/-- The greatest number of characters in a match, as far as the shape tells.  What contains a set without
members or may be repeated without end has none. -/
def maxLength? : Expr → Option Nat
  | empty | anchor _ => some 0
  | literal t => some t.length
  | set _ s => if s.isEmpty then none else some 1
  | group _ e => e.maxLength?
  | seq es => (maxLengths? es).map (·.foldl (· + ·) 0)
  | choice es => (maxLengths? es).bind List.max?
  | rep _ max _ e => do
    let n ← e.maxLength?
    let m ← max
    some (m * n)

/-- The greatest numbers of characters, if there is one for each. -/
def maxLengths? : List Expr → Option (List Nat)
  | [] => some []
  | e :: es => do
    let n ← e.maxLength?
    let ns ← maxLengths? es
    some (n :: ns)

end

/-- Whether the shape does not tell that every match has a character. -/
def nullable (e : Expr) : Bool := e.minLength?.all (· == 0)

/-- Whether the empty text is all that the expression can match, as far as the shape tells. -/
def emptyOnly (e : Expr) : Bool := e.maxLength? == some 0

/-! ## Equality -/

mutual

/-- Whether two expressions are the same.  A group is no other group. -/
def same : Expr → Expr → Bool
  | empty, empty => true
  | literal t, literal u => t == u
  | set narrow s, set narrow' s' => narrow == narrow' && s == s'
  | anchor a, anchor b => a == b
  | seq es, seq fs => sameAll es fs
  | choice es, choice fs => sameAll es fs
  | rep min max greedy e, rep min' max' greedy' f =>
    min == min' && max == max' && greedy == greedy' && same e f
  | _, _ => false

/-- Whether two rows of expressions are the same. -/
def sameAll : List Expr → List Expr → Bool
  | [], [] => true
  | e :: es, f :: fs => same e f && sameAll es fs
  | _, _ => false

end

/-! ## Building -/

/-- One character. -/
def char (c : Char) : Expr := literal [c]

/-- One character of a set, which is a literal if there is only one.  The set without members is one. -/
def ofSet (narrow : Bool) : CharSet → Expr
  | [] => set true []
  | [(lo, hi)] => if lo = hi then char (Char.ofNat lo) else set narrow [(lo, hi)]
  | s => set narrow s

/-- The parts of an expression in a sequence. -/
def parts : Expr → List Expr
  | empty => []
  | seq es => es
  | e => [e]

/-- Literals in a row made one. -/
def joinLiterals : List Expr → List Expr
  | [] => []
  | literal t :: rest =>
    match joinLiterals rest with
    | literal u :: rest => literal (t ++ u) :: rest
    | rest => literal t :: rest
  | e :: rest => e :: joinLiterals rest

/-- Expressions one after the other. -/
def concat (es : List Expr) : Expr :=
  match joinLiterals (es.flatMap parts) with
  | [] => empty
  | [e] => e
  | es => seq es

/-- The branches of an expression in a choice. -/
def branches : Expr → List Expr
  | choice es => es
  | e => [e]

/-- The character that is all of a literal. -/
def char? : Expr → Option Char
  | literal [c] => some c
  | _ => none

/-- The members of a set. -/
def set? : Expr → Option CharSet
  | set _ s => some s
  | _ => none

/-- Branches to choose from, as one set if all are characters or all are sets. -/
def ofBranches : List Expr → Expr
  | [e] => e
  | es =>
    match es.mapM char?, es.mapM set? with
    | some cs, _ => ofSet false (cs.foldl (fun s c => s.union (CharSet.single c)) [])
    | none, some sets => ofSet false (sets.foldl Unicode.Ranges.union [])
    | none, none => choice es

/-- How many expressions two rows have in common at their start. -/
def commonStart : List Expr → List Expr → Nat
  | e :: es, f :: fs => if e.same f then commonStart es fs + 1 else 0
  | _, _ => 0

/-- The parts of a sequence of two or more. -/
def seq? : Expr → Option (List Expr)
  | seq es => some es
  | _ => none

/-- Expressions to choose from, earlier ones preferred; what they all start with stands before the
choice. -/
def choose (es : List Expr) : Expr :=
  match ofBranches (es.flatMap branches) with
  | choice es =>
    match es.mapM seq? with
    | some (first :: others) =>
      let count := others.foldl (fun n other => min n (commonStart first other)) first.length
      if count = 0 then choice es
      else
        let rests := (first :: others).map fun es => concat (es.drop count)
        concat (first.take count ++ [ofBranches (rests.flatMap branches)])
    | _ => choice es
  | e => e

/-- A repetition.  Of a body that matches nothing but the empty text one run is enough. -/
def repeated (min : Nat) (max : Option Nat) (greedy : Bool) (body : Expr) : Expr :=
  let (min, max) :=
    if body.emptyOnly then (Nat.min min 1, some ((max.map (Nat.min · 1)).getD 1)) else (min, max)
  if max = some 0 then empty
  else if min = 1 ∧ max = some 1 then body
  else rep min max greedy body

end Expr

end Signpost.Regex
