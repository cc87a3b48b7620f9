import Signpost.Regex.Expr

/-!
# Programs

A program is an expression made ready for a search: counted repetitions are written out, and every place
where the search has a choice, a *split*, carries a number of its own.  The search never passes one split
twice at one place of the text, so numbers must differ, and copies of a repeated body get numbers of their
own.

Written out, `x{n,}` is `n - 1` copies of `x` and a loop, and `x{n,m}` is `n` copies and `m - n` options,
each inside the one before.  A group without a name leaves no trace.  The body of a loop that starts with a
choice (`star`) consumes something whenever it matches; where the body may match the empty text, `x*` is an
optional loop that starts with the body (`plus`).
-/

namespace Signpost.Regex

/-- An expression ready for a search. -/
inductive Prog where
  /-- Matches the empty text. -/
  | empty
  /-- Matches one character of a set. -/
  | chars (set : CharSet)
  /-- Matches the empty text where a condition holds. -/
  | anchor (a : Anchor)
  /-- Captures what the body matches. -/
  | named (name : Text) (body : Prog)
  /-- One after the other. -/
  | cat (first second : Prog)
  /-- One or the other, the first preferred. -/
  | alt (split : Nat) (first second : Prog)
  /-- The body or nothing. -/
  | opt (split : Nat) (greedy : Bool) (body : Prog)
  /-- A split, and after each run of the body the split again. -/
  | star (split : Nat) (greedy : Bool) (body : Prog)
  /-- The body, then a split that leads back to it. -/
  | plus (split : Nat) (greedy : Bool) (body : Prog)

namespace Prog

/-- Makes a program; the number is the first one free for a split, and the result gives the next. -/
abbrev Numbering := Nat → Prog × Nat

/-- A text, character by character. -/
def text : Text → Prog
  | [] => empty
  | [c] => chars (.single c)
  | c :: t => cat (chars (.single c)) (text t)

/-- A number of copies in sequence. -/
def copies (body : Numbering) : Nat → Numbering
  | 0, next => (empty, next)
  | n + 1, next =>
    let (p, next) := body next
    let (q, next) := copies body n next
    (cat p q, next)

/-- A number of copies, each optional and inside the one before. -/
def options (greedy : Bool) (body : Numbering) : Nat → Numbering
  | 0, next => (empty, next)
  | n + 1, next =>
    let (p, next') := body (next + 1)
    let (q, next') := options greedy body n next'
    (opt next greedy (cat p q), next')

/-- A loop that runs its body at least once. -/
def atLeastOne (greedy : Bool) (body : Numbering) : Numbering := fun next =>
  let (p, next') := body (next + 1)
  (plus next greedy p, next')

/-- A loop that may run its body not at all. -/
def anyNumber (greedy nullable : Bool) (body : Numbering) : Numbering := fun next =>
  if nullable then
    let (p, next') := atLeastOne greedy body (next + 1)
    (opt next greedy p, next')
  else
    let (p, next') := body (next + 1)
    (star next greedy p, next')

/-- One program after another. -/
def both (first second : Numbering) : Numbering := fun next =>
  let (p, next) := first next
  let (q, next) := second next
  (cat p q, next)

/-- A repetition written out. -/
def repeated (min : Nat) (max : Option Nat) (greedy nullable : Bool) (body : Numbering) : Numbering :=
  match min, max with
  | 0, none => anyNumber greedy nullable body
  | 1, none => atLeastOne greedy body
  | n + 1, none => both (copies body n) (atLeastOne greedy body)
  | n, some m => both (copies body n) (options greedy body (m - n))

mutual

/-- The program of an expression. -/
def ofExpr : Expr → Numbering
  | .empty, next => (empty, next)
  | .literal t, next => (text t, next)
  | .set _ s, next => (chars s, next)
  | .anchor a, next => (anchor a, next)
  | .group none e, next => ofExpr e next
  | .group (some name) e, next =>
    let (p, next) := ofExpr e next
    (named name p, next)
  | .seq es, next => ofSeq es next
  | .choice es, next => ofChoice es next
  | .rep min max greedy e, next => repeated min max greedy e.nullable (ofExpr e) next

/-- The program of expressions one after the other. -/
def ofSeq : List Expr → Numbering
  | [], next => (empty, next)
  | e :: es, next => both (ofExpr e) (ofSeq es) next

/-- The program of expressions to choose from.  The last one is no choice. -/
def ofChoice : List Expr → Numbering
  | [], next => (chars [], next)
  | [e], next => ofExpr e next
  | e :: es, next =>
    let (p, next') := ofExpr e (next + 1)
    let (q, next') := ofChoice es next'
    (alt next p q, next')

end

end Prog

end Signpost.Regex
