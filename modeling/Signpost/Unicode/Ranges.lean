import Signpost.Text.Digit

/-!
# Ranges of code points

The tables of the Unicode standard are kept as text: hexadecimal numbers with a blank between, in turn
the distance from the end of one run of code points to the start of the next, and the length of the
run.  `Ranges.ofLines` reads such a table, `Ranges.has` looks a code point up in it.  Runs ascend because
distances and lengths are natural numbers, so the first run that does not end before a code point is
the only one that can hold it.

A set has one form in which runs neither overlap nor touch, and the operations on sets keep it.  Surrogates
are no characters: no run starts or ends with one, but a run may go from one side of them to the other.
-/

namespace Signpost.Unicode

/-- Runs of code points in ascending order: the first and the last of each. -/
abbrev Ranges := List (Nat × Nat)

/-- The last code point. -/
def lastCodePoint : Nat := 0x10FFFF

namespace Ranges

/-- Whether a code point lies in a run. -/
def has : Ranges → Nat → Bool
  | [], _ => false
  | (lo, hi) :: rest, n => if n ≤ hi then decide (lo ≤ n) else has rest n

/-- The hexadecimal numbers of a text, which anything but a digit separates. -/
def numbers : Nat → Text → List Nat
  | n, [] => [n]
  | n, c :: rest =>
    match hexDigit? c with
    | some d => numbers (n * 16 + d) rest
    | none => n :: numbers 0 rest

/-- Runs from distances and lengths; the first run is counted from `start`. -/
def runs : Nat → List Nat → Ranges
  | start, gap :: size :: rest =>
    (start + gap, start + gap + size - 1) :: runs (start + gap + size) rest
  | _, _ => []

/-- The runs that the lines of a table list. -/
def ofLines (lines : List String) : Ranges :=
  runs 0 (numbers 0 (lines.flatMap fun line => line.toList ++ [' ']))

/-! ## Sets -/

/-- The code point after another, surrogates left out. -/
def after (n : Nat) : Nat := if n = 0xD7FF then 0xE000 else n + 1

/-- The code point before another, surrogates left out. -/
def before (n : Nat) : Nat := if n = 0xE000 then 0xD7FF else n - 1

/-- Runs in ascending order of their starts, those that overlap or touch joined; the first is from `lo` to
`hi`. -/
def joinFrom (lo hi : Nat) : Ranges → Ranges
  | [] => [(lo, hi)]
  | (lo', hi') :: rest =>
    if lo' ≤ hi + 1 then joinFrom lo (max hi hi') rest else (lo, hi) :: joinFrom lo' hi' rest

/-- Runs in ascending order of their starts, those that overlap or touch joined. -/
def join : Ranges → Ranges
  | [] => []
  | (lo, hi) :: rest => joinFrom lo hi rest

/-- A run put into others at its place; what is left of the runs to come is put in behind it. -/
def mergeRun (r : Nat × Nat) (behind : Ranges → Ranges) : Ranges → Ranges
  | [] => r :: behind []
  | s :: b => if r.1 ≤ s.1 then r :: behind (s :: b) else s :: mergeRun r behind b

/-- The runs of two sets in ascending order of their starts. -/
def merge : Ranges → Ranges → Ranges
  | [], b => b
  | r :: a, b => mergeRun r (merge a) b

/-- The code points in either set. -/
def union (a b : Ranges) : Ranges := join (merge a b)

/-- The runs between those given, from the end of one on, up to a last code point.  Between two runs that
only surrogates part there is no gap, and the two code points beside the surrogates are taken for it. -/
def gaps (last : Nat) : Nat → Ranges → Ranges
  | hi, [] => if hi < last then [(after hi, last)] else []
  | hi, (lo, hi') :: rest =>
    (min (after hi) (before lo), max (after hi) (before lo)) :: gaps last hi' rest

/-- All other code points up to a last one. -/
def complement (last : Nat) : Ranges → Ranges
  | [] => [(0, last)]
  | (lo, hi) :: rest => (if 0 < lo then [(0, before lo)] else []) ++ gaps last hi rest

/-- The code points in both sets. -/
def inter (a b : Ranges) : Ranges :=
  a.flatMap fun (lo, hi) => b.filterMap fun (lo', hi') =>
    if max lo lo' ≤ min hi hi' then some (max lo lo', min hi hi') else none

/-- What a set leaves of a run. -/
def cut (lo hi : Nat) : Ranges → Ranges
  | [] => [(lo, hi)]
  | (lo', hi') :: rest =>
    if hi' < lo then cut lo hi rest
    else if hi < lo' then [(lo, hi)]
    else
      (if lo < lo' then [(lo, before lo')] else []) ++
        (if hi' < hi then cut (after hi') hi rest else [])

/-- The code points in the first set that are not in the second. -/
def diff (a b : Ranges) : Ranges := a.flatMap fun (lo, hi) => cut lo hi b

/-- The code points in exactly one of two sets. -/
def symmDiff (a b : Ranges) : Ranges := diff (union a b) (inter a b)

/-- The set of some code points. -/
def ofPoints (ns : List Nat) : Ranges :=
  join ((ns.mergeSort fun m n => decide (m ≤ n)).map fun n => (n, n))

end Ranges

/-- The words of a text, which blanks separate. -/
def words (s : String) : List Text := s.toList.splitOn ' '

/-- A table of names and runs: the runs of the row that has the name. -/
def lookUp? (name : Text) : List (String × List String) → Option Ranges
  | [] => none
  | (names, lines) :: rest =>
    if (words names).contains name then some (Ranges.ofLines lines) else lookUp? name rest

end Signpost.Unicode
