import Signpost.Regex.Expr
import Signpost.Text.Utf8
import Std.Data.HashSet

/-!
# Sizes of machines

The size of an expression is that of a machine that reads a text byte by byte in UTF-8: so many bytes a
state, and some more for each way out of a state that has several.  There are two machines, one for reading
forwards, which captures, and one for reading backwards, which does not; the larger one counts.

*Sets.*  A set of characters is a choice between rows of byte ranges (`Unicode.Ranges.byteRows`).  Forwards
the rows share states that have the same continuations; backwards they share the states of their first
bytes, since these come last.  A set of ASCII characters is one state.

*Choices between literals* are tries.  A word that ends where others go on divides the words after it from
those before it, since earlier words are preferred.

*Counted repetitions* are written out.  The size is reckoned and nothing is written, since counts can ask for
billions of copies.
-/

namespace Signpost.Regex

open Unicode (Ranges)

/-- Ranges of bytes in a row; a text of as many bytes matches if each byte is in its range. -/
abbrev ByteRow := List (Nat × Nat)

/-- The rows for numbers written in a first byte and `more` others of six bits each.  `mark` is what the first
byte has besides its bits. -/
def byteRows (mark : Nat) : Nat → Nat → Nat → List ByteRow
  | 0, lo, hi => [[(mark + lo, mark + hi)]]
  | more + 1, lo, hi =>
    let block := 1 <<< (6 * (more + 1))
    let first := lo / block
    let last := hi / block
    let within (b lo hi : Nat) : List ByteRow :=
      (byteRows 0x80 more lo hi).map fun row => (mark + b, mark + b) :: row
    if first = last then within first (lo % block) (hi % block)
    else
      let start := if lo % block = 0 then [] else within first (lo % block) (block - 1)
      let since := if lo % block = 0 then first else first + 1
      let stop := if hi % block = block - 1 then [] else within last 0 (hi % block)
      let upTo := if hi % block = block - 1 then last + 1 else last
      let full : List ByteRow :=
        if since < upTo then
          [(mark + since, mark + (upTo - 1)) :: List.replicate (more + 1) (0x80, 0xBF)]
        else []
      start ++ full ++ stop

/-- The parts of the code points that are written in the same number of bytes, surrogates left out: the
first and the last code point, the mark of the first byte and the number of the others. -/
def utf8Parts : List (Nat × Nat × Nat × Nat) :=
  [(0, 0x7F, 0, 0), (0x80, 0x7FF, 0xC0, 1), (0x800, 0xD7FF, 0xE0, 2), (0xE000, 0xFFFF, 0xE0, 2),
    (0x10000, 0x10FFFF, 0xF0, 3)]

/-- The rows of bytes that write the characters of a set, in ascending order. -/
def rowsOf (runs : Ranges) : List ByteRow :=
  runs.flatMap fun (lo, hi) => utf8Parts.flatMap fun (first, last, mark, more) =>
    if max lo first ≤ min hi last then byteRows mark more (max lo first) (min hi last) else []

/-- The bytes of a state. -/
def stateBytes : Nat := 32

/-- The bytes of one of several ways out of a state that a byte chooses. -/
def rangeBytes : Nat := 8

/-- The bytes of one of several ways out of a state that no byte chooses. -/
def branchBytes : Nat := 4

/-- Rows put together by their first ranges. -/
def byFirst (rows : List ByteRow) : List (List ByteRow) :=
  rows.splitBy fun a b => a.head? == b.head?

/-- The states that a set needs forwards, each given by the rows that continue from it. -/
def continuations : Nat → List ByteRow → List (List ByteRow)
  | 0, _ => []
  | fuel + 1, rows =>
    if rows.all List.isEmpty then []
    else rows :: (byFirst rows).flatMap fun group => continuations fuel (group.map List.tail)

/-- How many ranges two rows have in common at their start. -/
def sharedStart : ByteRow → ByteRow → Nat
  | r :: rs, s :: ss => if r == s then sharedStart rs ss + 1 else 0
  | _, _ => 0

/-- The states that rows need backwards, after an earlier row. -/
def prefixStates (before : ByteRow) : List ByteRow → Nat
  | [] => 0
  | row :: rows => row.length - sharedStart before row + prefixStates row rows

/-- The size of a set. -/
def setBytes (backwards : Bool) (runs : CharSet) : Nat :=
  if runs.all (·.2 < 128) then 2 * stateBytes + runs.length * rangeBytes
  else
    let rows := rowsOf runs
    if backwards then
      2 * stateBytes + rows.length * branchBytes + prefixStates [] rows * stateBytes
    else
      (Std.HashSet.ofList (continuations 4 rows)).fold
        (fun size rows => size + stateBytes + (byFirst rows).length * rangeBytes) stateBytes

/-- The size of a trie for words, of which some may be empty.  It has no state where no word goes on. -/
def trieBytes : Nat → List (List UInt8) → Nat
  | 0, _ => 0
  | fuel + 1, words =>
    let words := if words.head? == some [] then [] :: words.dropWhile List.isEmpty else words
    if words.all List.isEmpty then 0
    else
      let chunks := words.splitOn []
      let sizes := chunks.map fun chunk =>
        let heads := (chunk.filterMap List.head?).eraseDups
        let ways :=
          match heads with
          | [] => 0
          | [_] => stateBytes + branchBytes
          | _ => stateBytes + branchBytes + heads.length * rangeBytes
        let below := heads.map fun b =>
          trieBytes fuel ((chunk.filter fun w => w.head? == some b).map List.tail)
        ways + below.foldl (· + ·) 0
      stateBytes + (chunks.length - 1) * branchBytes + sizes.foldl (· + ·) 0

/-- The size of copies of a body. -/
def copiesBytes (one : Nat) : Nat → Nat
  | 0 => stateBytes
  | n + 1 => (n + 1) * one

/-- The size of a repetition of a body of size `one`. -/
def repeatBytes (nullable : Bool) (one : Nat) (min : Nat) (max : Option Nat) : Nat :=
  let split := stateBytes + 2 * branchBytes
  match min, max with
  | 0, none => if nullable then one + 2 * split + stateBytes else one + split
  | n + 1, none => (n + 1) * one + split
  | 0, some 1 => one + split + stateBytes
  | n, some m =>
    if m ≤ n then copiesBytes one n else copiesBytes one n + stateBytes + (m - n) * (one + split)

/-- The bytes of a literal. -/
def Expr.literalBytes? : Expr → Option (List UInt8)
  | literal t => some (Text.toBytes t)
  | _ => none

mutual

/-- The size of the machine of an expression. -/
def Expr.bytes (backwards : Bool) : Expr → Nat
  | .empty | .anchor _ => stateBytes
  | .literal t => Text.bytes t * stateBytes
  | .set _ runs => setBytes backwards runs
  | .group _ e => (if backwards then 0 else 2 * stateBytes) + e.bytes backwards
  | .seq es => sumBytes backwards es
  | .choice es =>
    match es.mapM Expr.literalBytes? with
    | some words =>
      let words := if backwards then words.map List.reverse else words
      stateBytes + trieBytes ((words.map List.length).foldl max 0 + 1) words
    | none => 2 * stateBytes + es.length * branchBytes + sumBytes backwards es
  | .rep min max _ e => repeatBytes e.nullable (e.bytes backwards) min max

/-- The size of some machines together. -/
def sumBytes (backwards : Bool) : List Expr → Nat
  | [] => 0
  | e :: es => e.bytes backwards + sumBytes backwards es

end

/-- The size of the machine for searching: the states of the expression, one to start in, one to stop in, and
forwards two that capture the whole match. -/
def Expr.machineBytes (backwards : Bool) (e : Expr) : Nat :=
  2 * stateBytes + (group none e).bytes backwards

end Signpost.Regex
