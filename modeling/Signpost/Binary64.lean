import Signpost.Text.Digit

/-!
# Numbers in 64 bits

A floating-point number is a sign and a magnitude.  Read as a natural number, the magnitude orders the
numbers: `2^52` steps for each power of two, the first steps at zero as far apart as those after them.  So
the number `s * 2^q`, with `s` below `2^53`, has the magnitude `(q + 1074) * 2^52 + s`, provided that `s` is
at least `2^52` or `q` is `-1074`.

`ofDecimal` takes the number nearest to a decimal and of two the even one.  `shortest` goes back: among the
decimals that are read as a number it takes one on the coarsest grid of powers of ten, and there the
nearest, of two the greater.  Both compute with natural numbers only.
-/

namespace Signpost

/-- A floating-point number. -/
structure Binary64 where
  /-- Whether it is negative. -/
  negative : Bool
  /-- The bits below the sign. -/
  magnitude : Nat
deriving DecidableEq

namespace Binary64

/-- The number of steps for each power of two, `2^52`. -/
def steps : Nat := 1 <<< 52

/-- The magnitude of infinity; greater ones are no numbers. -/
def infinite : Nat := 0x7FF * steps

/-- The magnitude that stands for no number. -/
def notNumber : Nat := infinite + steps / 2

/-- All bits, as a number. -/
def bits (x : Binary64) : Nat := (if x.negative then 0x800 * steps else 0) + x.magnitude

/-! ## From decimals -/

/-- A quotient rounded to the nearest integer, a half to the even one. -/
def roundDiv (num den : Nat) : Nat :=
  let q := num / den
  let twice := 2 * (num % den)
  if twice < den then q else if den < twice then q + 1 else q + q % 2

/-- The greatest `k` with `2^k ≤ num / den`. -/
def log2Div (num den : Nat) : Int :=
  let k : Int := (Nat.log2 num : Int) - (Nat.log2 den : Int)
  let atLeast := if 0 ≤ k then decide (den <<< k.toNat ≤ num) else decide (den ≤ num <<< (-k).toNat)
  if atLeast then k else k - 1

/-- The magnitude nearest to a positive quotient. -/
def ofRatio (num den : Nat) : Nat :=
  let q : Int := max (-1074) (log2Div num den - 52)
  let s := if 0 ≤ q then roundDiv num (den <<< q.toNat) else roundDiv (num <<< (-q).toNat) den
  min ((q + 1074).toNat * steps + s) infinite

/-- The magnitude nearest to `n * 10^e`.  Beyond 400 digits before the point it is infinite, and with 400
zeros after the point it is zero. -/
def ofDecimal (n : Nat) (e : Int) : Nat :=
  let digits : Int := (Nat.toDigits 10 n).length
  if n = 0 then 0
  else if digits + e > 400 then infinite
  else if digits + e < -400 then 0
  else if 0 ≤ e then ofRatio (n * Nat.pow 10 e.toNat) 1 else ofRatio n (Nat.pow 10 (-e).toNat)

/-! ## To decimals -/

/-- The significand and the exponent of two of a finite magnitude. -/
def decode (magnitude : Nat) : Nat × Int :=
  let e : Nat := magnitude / steps
  let s : Nat := magnitude % steps
  if e = 0 then (s, -1074) else (s + steps, (e : Int) - 1075)

/-- Whether `c * 10^e` is read as the number `s * 2^q`: it lies in the interval of what is rounded there,
whose ends belong to it if `s` is even. -/
def readsAs (s : Nat) (q : Int) (c : Nat) (e : Int) : Bool :=
  let below : Nat := if s = steps ∧ -1074 < q then 1 else 2
  let unit : Int := q - 2
  let scale (n : Nat) : Nat := (n <<< unit.toNat) * Nat.pow 10 (-e).toNat
  let point : Nat := (c * Nat.pow 10 e.toNat) <<< (-unit).toNat
  let lo := scale (4 * s - below)
  let hi := scale (4 * s + 2)
  if s % 2 = 0 then decide (lo ≤ point ∧ point ≤ hi) else decide (lo < point ∧ point < hi)

/-- The multiple of `10^e` nearest to `s * 2^q` that is read as this number, if there is one.  Of two that are
equally near it is the greater. -/
def onGrid? (s : Nat) (q e : Int) : Option Nat :=
  let num := (s <<< q.toNat) * Nat.pow 10 (-e).toNat
  let den := Nat.pow 10 e.toNat <<< (-q).toNat
  let near := (2 * num + den) / (2 * den)
  let low := num / den
  if near ≠ 0 && readsAs s q near e then some near
  else if readsAs s q (low + 1) e then some (low + 1)
  else if low ≠ 0 && readsAs s q low e then some low
  else none

/-- The first grid with such a multiple, coarse grids first. -/
def search : Nat → Nat → Int → Int → Nat × Int
  | 0, _, _, e => (0, e)
  | fuel + 1, s, q, e =>
    match onGrid? s q e with
    | some c => (c, e)
    | none => search fuel s q (e - 1)

/-- The shortest decimal that is read as a positive finite magnitude: digits and a power of ten. -/
def shortest (magnitude : Nat) : Nat × Int :=
  let (s, q) := decode magnitude
  search 800 s q 309

/-- A decimal without an exponent. -/
def positional (n : Nat) (e : Int) : Text :=
  let ds := Text.ofNat n
  if 0 ≤ e then ds ++ List.replicate e.toNat '0'
  else
    let places := (-e).toNat
    let ds := List.replicate (places + 1 - ds.length) '0' ++ ds
    ds.take (ds.length - places) ++ '.' :: ds.drop (ds.length - places)

/-- The number without an exponent, in the fewest digits that are read as it; a whole number ends in `.0`. -/
def display (x : Binary64) : Text :=
  let sign : Text := if x.negative then ['-'] else []
  if x.magnitude > infinite then "NaN".toList
  else if x.magnitude = infinite then sign ++ "inf".toList
  else if x.magnitude = 0 then sign ++ "0.0".toList
  else
    let (n, e) := shortest x.magnitude
    let t := positional n e
    sign ++ (if t.contains '.' then t else t ++ ".0".toList)

end Binary64

end Signpost
