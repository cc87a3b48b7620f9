import Signpost.Toml.Value

/-!
# Numbers of documents

Whole numbers are decimal, or hexadecimal, octal or binary after `0x`, `0o` or `0b`.  Floating-point numbers
have a fraction, an exponent or both, or are infinite or no number by name.  An underscore may stand between
two digits, and a decimal number does not start with a superfluous zero.

A number that is well formed and does not fit its 64 bits is read as `Value.overflow`, and so is `0x`, `0o`
or `0b` without a digit.
-/

namespace Signpost.Toml

/-- Digits with underscores between them, read by the value that each digit has. -/
def digitsWith? (value : Char → Option Nat) : Text → Option (List Nat)
  | [] => none
  | [c] => (value c).map ([·])
  | c :: '_' :: rest => do
    let d ← value c
    let ds ← digitsWith? value rest
    some (d :: ds)
  | c :: rest => do
    let d ← value c
    let ds ← digitsWith? value rest
    some (d :: ds)

/-- A digit of a base up to ten. -/
def digitBelow (base : Nat) (c : Char) : Option Nat :=
  (decimalDigit? c).filter (· < base)

/-- Decimal digits without a superfluous zero. -/
def decimal? (t : Text) : Option (List Nat) :=
  match t with
  | '0' :: _ :: _ => none
  | t => digitsWith? decimalDigit? t

/-- The sign before a number and the rest. -/
def sign : Text → Bool × Text
  | '-' :: rest => (true, rest)
  | '+' :: rest => (false, rest)
  | t => (false, t)

/-- A whole number. -/
def integer? (t : Text) : Option Int :=
  match t with
  | '0' :: 'x' :: rest => (digitsWith? hexDigit? rest).map fun ds => (Digits.value 16 ds : Int)
  | '0' :: 'o' :: rest => (digitsWith? (digitBelow 8) rest).map fun ds => (Digits.value 8 ds : Int)
  | '0' :: 'b' :: rest => (digitsWith? (digitBelow 2) rest).map fun ds => (Digits.value 2 ds : Int)
  | t =>
    let (negative, t) := sign t
    (decimal? t).map fun ds =>
      let n : Int := Digits.value 10 ds
      if negative then -n else n

/-- An exponent after its letter. -/
def exponent? (t : Text) : Option Int :=
  let (negative, t) := sign t
  (digitsWith? decimalDigit? t).map fun ds =>
    let n : Int := Digits.value 10 ds
    if negative then -n else n

/-- The magnitude of a floating-point number in digits; of one that is too large it is infinite. -/
def magnitude? (t : Text) : Option Nat := do
  let isExp (c : Char) : Bool := c == 'e' || c == 'E'
  let mantissa := t.takeWhile (!isExp ·)
  let e ←
    match t.dropWhile (!isExp ·) with
    | [] => some none
    | _ :: rest => (exponent? rest).map some
  let (whole, places) ←
    match Text.cut? '.' mantissa with
    | some (whole, places) => (digitsWith? decimalDigit? places).map fun ds => (whole, some ds)
    | none => some (mantissa, none)
  let whole ← decimal? whole
  if places.isNone && e.isNone then none
  else
    let places := places.getD []
    some (Binary64.ofDecimal (Digits.value 10 (whole ++ places)) (e.getD 0 - places.length))

/-- A floating-point number. -/
def real? (t : Text) : Option Value :=
  let (negative, t) := sign t
  if t = "inf".toList then some (.real ⟨negative, Binary64.infinite⟩)
  else if t = "nan".toList then some (.real ⟨negative, Binary64.notNumber⟩)
  else
    (magnitude? t).map fun m =>
      if m < Binary64.infinite then .real ⟨negative, m⟩ else .overflow

/-- A number. -/
def number? (t : Text) : Option Value :=
  if t = "0x".toList ∨ t = "0o".toList ∨ t = "0b".toList then some .overflow else
  match integer? t with
  | some n =>
    let bound : Int := 0x8000000000000000
    some (if -bound ≤ n ∧ n < bound then .integer n else .overflow)
  | none => real? t

end Signpost.Toml
