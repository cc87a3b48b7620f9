import Signpost.Text.Digit
import Signpost.Text.Quoted
import Signpost.Binary64
import Signpost.Vars

/-!
# Typed values

The text bound to a variable can be read as a value of a type: a whole number that fits a number of bits, a
truth value, a single character, a floating-point number, or the text itself.

Whole numbers are read left to right and the first thing wrong is what is reported: a character that is no
digit, or a digit that takes the number out of the range of the type.  A sign may come first, `-` only where
there are negative numbers.
-/

namespace Signpost

/-- A type of values. -/
inductive ValueType where
  /-- Whole numbers of a number of bits, from zero. -/
  | unsigned (bits : Nat)
  /-- Whole numbers of a number of bits, half of them negative. -/
  | signed (bits : Nat)
  /-- Truth values. -/
  | bool
  /-- Single characters. -/
  | char
  /-- Floating-point numbers. -/
  | real
  /-- Texts. -/
  | text
deriving DecidableEq

/-- The name of a type in messages. -/
def ValueType.name : ValueType → Text
  | unsigned bits => 'u' :: Text.ofNat bits
  | signed bits => 'i' :: Text.ofNat bits
  | bool => "bool".toList
  | char => "char".toList
  | real => "f64".toList
  | text => "alloc::string::String".toList

/-- A value. -/
inductive Value where
  /-- A whole number. -/
  | int (n : Int)
  /-- A truth value. -/
  | bool (b : Bool)
  /-- A character. -/
  | char (c : Char)
  /-- A floating-point number. -/
  | real (x : Binary64)
  /-- A text. -/
  | text (t : Text)
deriving DecidableEq

/-- What is wrong with a text that should be a value. -/
inductive ReadFault where
  /-- It holds something that is no digit. -/
  | invalidDigit
  /-- A number is expected and there is no text. -/
  | emptyInteger
  /-- The number is too large for the type. -/
  | tooLarge
  /-- The number is too small for the type. -/
  | tooSmall
  /-- It is not the name of a truth value. -/
  | notBool
  /-- A character is expected and there is no text. -/
  | emptyChar
  /-- There is more than one character. -/
  | manyChars
  /-- A floating-point number is expected and there is no text. -/
  | emptyReal
  /-- It is not a floating-point number. -/
  | invalidReal
deriving DecidableEq

/-- The wording. -/
def ReadFault.message : ReadFault → Text
  | invalidDigit => "invalid digit found in string".toList
  | emptyInteger => "cannot parse integer from empty string".toList
  | tooLarge => "number too large to fit in target type".toList
  | tooSmall => "number too small to fit in target type".toList
  | notBool => "provided string was not `true` or `false`".toList
  | emptyChar => "cannot parse char from empty string".toList
  | manyChars => "too many characters in string".toList
  | emptyReal => "cannot parse float from empty string".toList
  | invalidReal => "invalid float literal".toList

namespace Value

/-! ## Whole numbers -/

/-- Digits read after those of `n`, none of which may take the number beyond `max`. -/
def readDigits (max : Nat) (beyond : ReadFault) : Nat → Text → Except ReadFault Nat
  | n, [] => .ok n
  | n, c :: rest =>
    match decimalDigit? c with
    | none => .error .invalidDigit
    | some d =>
      let m := n * 10 + d
      if m ≤ max then readDigits max beyond m rest else .error beyond

/-- A whole number of a range: at most `max`, and with a minus sign, if there may be one, at most `min`
below zero. -/
def readInt (min : Option Nat) (max : Nat) : Text → Except ReadFault Int
  | [] => .error .emptyInteger
  | '+' :: rest =>
    if rest.isEmpty then .error .invalidDigit else (readDigits max .tooLarge 0 rest).map Int.ofNat
  | '-' :: rest =>
    match min with
    | some min =>
      if rest.isEmpty then .error .invalidDigit
      else (readDigits min .tooSmall 0 rest).map fun n => -Int.ofNat n
    | none => .error .invalidDigit
  | t => (readDigits max .tooLarge 0 t).map Int.ofNat

/-! ## Floating-point numbers -/

/-- The digits a text starts with and the rest. -/
def spanDigits : Text → List Nat × Text
  | [] => ([], [])
  | c :: rest =>
    match decimalDigit? c with
    | some d =>
      let (ds, rest) := spanDigits rest
      (d :: ds, rest)
    | none => ([], c :: rest)

/-- An exponent after its letter. -/
def exponent? (t : Text) : Option Int :=
  let (negative, t) :=
    match t with
    | '-' :: rest => (true, rest)
    | '+' :: rest => (false, rest)
    | t => (false, t)
  match spanDigits t with
  | ([], _) => none
  | (ds, []) =>
    let n : Int := Digits.value 10 ds
    some (if negative then -n else n)
  | _ => none

/-- The magnitude of a number without a sign: digits, perhaps with a point, of which there is at least one,
and perhaps an exponent; or a word for infinity or for no number. -/
def magnitude? (t : Text) : Option Nat :=
  let word := Text.asciiLower t
  if word = "inf".toList ∨ word = "infinity".toList then some Binary64.infinite
  else if word = "nan".toList then some Binary64.notNumber
  else
    let (whole, rest) := spanDigits t
    let (places, rest) :=
      match rest with
      | '.' :: rest => spanDigits rest
      | rest => ([], rest)
    if whole.isEmpty && places.isEmpty then none
    else
      let scaled (e : Int) : Option Nat :=
        some (Binary64.ofDecimal (Digits.value 10 (whole ++ places)) (e - places.length))
      match rest with
      | [] => scaled 0
      | c :: rest => if c = 'e' ∨ c = 'E' then (exponent? rest).bind scaled else none

/-- A floating-point number with a sign or without. -/
def real? : Text → Option Binary64
  | '-' :: rest => (magnitude? rest).map (⟨true, ·⟩)
  | '+' :: rest => (magnitude? rest).map (⟨false, ·⟩)
  | t => (magnitude? t).map (⟨false, ·⟩)

/-! ## All types -/

/-- The number of values that a number of bits has. -/
def countOfBits (bits : Nat) : Nat := 1 <<< bits

/-- The value of a type that a text writes. -/
def read (type : ValueType) (t : Text) : Except ReadFault Value :=
  match type with
  | .unsigned bits => (readInt none (countOfBits bits - 1) t).map int
  | .signed bits =>
    let half := countOfBits (bits - 1)
    (readInt (some half) (half - 1) t).map int
  | .bool =>
    if t = "true".toList then .ok (bool true)
    else if t = "false".toList then .ok (bool false)
    else .error .notBool
  | .char =>
    match t with
    | [] => .error .emptyChar
    | [c] => .ok (char c)
    | _ => .error .manyChars
  | .real =>
    if t.isEmpty then .error .emptyReal
    else
      match real? t with
      | some x => .ok (real x)
      | none => .error .invalidReal
  | .text => .ok (text t)

end Value

/-- Why a variable has no value of a type. -/
inductive VarError where
  /-- It is not bound. -/
  | missing (name : Text)
  /-- Its text is not a value of the type. -/
  | unreadable (name raw : Text) (type : ValueType) (fault : ReadFault)
deriving DecidableEq

/-- The wording. -/
def VarError.message : VarError → Text
  | missing name => "path variable ".toList ++ Text.quoted name ++ " is not present".toList
  | unreadable name raw type fault =>
    "path variable ".toList ++ Text.quoted name ++ " with value ".toList ++ Text.quoted raw ++
      " is not a valid ".toList ++ type.name ++ ": ".toList ++ fault.message

namespace Vars

/-- The value of a variable, read as a type. -/
def read (v : Vars) (name : Text) (type : ValueType) : Except VarError Value :=
  match v.get? name with
  | none => .error (.missing name)
  | some raw => (Value.read type raw).mapError (.unreadable name raw type)

/-- The value of a variable as a whole number of 64 bits. -/
def getInt (v : Vars) (name : Text) : Except VarError Int :=
  match v.get? name with
  | none => .error (.missing name)
  | some raw =>
    let half := Value.countOfBits 63
    (Value.readInt (some half) (half - 1) raw).mapError (.unreadable name raw (.signed 64))

end Vars

end Signpost
