import Signpost.Text

/-!
# Digits

The values of single digits and of runs of them.  `Digits.value` reads a run in any base; a run is read
left to right, so leading zeros change nothing.
-/

namespace Signpost

/-- The value of a decimal digit. -/
def decimalDigit? (c : Char) : Option Nat :=
  if '0' ≤ c ∧ c ≤ '9' then some (c.toNat - 48) else none

/-- The value of a hexadecimal digit of either case. -/
def hexDigit? (c : Char) : Option Nat :=
  if '0' ≤ c ∧ c ≤ '9' then some (c.toNat - 48)
  else if 'a' ≤ c ∧ c ≤ 'f' then some (c.toNat - 87)
  else if 'A' ≤ c ∧ c ≤ 'F' then some (c.toNat - 55)
  else none

/-- The number that digits denote, most significant first. -/
def Digits.value (base : Nat) (ds : List Nat) : Nat := ds.foldl (fun n d => n * base + d) 0

/-- A hexadecimal digit in upper case. -/
def hexCharUpper (n : Nat) : Char := (Nat.digitChar n).toUpper

/-- The shortest hexadecimal form of a number, in lower case. -/
def hexOfNat (n : Nat) : Text := Nat.toDigits 16 n

end Signpost
