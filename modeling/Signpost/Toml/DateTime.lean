import Signpost.Toml.Value

/-!
# Dates and times of documents

A date, a time of day, or both with a letter or a blank between, and after both perhaps the distance from
universal time.  A time that ends with its minutes is at the start of the minute, and of a second's
fraction nine digits count.  `DateTime.ofText?` reads any of them and `DateTime.toText` writes them in one
form: the letter `T` between, seconds always, and their fraction without the zeros at its end.
-/

namespace Signpost.Toml

/-- A day of the calendar. -/
structure Date where
  /-- The year. -/
  year : Nat
  /-- The month, from one. -/
  month : Nat
  /-- The day of the month, from one. -/
  day : Nat
deriving DecidableEq

/-- A time of day. -/
structure Time where
  /-- The hour. -/
  hour : Nat
  /-- The minute. -/
  minute : Nat
  /-- The second. -/
  second : Nat := 0
  /-- The nanosecond within the second. -/
  nanosecond : Nat := 0
deriving DecidableEq

/-- The distance from universal time. -/
inductive Offset where
  /-- None, written `Z`. -/
  | utc
  /-- Hours and minutes, to the west if `negative`. -/
  | shift (negative : Bool) (hours minutes : Nat)
deriving DecidableEq

/-- A date, a time or both. -/
inductive DateTime where
  /-- A date. -/
  | date (d : Date)
  /-- A time. -/
  | time (t : Time)
  /-- Both. -/
  | both (d : Date) (t : Time) (offset : Option Offset)
deriving DecidableEq

/-- The number of days of a month. -/
def daysIn (year month : Nat) : Nat :=
  if month = 2 then
    if (year % 4 = 0 ∧ year % 100 ≠ 0) ∨ year % 400 = 0 then 29 else 28
  else if month = 4 ∨ month = 6 ∨ month = 9 ∨ month = 11 then 30 else 31

/-- A number of a given count of digits, and the rest. -/
def fixed? : Nat → Nat → Text → Option (Nat × Text)
  | 0, n, t => some (n, t)
  | count + 1, n, c :: rest => do
    let d ← decimalDigit? c
    fixed? count (n * 10 + d) rest
  | _ + 1, _, [] => none

/-- The digits that a text starts with, and the rest. -/
def leadingDigits : Text → List Nat × Text
  | [] => ([], [])
  | c :: rest =>
    match decimalDigit? c with
    | some d =>
      let (ds, rest) := leadingDigits rest
      (d :: ds, rest)
    | none => ([], c :: rest)

/-- A character that has to come next. -/
def expect? (c : Char) : Text → Option Text
  | d :: rest => if d = c then some rest else none
  | [] => none

/-- A date and the rest. -/
def Date.read? (t : Text) : Option (Date × Text) := do
  let (year, t) ← fixed? 4 0 t
  let t ← expect? '-' t
  let (month, t) ← fixed? 2 0 t
  let t ← expect? '-' t
  let (day, t) ← fixed? 2 0 t
  if 1 ≤ month ∧ month ≤ 12 ∧ 1 ≤ day ∧ day ≤ daysIn year month then some (⟨year, month, day⟩, t)
  else none

/-- The nanoseconds that the digits of a fraction give; those after the ninth do not count. -/
def nanoseconds (ds : List Nat) : Nat :=
  Digits.value 10 (ds.take 9 ++ List.replicate (9 - ds.length) 0)

/-- A time and the rest. -/
def Time.read? (t : Text) : Option (Time × Text) := do
  let (hour, t) ← fixed? 2 0 t
  let t ← expect? ':' t
  let (minute, t) ← fixed? 2 0 t
  if hour > 23 ∨ minute > 59 then none
  else
    match t with
    | ':' :: t =>
      let (second, t) ← fixed? 2 0 t
      if second > 60 then none
      else
        match t with
        | '.' :: t =>
          let (ds, t) := leadingDigits t
          if ds.isEmpty then none else some (⟨hour, minute, second, nanoseconds ds⟩, t)
        | t => some (⟨hour, minute, second, 0⟩, t)
    | t => some (⟨hour, minute, 0, 0⟩, t)

/-- A distance from universal time, to the end of the text. -/
def Offset.ofText? (t : Text) : Option Offset :=
  match t with
  | ['Z'] | ['z'] => some .utc
  | c :: rest =>
    if c = '+' ∨ c = '-' then do
      let (hours, t) ← fixed? 2 0 rest
      let t ← expect? ':' t
      let (minutes, t) ← fixed? 2 0 t
      if t.isEmpty ∧ hours ≤ 23 ∧ minutes ≤ 59 then some (.shift (c = '-') hours minutes) else none
    else none
  | [] => none

/-- A date, a time or both. -/
def DateTime.ofText? (t : Text) : Option DateTime :=
  match Date.read? t with
  | some (d, []) => some (.date d)
  | some (d, c :: rest) =>
    if c = 'T' ∨ c = 't' ∨ c = ' ' then do
      let (clock, rest) ← Time.read? rest
      if rest.isEmpty then some (.both d clock none)
      else
        let offset ← Offset.ofText? rest
        some (.both d clock (some offset))
    else none
  | none =>
    match Time.read? t with
    | some (clock, []) => some (.time clock)
    | _ => none

/-- A number in at least a given count of digits. -/
def padded (count n : Nat) : Text :=
  let ds := Text.ofNat n
  List.replicate (count - ds.length) '0' ++ ds

/-- Writes a date. -/
def Date.toText (d : Date) : Text :=
  padded 4 d.year ++ '-' :: padded 2 d.month ++ '-' :: padded 2 d.day

/-- Writes the fraction of a second, if it is not zero. -/
def fraction (nanosecond : Nat) : Text :=
  if nanosecond = 0 then []
  else '.' :: ((padded 9 nanosecond).reverse.dropWhile (· = '0')).reverse

/-- Writes a time. -/
def Time.toText (t : Time) : Text :=
  padded 2 t.hour ++ ':' :: padded 2 t.minute ++ ':' :: padded 2 t.second ++ fraction t.nanosecond

/-- Writes a distance from universal time; no distance to the west is none to the east. -/
def Offset.toText : Offset → Text
  | utc => ['Z']
  | shift negative hours minutes =>
    (if negative && (hours != 0 || minutes != 0) then '-' else '+') :: padded 2 hours ++
      ':' :: padded 2 minutes

/-- Writes a date, a time or both. -/
def DateTime.toText : DateTime → Text
  | date d => d.toText
  | time t => t.toText
  | both d t offset => d.toText ++ 'T' :: t.toText ++ ((offset.map Offset.toText).getD [])

end Signpost.Toml
