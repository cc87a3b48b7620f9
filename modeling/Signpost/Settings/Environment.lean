import Signpost.Settings
import Signpost.Value

/-!
# Settings in the environment

Each setting can be overridden by a variable of the environment.  All variables that are set have to be well
formed, and the first that is not is reported; only then are the limits checked, those that no variable set
included.  Blanks around a value do not count.
-/

namespace Signpost.Settings

/-- What the names of the variables start with. -/
def variableStart : Text := "TRELLIS_".toList

/-- The name of the variable of a setting, from the name of the setting. -/
def variableName (name : Text) : Text := variableStart ++ name.map Char.toUpper

/-- A text without the blanks at its ends. -/
def trimBlanks (t : Text) : Text :=
  ((t.dropWhile Unicode.isWhitespace).reverse.dropWhile Unicode.isWhitespace).reverse

/-- The truth value that a text writes, in either case. -/
def flag? (t : Text) : Option Bool :=
  let word := Text.asciiLower (trimBlanks t)
  if ["1".toList, "true".toList, "yes".toList, "on".toList].contains word then some true
  else if ["0".toList, "false".toList, "no".toList, "off".toList].contains word then some false
  else none

/-- The whole number of 64 bits that a text writes. -/
def size? (t : Text) : Option Nat :=
  match Value.readInt none (Value.countOfBits 64 - 1) (trimBlanks t) with
  | .ok n => some n.toNat
  | .error _ => none

/-- A setting overridden by the text of its variable. -/
def setFrom? (s : Settings) (raw : Text) : Setting → Option Settings
  | .switch which => (flag? raw).map (s.setSwitch · which)
  | .limit which => (size? raw).map (s.setLimit · which)

/-- A setting overridden by its variable, if that is set. -/
def overrideOne (lookup : Text → Option Text) (s : Settings) (setting : Setting) :
    Except SettingsError Settings :=
  let key := variableName setting.name
  match lookup key with
  | none => .ok s
  | some raw =>
    match s.setFrom? raw setting with
    | some s => .ok s
    | none => .error (.badVariable key raw)

/-- Settings overridden by the variables that a lookup finds. -/
def withOverrides (s : Settings) (lookup : Text → Option Text) : Except SettingsError Settings := do
  let s ← Setting.all.foldlM (overrideOne lookup) s
  s.validate
  .ok s

end Signpost.Settings
