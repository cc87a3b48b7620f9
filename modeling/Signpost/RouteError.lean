import Signpost.Text.Quoted
import Signpost.Regex.Compile

/-!
# Errors of routes

What can be wrong with a route when it is registered or when its path is rebuilt.  Each cause is a
constructor, and the wording of all of them is in `RouteError.message`.
-/

namespace Signpost

/-- What is wrong with the name of a route. -/
inductive NameFault where
  /-- It is empty. -/
  | empty
  /-- It holds a colon, which joins names. -/
  | colon
deriving DecidableEq

/-- The wording. -/
def NameFault.message : NameFault → Text
  | empty => "name must not be empty".toList
  | colon => "name must not contain ':'".toList

/-- Why a template has no pattern: what was found when it was compiled, or a reason given in words. -/
inductive PatternFault where
  /-- The expression cannot be compiled. -/
  | regex (fault : Regex.Fault)
  /-- A reason in words. -/
  | other (reason : Text)
deriving DecidableEq

/-- The wording. -/
def PatternFault.message : PatternFault → Text
  | regex .malformed => "syntax error".toList
  | regex .tooLarge => "compiled expression exceeds the size limit".toList
  | other reason => reason

/-- What can be wrong with a route. -/
inductive RouteError where
  /-- Another route has the name. -/
  | duplicateName (name : Text)
  /-- The name cannot be used. -/
  | invalidName (name : Text) (fault : NameFault)
  /-- The template gives no pattern. -/
  | invalidPattern (template : Text) (fault : PatternFault)
  /-- The template has too many bytes. -/
  | patternTooLong (length max : Nat)
  /-- The template has too many segments. -/
  | tooManySegments (count max : Nat)
  /-- No route has the name. -/
  | unknownRoute (name : Text)
  /-- A path cannot be rebuilt from so few values. -/
  | insufficientArguments (route : Text) (expected given : Nat)
  /-- A path cannot be rebuilt without a value for a placeholder. -/
  | missingParameter (route param : Text)
deriving DecidableEq

/-- The wording. -/
def RouteError.message : RouteError → Text
  | duplicateName name => "route name already exists: ".toList ++ name
  | invalidName name fault =>
    "invalid route name ".toList ++ Text.quoted name ++ ": ".toList ++ fault.message
  | invalidPattern template fault =>
    "invalid pattern for template ".toList ++ Text.quoted template ++ ": ".toList ++ fault.message
  | patternTooLong length max =>
    "template length ".toList ++ Text.ofNat length ++ " exceeds maximum allowed length of ".toList ++
      Text.ofNat max ++ " bytes".toList
  | tooManySegments count max =>
    "template has ".toList ++ Text.ofNat count ++ " path segments, exceeding maximum of ".toList ++
      Text.ofNat max
  | unknownRoute name => "route not found: ".toList ++ name
  | insufficientArguments route expected given =>
    "not enough arguments for URL of route ".toList ++ route ++ ": expected ".toList ++
      Text.ofNat expected ++ ", got ".toList ++ Text.ofNat given
  | missingParameter route param =>
    "missing parameter ".toList ++ Text.quoted param ++ " for URL of route ".toList ++ route

/-- The text with which a program is stopped because it cannot go on. -/
abbrev Abort := Text

/-- For a program that cannot go on without a result: the wording of an error stops it. -/
def RouteError.orAbort {α : Type} (r : Except RouteError α) : Except Abort α := r.mapError message

end Signpost
