import Signpost.RouteError

/-!
# Failures

A failure is what dispatch ends with when no handler ran: a status code and a message.  Codes follow the
status codes of HTTP.  A code that has a name of its own and the same number kept under `other` are
different codes.
-/

namespace Signpost

/-- A status code. -/
inductive Code where
  /-- The request is not valid: 400. -/
  | invalid
  /-- The caller is not known: 401. -/
  | noAuth
  /-- The caller may not do this: 403. -/
  | forbidden
  /-- There is nothing to be found: 404. -/
  | notFound
  /-- The method is not allowed: 405. -/
  | noMethod
  /-- The format is not acceptable: 406. -/
  | unacceptable
  /-- A proxy does not know the caller: 407. -/
  | proxyAuthRequired
  /-- The request took too long: 408. -/
  | requestTimeout
  /-- A teapot was asked for coffee: 418. -/
  | teapot
  /-- The program is at fault: 500. -/
  | internal
  /-- Not done yet: 501. -/
  | notImplemented
  /-- A gateway is at fault: 502. -/
  | badGateway
  /-- Nobody can serve at the moment: 503. -/
  | serviceUnavailable
  /-- Any number. -/
  | other (number : UInt16)
deriving DecidableEq

namespace Code

/-- The code of a number; numbers without a name become `other`. -/
def ofNumber (n : UInt16) : Code :=
  match n.toNat with
  | 400 => invalid
  | 401 => noAuth
  | 403 => forbidden
  | 404 => notFound
  | 405 => noMethod
  | 406 => unacceptable
  | 407 => proxyAuthRequired
  | 408 => requestTimeout
  | 418 => teapot
  | 500 => internal
  | 501 => notImplemented
  | 502 => badGateway
  | 503 => serviceUnavailable
  | _ => other n

/-- The number of a code. -/
def number : Code → UInt16
  | invalid => 400
  | noAuth => 401
  | forbidden => 403
  | notFound => 404
  | noMethod => 405
  | unacceptable => 406
  | proxyAuthRequired => 407
  | requestTimeout => 408
  | teapot => 418
  | internal => 500
  | notImplemented => 501
  | badGateway => 502
  | serviceUnavailable => 503
  | other n => n

/-- The name of a code. -/
def name : Code → Text
  | invalid => "Invalid".toList
  | noAuth => "NoAuth".toList
  | forbidden => "Forbidden".toList
  | notFound => "NotFound".toList
  | noMethod => "NoMethod".toList
  | unacceptable => "Unacceptable".toList
  | proxyAuthRequired => "ProxyAuthRequired".toList
  | requestTimeout => "RequestTimeout".toList
  | teapot => "Teapot".toList
  | internal => "Internal".toList
  | notImplemented => "NotImplemented".toList
  | badGateway => "BadGateway".toList
  | serviceUnavailable => "ServiceUnavailable".toList
  | other n => "Other(".toList ++ Text.ofNat n.toNat ++ [')']

/-- The message of a failure that was given none. -/
def defaultMessage : Code → Text
  | invalid => "Invalid request".toList
  | noAuth => "Not authorized".toList
  | forbidden => "Forbidden".toList
  | notFound => "Not found".toList
  | noMethod => "Method not allowed".toList
  | unacceptable => "Unacceptable request format".toList
  | proxyAuthRequired => "Proxy authentication required".toList
  | requestTimeout => "Request timeout".toList
  | teapot => "I'm a teapot".toList
  | internal => "Internal server error".toList
  | notImplemented => "Not yet implemented".toList
  | badGateway => "Bad gateway".toList
  | serviceUnavailable => "Service unavailable".toList
  | other _ => "Unknown error has occurred.".toList

/-- The number as text. -/
def display (c : Code) : Text := Text.ofNat c.number.toNat

theorem ofNumber_number_of_ne_other {c : Code} (h : ∀ n, c ≠ other n) : ofNumber c.number = c := by
  cases c <;> first | rfl | exact absurd rfl (h _)

end Code

/-- A failure of dispatch. -/
structure Failure where
  /-- Its code. -/
  code : Code
  /-- Its message. -/
  message : Text
deriving DecidableEq

namespace Failure

/-- The failure with the message of its code. -/
def ofCode (code : Code) : Failure := ⟨code, code.defaultMessage⟩

/-- A failure to find something. -/
def notFound (message : Text) : Failure := ⟨.notFound, message⟩

/-- Whether the failure has a code. -/
def isCode (f : Failure) (code : Code) : Bool := f.code == code

/-- The failure as text. -/
def display (f : Failure) : Text :=
  "Error code ".toList ++ f.code.display ++ ": ".toList ++ f.message

/-- The failure that an error of a route leads to: an unknown name is not found, a lack of values is the
caller's fault, and everything else is a fault of the program. -/
def ofRouteError (e : RouteError) : Failure :=
  let code : Code :=
    match e with
    | .unknownRoute _ => .notFound
    | .insufficientArguments _ _ _ | .missingParameter _ _ => .invalid
    | _ => .internal
  ⟨code, e.message⟩

end Failure

end Signpost
