import Signpost.Target.Percent
import Signpost.Target.Uri
import Signpost.Failure

/-!
# Targets

The text given to dispatch is encoded where a URI cannot carry it, read as a URI, and the path of the URI
is decoded before it is matched.
-/

namespace Signpost

/-- The URI of a request target; a target that gives none is the caller's fault. -/
def Uri.ofTarget (target : Text) : Except Failure Uri :=
  (Uri.ofText (Percent.encode target)).mapError fun e =>
    ⟨.invalid, "invalid target ".toList ++ Text.quoted target ++ ": ".toList ++ e.message⟩

/-- The path of a URI with its escapes read. -/
def Uri.decodedPath (u : Uri) : Text := Percent.decodeText u.path

end Signpost
