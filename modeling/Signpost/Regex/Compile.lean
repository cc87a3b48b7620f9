import Signpost.Regex.Read
import Signpost.Regex.Search
import Signpost.Regex.Size

/-!
# Compiled expressions

Compiling a text first reads it and then holds the sizes of its machines against a limit, so a text that is
not an expression is refused as such whatever the limit.
-/

namespace Signpost.Regex

/-- Why a text is not compiled. -/
inductive Fault where
  /-- It is not an expression. -/
  | malformed
  /-- Its machines are larger than allowed. -/
  | tooLarge
deriving DecidableEq

/-- A compiled expression. -/
structure Compiled where
  /-- The text it was read from. -/
  source : Text
  /-- The program to search with. -/
  prog : Prog

/-- Whether the machines of an expression are as small as demanded. -/
def Expr.fits (limit : Nat) (e : Expr) : Bool :=
  e.machineBytes false ≤ limit && e.machineBytes true ≤ limit

/-- Compiles a text under a limit on the sizes of its machines. -/
def compile (limit : Nat) (source : Text) : Except Fault Compiled :=
  match Expr.ofText? source with
  | none => .error .malformed
  | some e => if e.fits limit then .ok ⟨source, (Prog.ofExpr e 0).1⟩ else .error .tooLarge

namespace Compiled

/-- What the leftmost preferred match in a text captures under names, if there is a match.  Of a name that
was captured more than once the latest comes first. -/
def captures? (r : Compiled) (t : Text) : Option (List (Text × Text)) :=
  (r.prog.search? t).map fun caps => caps.map fun (name, span) => (name, span.text)

/-- Whether there is a match in a text. -/
def isMatch (r : Compiled) (t : Text) : Bool := (r.prog.search? t).isSome

end Compiled

end Signpost.Regex
