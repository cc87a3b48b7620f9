import Signpost.Router

/-!
# Dispatch

A dispatch matches the decoded path of a target and then lets those that are installed take part: the
observer before, the hooks in order until one fails, the handler, and the observer after.  It is a function
from the router and the target to a result and to the *events*, the calls made on the way, in order.  A
target that does not parse, a path that no route matches, and a route without a handler end it before the
first call.

`Router.tryDispatch` gives the failure back.  `Router.dispatch` hands it to the receiver of failures, and
without a receiver the program is to be stopped with the text of the failure (`Abort`).
-/

namespace Signpost

/-- A call made during a dispatch. -/
inductive Event (ι : Type) where
  /-- The observer before the hooks. -/
  | pageChange (mark : ι) (ctx : Context)
  /-- A hook, and the failure it gave. -/
  | hook (mark : ι) (ctx : Context) (verdict : Option Failure)
  /-- The handler of the route. -/
  | handler (ctx : Context)
  /-- The observer after the handler. -/
  | afterPageChange (mark : ι) (ctx : Context)
  /-- The receiver of failures. -/
  | failure (mark : ι) (f : Failure)

/-- A result and the calls made on the way to it. -/
abbrev Traced (ι α : Type) := α × List (Event ι)

namespace Router

variable {ι : Type}

/-- The calls of hooks up to the first one that fails, and its failure. -/
def runHooks (ctx : Context) : List (Hook ι) → Traced ι (Option Failure)
  | [] => (none, [])
  | h :: rest =>
    match h.verdict ctx with
    | some f => (some f, [.hook h.mark ctx (some f)])
    | none =>
      let (failure, events) := runHooks ctx rest
      (failure, .hook h.mark ctx none :: events)

/-- The call of an observer, if it is installed. -/
def observe (event : ι → Context → Event ι) (observer : Option ι) (ctx : Context) : List (Event ι) :=
  match observer with
  | some mark => [event mark ctx]
  | none => []

/-- Runs the route of a match. -/
def run (r : Router ι) (ctx : Context) : Traced ι (Except Failure Unit) :=
  if !ctx.node.route.hasHandler then
    (.error ⟨.internal, "no callable for route: ".toList ++ ctx.node.route.qualifiedName⟩, [])
  else
    let before := observe .pageChange r.onPageChange ctx
    match runHooks ctx r.hooks with
    | (some f, hooks) => (.error f, before ++ hooks)
    | (none, hooks) =>
      (.ok (), before ++ hooks ++ .handler ctx :: observe .afterPageChange r.afterPageChange ctx)

/-- Dispatches a target. -/
def tryDispatch (r : Router ι) (target : Text) : Traced ι (Except Failure Unit) :=
  match Uri.ofTarget target with
  | .error f => (.error f, [])
  | .ok uri =>
    let m := r.matchPath uri.decodedPath
    match m.found with
    | none => (.error (.notFound ("no route found for path: ".toList ++ m.path)), [])
    | some (node, vars) => r.run ⟨node, vars, uri⟩

/-- Dispatches to the route that has a name; its target is rebuilt from the variables. -/
def tryDispatchNamed (r : Router ι) (name : Text) (vars : Vars) : Traced ι (Except Failure Unit) :=
  match r.find? name with
  | none => (.error (.notFound ("Route not found: ".toList ++ name)), [])
  | some node =>
    match node.route.urlWith vars with
    | .error e => (.error (.ofRouteError e), [])
    | .ok url =>
      match Uri.ofTarget url with
      | .error f => (.error f, [])
      | .ok uri => r.run ⟨node, vars, uri⟩

/-- Hands a failure to the receiver. -/
def report (r : Router ι) (f : Failure) : Traced ι (Except Abort Failure) :=
  match r.onError with
  | some mark => (.ok f, [.failure mark f])
  | none => (.error f.display, [])

/-- Reports the failure of a dispatch; otherwise a handler ran. -/
def settle (r : Router ι) (result : Traced ι (Except Failure Unit)) : Traced ι (Except Abort Bool) :=
  match result with
  | (.ok (), events) => (.ok true, events)
  | (.error f, events) =>
    let (outcome, reported) := r.report f
    (outcome.map fun _ => false, events ++ reported)

/-- Dispatches a target and reports its failure; says whether a handler ran. -/
def dispatch (r : Router ι) (target : Text) : Traced ι (Except Abort Bool) :=
  r.settle (r.tryDispatch target)

/-- Dispatches to a route by name and reports the failure; says whether a handler ran. -/
def dispatchNamed (r : Router ι) (name : Text) (vars : Vars) : Traced ι (Except Abort Bool) :=
  r.settle (r.tryDispatchNamed name vars)

/-- Reports a failure with a message. -/
def error (r : Router ι) (code : Code) (message : Text) : Traced ι (Except Abort Failure) :=
  r.report ⟨code, message⟩

/-- Reports a failure with the message of its code. -/
def throw (r : Router ι) (code : Code) : Traced ι (Except Abort Failure) := r.report (.ofCode code)

end Router

end Signpost
