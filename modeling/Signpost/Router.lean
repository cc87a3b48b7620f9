import Signpost.Forest
import Signpost.Target

/-!
# Routers

A router owns the routes and everything that takes part in a dispatch: an observer before and one after the
handler, a row of hooks, and a receiver for failures.  What they do besides giving a verdict is their own
affair, so a router keeps of an observer or a receiver only a mark (of any type `ι`) that tells it from
others, and of a hook its mark and its verdict.

The policy on trailing slashes holds for the routes registered from then on and for matching; a route
registered before keeps the policy it was registered under.
-/

namespace Signpost

/-- What takes part in a dispatch is told: the route, the variables and the target. -/
structure Context where
  /-- The route that matched, with what lies under it. -/
  node : Node
  /-- The variables of the match. -/
  vars : Vars
  /-- The target. -/
  uri : Uri
deriving DecidableEq

/-- A check before the handler. -/
structure Hook (ι : Type) where
  /-- Its mark. -/
  mark : ι
  /-- The failure with which it ends a dispatch, if it ends it. -/
  verdict : Context → Option Failure

/-- A router. -/
structure Router (ι : Type) where
  /-- The routes. -/
  routes : Forest := .nil
  /-- The settings for routes to come. -/
  settings : Settings := {}
  /-- The receiver of failures. -/
  onError : Option ι := none
  /-- The hooks in the order of their installation. -/
  hooks : List (Hook ι) := []
  /-- The observer told of a match before the hooks. -/
  onPageChange : Option ι := none
  /-- The observer told of a match after the handler. -/
  afterPageChange : Option ι := none

/-- The outcome of matching a path. -/
structure RouteMatch where
  /-- The route that matched and its variables. -/
  found : Option (Node × Vars)
  /-- The path as it was tried. -/
  path : Text
deriving DecidableEq

/-- The variables of a match; a miss has none. -/
def RouteMatch.vars (m : RouteMatch) : Vars :=
  match m.found with
  | some (_, vars) => vars
  | none => .empty

namespace Router

variable {ι : Type}

/-- A router without routes, if its settings are valid. -/
def ofSettings (s : Settings) : Except SettingsError (Router ι) := do
  s.validate
  .ok { settings := s }

/-- Sets the policy on trailing slashes. -/
def skipTrailingSlash (r : Router ι) (enabled : Bool) : Router ι :=
  { r with settings := { r.settings with skipTrailingSlash := enabled } }

/-- Installs the receiver of failures, in place of an earlier one. -/
def setOnError (r : Router ι) (mark : ι) : Router ι := { r with onError := some mark }

/-- Installs the observer before the hooks, in place of an earlier one. -/
def setOnPageChange (r : Router ι) (mark : ι) : Router ι := { r with onPageChange := some mark }

/-- Installs the observer after the handler, in place of an earlier one. -/
def setAfterPageChange (r : Router ι) (mark : ι) : Router ι :=
  { r with afterPageChange := some mark }

/-- Installs a hook after those that are there. -/
def addHook (r : Router ι) (h : Hook ι) : Router ι := { r with hooks := r.hooks ++ [h] }

/-- The route that a specification describes, under a route or at the top level. -/
def describe (r : Router ι) (spec : Route.Spec) : Option Route → Route
  | none => .top r.settings spec
  | some parent => parent.child spec

/-- The route to be added to a row, or the first of its faults: that a route of the row has its name, that
the name cannot be used, that the template cannot be compiled. -/
def accept (r : Router ι) (spec : Route.Spec) (above : Option Route) (row : Forest) :
    Except RouteError Route :=
  let new := r.describe spec above
  if row.tops.any (·.route.qualifiedName == new.qualifiedName) then
    .error (.duplicateName new.qualifiedName)
  else new.check

/-- Adds a route at the end of a row, and gives its position.  A failure leaves the row as it stands by then. -/
def addTo (r : Router ι) (spec : Route.Spec) (above : Option Route) :
    ExceptT RouteError (StateM Forest) Nat := do
  let new ← r.accept spec above (← get)
  modify (·.append new)
  return (← get).tops.length - 1

/-- Registers a route at a place.  This gives the place of the route or an error, and with either of them the
router as it is left; `none` if there is no such place. -/
def add (r : Router ι) (place : Place) (spec : Route.Spec) : Option (Except RouteError Place × Router ι) :=
  (r.routes.within? (fun above => (r.addTo spec above).run) none place).map fun (result, f) =>
    (result.map fun i => place ++ [i], { r with routes := f })

/-- The router after a registration that succeeds, or the error of one that fails. -/
def register (r : Router ι) (place : Place) (spec : Route.Spec) :
    Option (Except RouteError (Router ι)) :=
  (r.add place spec).map fun (result, left) => result.map fun _ => left

/-- The router as a registration leaves it, whether it succeeds or fails; without such a place nothing is done. -/
def attempt (r : Router ι) (place : Place) (spec : Route.Spec) : Router ι :=
  match r.add place spec with
  | some (_, left) => left
  | none => r

/-- The node at a place. -/
def nodeAt? (r : Router ι) (place : Place) : Option Node := r.routes.at? place

/-- The place that a route registered next at a place will have. -/
def nextPlace (r : Router ι) (place : Place) : Place :=
  let row :=
    match place with
    | [] => some r.routes
    | _ :: _ => (r.nodeAt? place).map Node.children
  place ++ [((row.map fun f => f.tops.length).getD 0)]

/-- Matches a path, less a trailing slash if the policy says so. -/
def matchPath (r : Router ι) (path : Text) : RouteMatch :=
  let path := Template.trimSlash r.settings.skipTrailingSlash path
  ⟨r.routes.match? path, path⟩

/-- The node that has a qualified name. -/
def find? (r : Router ι) (name : Text) : Option Node := r.routes.find? name

/-- The path of the route that has a name, with values in order. -/
def reverse (r : Router ι) (name : Text) (args : List Text) : Except RouteError Text :=
  match r.find? name with
  | some node => node.route.url args
  | none => .error (.unknownRoute name)

/-- The path of the route that has a name, with values by name. -/
def reverseWith (r : Router ι) (name : Text) (vars : Vars) : Except RouteError Text :=
  match r.find? name with
  | some node => node.route.urlWith vars
  | none => .error (.unknownRoute name)

/-- The router in lines: two for what it does, then one for each route. -/
def display (r : Router ι) : Text :=
  "Error hook defined: ".toList ++ Text.ofBool r.onError.isSome ++
    "\nSkip trailing slash: ".toList ++ Text.ofBool r.settings.skipTrailingSlash ++
    '\n' :: r.routes.display 0

/-- The router in one line. -/
def debug (r : Router ι) : Text :=
  "Router \x7b routes: [".toList ++ r.routes.debug ++ "], settings: ".toList ++ r.settings.debug ++
    ", has_error_hook: ".toList ++ Text.ofBool r.onError.isSome ++ ", hooks: ".toList ++
    Text.ofNat r.hooks.length ++ " \x7d".toList

end Router

end Signpost
