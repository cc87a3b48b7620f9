import Signpost.Dispatch

/-!
# Compiling once

What compiling the template of a route gives, a pattern or an error, is kept from the first time that it is
asked for: at registration, if the settings of the route say so, and otherwise when a path is first tried on
it.  Routes are added at the end of a row and are never moved, so a route is told by its place, and what was
compiled is kept by place (`Cells`).

A `CachedRouter` is a router with its cells.  Lookups may fill cells, and so they give the router back with
their answer.
-/

namespace Signpost

/-- What compiling a template gives. -/
abbrev Compilation := Except RouteError Pattern

/-- The variables of a path.  A template that could not be compiled matches nothing. -/
def Compilation.captures? (outcome : Compilation) (path : Text) : Option Vars :=
  match outcome with
  | .ok p => p.captures? path
  | .error _ => none

/-- What was compiled so far, by the place of the route. -/
structure Cells where
  /-- The cells that are filled. -/
  filled : List (Place × Compilation) := []

namespace Cells

/-- What is kept for a place. -/
def get? (c : Cells) (place : Place) : Option Compilation := c.filled.lookup place

/-- What compiling the route at a place gives.  It is compiled only if nothing is kept for the place yet. -/
def ask (c : Cells) (place : Place) (route : Route) : Compilation × Cells :=
  match c.get? place with
  | some outcome => (outcome, c)
  | none =>
    let outcome := route.pattern
    (outcome, ⟨(place, outcome) :: c.filled⟩)

/-- The first node in preorder whose own template matches a path, and the variables of the match.  The first
route of the row is at position `i` under the place `above`. -/
def match? (path : Text) (above : Place) (i : Nat) : Forest → Cells → Option (Node × Vars) × Cells
  | .nil, c => (none, c)
  | .cons r cs rest, c =>
    let place := above ++ [i]
    let (outcome, c) := c.ask place r
    match Compilation.captures? outcome path with
    | some vars => (some (⟨r, cs⟩, vars), c)
    | none =>
      match match? path place 0 cs c with
      | (some found, c) => (some found, c)
      | (none, c) => match? path above (i + 1) rest c

end Cells

/-- A change of a router other than a registration. -/
inductive Change (ι : Type) where
  /-- Another policy on trailing slashes. -/
  | skipTrailingSlash (enabled : Bool)
  /-- Another receiver of failures. -/
  | onError (mark : ι)
  /-- Another observer before the hooks. -/
  | onPageChange (mark : ι)
  /-- Another observer after the handler. -/
  | afterPageChange (mark : ι)
  /-- A hook more. -/
  | hook (hook : Hook ι)

/-- The router after a change. -/
def Router.change {ι : Type} (r : Router ι) : Change ι → Router ι
  | .skipTrailingSlash enabled => r.skipTrailingSlash enabled
  | .onError mark => r.setOnError mark
  | .onPageChange mark => r.setOnPageChange mark
  | .afterPageChange mark => r.setAfterPageChange mark
  | .hook hook => r.addHook hook

/-- A router and what was compiled of its routes. -/
structure CachedRouter (ι : Type) where
  /-- The router. -/
  router : Router ι
  /-- What was compiled. -/
  cells : Cells := {}

namespace CachedRouter

variable {ι : Type}

/-- A router without routes, if its settings are valid. -/
def ofSettings (s : Settings) : Except SettingsError (CachedRouter ι) :=
  (Router.ofSettings s).map fun r => { router := r }

/-- The router after a change. -/
def change (c : CachedRouter ι) (change : Change ι) : CachedRouter ι :=
  { c with router := c.router.change change }

/-- A router that has a new route at a place.  The route is compiled if its settings say so. -/
def withNew (cells : Cells) (r : Router ι) (new : Place) : CachedRouter ι :=
  match r.nodeAt? new with
  | some node => if node.route.settings.compileOnRegister then ⟨r, (cells.ask new node.route).2⟩ else ⟨r, cells⟩
  | none => ⟨r, cells⟩

/-- Registers a route at a place.  This gives the place of the route or an error, and with either of them the
router as it is left; `none` if there is no such place. -/
def add (c : CachedRouter ι) (place : Place) (spec : Route.Spec) :
    Option (Except RouteError Place × CachedRouter ι) :=
  (c.router.add place spec).map fun
    | (.ok new, left) => (.ok new, withNew c.cells left new)
    | (.error e, left) => (.error e, ⟨left, c.cells⟩)

/-- The router after a registration that succeeds, or the error of one that fails. -/
def register (c : CachedRouter ι) (place : Place) (spec : Route.Spec) :
    Option (Except RouteError (CachedRouter ι)) :=
  (c.add place spec).map fun (result, left) => result.map fun _ => left

/-- The router as a registration leaves it, whether it succeeds or fails; without such a place nothing is done. -/
def attempt (c : CachedRouter ι) (place : Place) (spec : Route.Spec) : CachedRouter ι :=
  match c.add place spec with
  | some (_, left) => left
  | none => c

/-- Matches a path, less a trailing slash if the policy says so. -/
def matchPath (c : CachedRouter ι) (path : Text) : RouteMatch × CachedRouter ι :=
  let path := Template.trimSlash c.router.settings.skipTrailingSlash path
  let (found, cells) := Cells.match? path [] 0 c.router.routes c.cells
  (⟨found, path⟩, { c with cells := cells })

/-- The first match in the subtree of the node at a place, the node first. -/
def matchAt? (c : CachedRouter ι) (place : Place) (path : Text) : Option (Node × Vars) × CachedRouter ι :=
  match c.router.nodeAt? place with
  | some node =>
    let (found, cells) :=
      Cells.match? path place.dropLast (place.getLast?.getD 0) node.toForest c.cells
    (found, { c with cells := cells })
  | none => (none, c)

/-- What compiling the template of the route at a place gives. -/
def patternAt? (c : CachedRouter ι) (place : Place) : Option Compilation × CachedRouter ι :=
  match c.router.nodeAt? place with
  | some node =>
    let (outcome, cells) := c.cells.ask place node.route
    (some outcome, { c with cells := cells })
  | none => (none, c)

/-- Dispatches a target. -/
def tryDispatch (c : CachedRouter ι) (target : Text) : Traced ι (Except Failure Unit) × CachedRouter ι :=
  match Uri.ofTarget target with
  | .error f => ((.error f, []), c)
  | .ok uri =>
    let (m, c) := c.matchPath uri.decodedPath
    match m.found with
    | none => ((.error (.notFound ("no route found for path: ".toList ++ m.path)), []), c)
    | some (node, vars) => (c.router.run ⟨node, vars, uri⟩, c)

/-- Dispatches a target and reports its failure; says whether a handler ran. -/
def dispatch (c : CachedRouter ι) (target : Text) : Traced ι (Except Abort Bool) × CachedRouter ι :=
  let (result, c) := c.tryDispatch target
  (c.router.settle result, c)

end CachedRouter

end Signpost
