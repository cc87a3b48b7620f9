import Signpost.Pattern

/-!
# Routes

A route has a name, a template and the settings under which it was registered.  Its qualified name joins
the names of the routes it lies under and its own with colons.  Names hold no colon, so a qualified name
tells the names it was joined from.

A route keeps its template and not a compiled pattern: what compiling gives depends on the template and the
settings alone.  When it is done, and what is kept of it, is in `Signpost.Cache`.
-/

namespace Signpost

/-- A route. -/
structure Route where
  /-- Its name. -/
  name : Text
  /-- The names from the top level down to it, joined with colons. -/
  qualifiedName : Text
  /-- Its template. -/
  path : Template
  /-- Whether it has a handler. -/
  hasHandler : Bool
  /-- The settings under which it was registered. -/
  settings : Settings
deriving DecidableEq

namespace Route

/-- What a route is registered with. -/
structure Spec where
  /-- Its name. -/
  name : Text
  /-- Its template, or at a deeper place what is added to the template above. -/
  path : Text
  /-- Whether it has a handler. -/
  hasHandler : Bool := true

/-- Refuses names that are empty or hold a colon. -/
def checkName (name : Text) : Except RouteError Unit :=
  if name.isEmpty then .error (.invalidName name .empty)
  else if name.contains ':' then .error (.invalidName name .colon)
  else .ok ()

/-- The compiled template. -/
def pattern (r : Route) : Except RouteError Pattern := Pattern.compile r.settings r.path

/-- The names of the placeholders, left to right. -/
def params (r : Route) : List Text := Template.params r.path

/-- Refuses a route whose name cannot be used or, if its settings ask for it, whose template cannot be
compiled. -/
def check (r : Route) : Except RouteError Route := do
  checkName r.name
  if r.settings.compileOnRegister then let _ ← r.pattern
  .ok r

/-- The route of the top level that a specification describes. -/
def top (s : Settings) (spec : Spec) : Route :=
  { name := spec.name
    qualifiedName := spec.name
    path := Template.trimSlash s.skipTrailingSlash spec.path
    hasHandler := spec.hasHandler
    settings := s }

/-- The route under another one that a specification describes.  It takes over the settings. -/
def child (parent : Route) (spec : Spec) : Route :=
  { name := spec.name
    qualifiedName := parent.qualifiedName ++ ':' :: spec.name
    path :=
      Template.trimSlash parent.settings.skipTrailingSlash (Template.join parent.path spec.path)
    hasHandler := spec.hasHandler
    settings := parent.settings }

/-- The variables of a path that matches the route itself.  A template that cannot be compiled matches
nothing. -/
def captures? (r : Route) (path : Text) : Option Vars :=
  match r.pattern with
  | .ok p => p.captures? path
  | .error _ => none

/-- The path with the placeholders replaced by values in order.  Values beyond the placeholders are not
used. -/
def url (r : Route) (args : List Text) : Except RouteError Text :=
  match Template.fill? r.path args with
  | some path => .ok path
  | none => .error (.insufficientArguments r.qualifiedName r.params.length args.length)

/-- The path with the placeholders replaced by the variables of their names. -/
def urlWith (r : Route) (vars : Vars) : Except RouteError Text :=
  (Template.fillWith r.path vars.get?).mapError (.missingParameter r.qualifiedName)

end Route

end Signpost
