import Signpost.Template
import Signpost.RouteError
import Signpost.Settings
import Signpost.Vars

/-!
# Patterns

A pattern is a template with its compiled expression.  A template is compiled if its length and its number
of segments are within the limits, checked in this order, and if its expression compiles.  A path matches
as a whole, and what is captured under the names of the placeholders becomes the variables of the match;
groups that the expression has besides are not asked for.
-/

namespace Signpost

/-- A compiled template. -/
structure Pattern where
  /-- The template. -/
  template : Template
  /-- Its expression. -/
  regex : Regex.Compiled

namespace Pattern

/-- Compiles a template under limits. -/
def compile (s : Settings) (template : Template) : Except RouteError Pattern :=
  let length := Text.bytes template
  let count := (Template.segments template).length
  if length > s.maxPatternLength then .error (.patternTooLong length s.maxPatternLength)
  else if count > s.maxPathSegments then .error (.tooManySegments count s.maxPathSegments)
  else
    match Regex.compile s.regexSizeLimit (Template.anchoredRegex template) with
    | .ok regex => .ok ⟨template, regex⟩
    | .error fault => .error (.invalidPattern template (.regex fault))

/-- The names of the placeholders, left to right. -/
def params (p : Pattern) : List Text := Template.params p.template

/-- Whether a path matches. -/
def isMatch (p : Pattern) (path : Text) : Bool := p.regex.isMatch path

/-- The variables of a list of captures: of each name the latest capture. -/
def bind (names : List Text) (captures : List (Text × Text)) : Vars :=
  names.foldl
    (fun v name =>
      match captures.lookup name with
      | some text => v.insert name text
      | none => v)
    .empty

/-- The variables of a path, if it matches. -/
def captures? (p : Pattern) (path : Text) : Option Vars :=
  (p.regex.captures? path).map (bind p.params)

/-- Whether two patterns have the same template. -/
def same (p q : Pattern) : Bool := p.template == q.template

end Pattern

end Signpost
