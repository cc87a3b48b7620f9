import Signpost.Placeholder

/-!
# Templates

A template is a path in which segments may be placeholders; slashes part the segments.  This module
compiles templates to the text of a regular expression, lists their placeholders, joins and trims them,
and fills values in.

Two ways of cutting at slashes occur.  `Template.segments` cuts at each slash.  `Template.split` sets a
leading and a trailing slash apart and cuts what is between; the root has no segment there at all.  Both
put the same expression together, since a slash is an expression for itself.
-/

namespace Signpost

/-- A path in which segments may be placeholders. -/
abbrev Template := Text

namespace Template

/-- The texts between slashes. -/
def segments (t : Template) : List Text := t.splitOn '/'

/-- A template cut with its outer slashes set apart. -/
structure Parts where
  /-- Whether a slash is at the start. -/
  leading : Bool
  /-- The segments. -/
  inner : List Text
  /-- Whether a slash is at the end, besides the one at the start. -/
  trailing : Bool
deriving DecidableEq

/-- Cuts a template with its outer slashes set apart. -/
def split (t : Template) : Parts :=
  let (leading, rest) :=
    match Text.after? ['/'] t with
    | some rest => (true, rest)
    | none => (false, t)
  let (trailing, body) :=
    match Text.before? ['/'] rest with
    | some body => (true, body)
    | none => (false, rest)
  ⟨leading, if body.isEmpty then [] else body.splitOn '/', trailing⟩

/-- A backslash before each character that is not a literal in expressions. -/
def escape (literal : Text) : Text :=
  literal.flatMap fun c => if Regex.metaChars.contains c then ['\\', c] else [c]

/-- The expression of a segment: a group for a placeholder, otherwise the literal text. -/
def segmentRegex (segment : Text) : Text :=
  match Placeholder.ofSegment? segment with
  | some p => p.regex
  | none => escape segment

/-- The expression of a template. -/
def regex (t : Template) : Text :=
  let parts := split t
  (if parts.leading then ['/'] else []) ++ Text.join '/' (parts.inner.map segmentRegex) ++
    (if parts.trailing then ['/'] else [])

/-- The expression that matches a template from start to end. -/
def anchoredRegex (t : Template) : Text := "^(?:".toList ++ regex t ++ ")$".toList

/-- The placeholders, left to right. -/
def placeholders (t : Template) : List Placeholder := (segments t).filterMap Placeholder.ofSegment?

/-- The names of the placeholders, left to right. -/
def params (t : Template) : List Text := (placeholders t).map Placeholder.name

/-- A path without one slash at its end, if `enabled` and if the path is more than that slash. -/
def trimSlash (enabled : Bool) (path : Text) : Text :=
  if enabled && decide (1 < path.length) then (Text.before? ['/'] path).getD path else path

/-- A template and what follows it, with one slash between. -/
def join (parent : Template) (suffix : Text) : Template :=
  Text.trimEnd '/' parent ++ '/' :: Text.trimStart '/' suffix

/-- Segments with the placeholders replaced by values in order; `none` if there are too few values. -/
def fillSegments : List Text → List Text → Option (List Text)
  | [], _ => some []
  | seg :: segs, args =>
    match Placeholder.ofSegment? seg, args with
    | none, args => (fillSegments segs args).map (seg :: ·)
    | some _, arg :: args => (fillSegments segs args).map (arg :: ·)
    | some _, [] => none

/-- The path with the placeholders replaced by values in order; `none` if there are too few values. -/
def fill? (t : Template) (args : List Text) : Option Text :=
  (fillSegments (segments t) args).map (Text.join '/')

/-- Segments with the placeholders replaced by the values of their names, or the first name that has
none. -/
def fillSegmentsWith (value : Text → Option Text) : List Text → Except Text (List Text)
  | [] => .ok []
  | seg :: segs =>
    match Placeholder.ofSegment? seg with
    | none => (fillSegmentsWith value segs).map (seg :: ·)
    | some p =>
      match value p.name with
      | none => .error p.name
      | some v => (fillSegmentsWith value segs).map (v :: ·)

/-- The path with the placeholders replaced by the values of their names, or the first name that has
none. -/
def fillWith (t : Template) (value : Text → Option Text) : Except Text Text :=
  (fillSegmentsWith value (segments t)).map (Text.join '/')

end Template

end Signpost
