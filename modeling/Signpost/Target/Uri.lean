import Signpost.Text

/-!
# URIs

A request target is a path with an optional query, a whole URI with scheme and authority, or an authority
alone.  `Uri.ofText` reads any of them, and `Uri.toText` writes them.  A fragment is dropped, whatever is in it.

What can be wrong is the length, the shape, a character in a part that cannot hold it, and the use of brackets,
colons, `@` and `%` in an authority.  Blanks and control characters stand in no part.  Beyond ASCII every
character can stand in a path and in a query, and none in an authority.
-/

namespace Signpost

/-- A request target in parts. -/
structure Uri where
  /-- The scheme, if there is one. -/
  scheme : Option Text := none
  /-- The authority, if there is one. -/
  authority : Option Text := none
  /-- The path. -/
  path : Text
  /-- The query, if there is one, perhaps empty. -/
  query : Option Text := none
deriving DecidableEq

/-- Why a text is not a URI. -/
inductive UriError where
  /-- It is too long. -/
  | tooLong
  /-- It, or what follows its scheme, is empty. -/
  | empty
  /-- A character is out of place. -/
  | invalidChar
  /-- The scheme is too long. -/
  | schemeTooLong
  /-- The authority is malformed. -/
  | invalidAuthority
  /-- The parts do not make a URI. -/
  | invalidFormat
deriving DecidableEq

/-- The wording. -/
def UriError.message : UriError → Text
  | tooLong => "uri too long".toList
  | empty => "empty string".toList
  | invalidChar => "invalid uri character".toList
  | schemeTooLong => "scheme too long".toList
  | invalidAuthority => "invalid authority".toList
  | invalidFormat => "invalid format".toList

namespace Uri

/-- The most bytes a URI may have. -/
def maxLength : Nat := 65534

/-- The most characters a scheme may have. -/
def maxSchemeLength : Nat := 64

/-! ## Characters -/

/-- Whether a character may stand in a scheme. -/
def isSchemeChar (c : Char) : Bool :=
  c.isAlphanum || c == '+' || c == '-' || c == '.' || c == '~'

/-- Whether a character is neither a blank nor a control character. -/
def isVisible (c : Char) : Bool := c.toNat > 32 && c.toNat != 127

/-- Whether a character may stand in an authority.  Brackets, colons, `@` and `%` are looked at besides. -/
def isAuthorityChar (c : Char) : Bool :=
  isVisible c && c.toNat < 128 && !"\"<>\\^\x60\x7b|\x7d".toList.contains c

/-- Whether a character may stand in a path. -/
def isPathChar (c : Char) : Bool := isVisible c && !"<>\x60".toList.contains c

/-- Whether a character may stand in a query. -/
def isQueryChar (c : Char) : Bool := isVisible c && !"\"<>".toList.contains c

/-! ## Paths and queries -/

/-- The path and the query of a text, its fragment dropped. -/
def splitQuery (t : Text) : Text × Option Text :=
  let t := t.takeWhile (· != '#')
  match Text.cut? '?' t with
  | some (path, query) => (path, some query)
  | none => (t, none)

/-- Reads a path and a query. -/
def readPath (t : Text) : Except UriError (Text × Option Text) :=
  let (path, query) := splitQuery t
  if path.all isPathChar && (query.getD []).all isQueryChar then .ok (path, query)
  else .error .invalidChar

/-! ## Schemes -/

/-- A scheme and what follows the `://` after it.  The well-known schemes are read in either case and kept
in lower case; every other scheme is kept as it is. -/
def splitScheme (t : Text) : Except UriError (Option Text × Text) :=
  if Text.asciiLower (t.take 7) = "http://".toList then .ok (some "http".toList, t.drop 7)
  else if Text.asciiLower (t.take 8) = "https://".toList then .ok (some "https".toList, t.drop 8)
  else if t.length ≤ 3 then .ok (none, t)
  else
    match t.dropWhile isSchemeChar with
    | ':' :: '/' :: '/' :: rest =>
      let scheme := t.takeWhile isSchemeChar
      if scheme.length > maxSchemeLength then .error .schemeTooLong else .ok (some scheme, rest)
    | _ => .ok (none, t)

/-! ## Authorities -/

/-- What was met in an authority. -/
structure Scan where
  /-- Colons since the last `@` or `]`. -/
  colons : Nat := 0
  /-- Whether a `[` was met. -/
  opened : Bool := false
  /-- Whether a `]` was met. -/
  closed : Bool := false
  /-- Whether a `%` was met since the last `@` or `]`. -/
  percent : Bool := false
  /-- Whether the last character was an `@`. -/
  afterAt : Bool := false

/-- The most colons met without an `@` or a `]` between: eight, as an address in brackets and a number after it
have together. -/
def maxColons : Nat := 8

/-- One character of an authority. -/
def Scan.step (s : Scan) (c : Char) : Except UriError Scan :=
  match c with
  | ':' =>
    if s.colons ≥ maxColons then .error .invalidAuthority
    else .ok { s with colons := s.colons + 1, afterAt := false }
  | '[' =>
    if s.percent || s.opened then .error .invalidAuthority
    else .ok { s with opened := true, afterAt := false }
  | ']' =>
    if !s.opened || s.closed then .error .invalidAuthority
    else .ok { s with closed := true, colons := 0, percent := false, afterAt := false }
  | '@' => .ok { s with colons := 0, percent := false, afterAt := true }
  | '%' => .ok { s with percent := true, afterAt := false }
  | c => if isAuthorityChar c then .ok { s with afterAt := false } else .error .invalidChar

/-- Whether an authority may end here. -/
def Scan.complete (s : Scan) : Bool :=
  s.opened == s.closed && decide (s.colons ≤ 1) && !s.afterAt && !s.percent

/-- Refuses a text that cannot be an authority. -/
def checkAuthority (t : Text) : Except UriError Unit := do
  let s ← t.foldlM Scan.step ({} : Scan)
  if s.complete then .ok () else .error .invalidAuthority

/-- Whether a character ends an authority. -/
def endsAuthority (c : Char) : Bool := c == '/' || c == '?' || c == '#'

/-! ## Whole URIs -/

/-- A URI that does not start with a slash. -/
def ofFull (t : Text) : Except UriError Uri := do
  let (scheme, rest) ← splitScheme t
  if rest.isEmpty then .error .empty
  else
    let authority := rest.takeWhile (!endsAuthority ·)
    let after := rest.dropWhile (!endsAuthority ·)
    checkAuthority authority
    match scheme with
    | none =>
      if after.isEmpty then .ok { authority := some authority, path := [] }
      else .error (if t.length = 1 then .invalidChar else .invalidFormat)
    | some _ =>
      if authority.isEmpty then .error .invalidFormat
      else
        let (path, query) ← readPath after
        .ok
          { scheme := scheme
            authority := some authority
            path := if path.isEmpty then ['/'] else path
            query := query }

/-- Reads a URI. -/
def ofText (t : Text) : Except UriError Uri :=
  if Text.bytes t > maxLength then .error .tooLong
  else
    match t with
    | [] => .error .empty
    | '/' :: _ => (readPath t).map fun (path, query) => { path := path, query := query }
    | ['*'] => .ok { path := ['*'] }
    | t => ofFull t

/-- Writes a URI. -/
def toText (u : Uri) : Text :=
  (match u.scheme with
    | some scheme => scheme ++ "://".toList
    | none => []) ++
    u.authority.getD [] ++ u.path ++
    (match u.query with
      | some query => '?' :: query
      | none => [])

end Uri

end Signpost
