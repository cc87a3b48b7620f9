import Signpost.Text.Quoted

/-!
# Settings

What a router is told when it is made: a policy on trailing slashes, when patterns are compiled, and three
limits, none of which may be zero.  A route keeps the settings under which it was registered.
-/

namespace Signpost

/-- The settings of a router. -/
structure Settings where
  /-- Whether one slash at the end of templates and paths is dropped. -/
  skipTrailingSlash : Bool := false
  /-- Whether a route is refused at registration if its pattern cannot be compiled.  Otherwise such a route
  is kept and never matches. -/
  compileOnRegister : Bool := true
  /-- The most bytes a template may have. -/
  maxPatternLength : Nat := 1024
  /-- The most segments a template may have. -/
  maxPathSegments : Nat := 32
  /-- The most bytes a compiled expression may take. -/
  regexSizeLimit : Nat := 1048576
deriving DecidableEq

/-- A limit that settings hold. -/
inductive Limit where
  /-- The limit on the bytes of a template. -/
  | patternLength
  /-- The limit on the segments of a template. -/
  | pathSegments
  /-- The limit on the bytes of a compiled expression. -/
  | regexSize
deriving DecidableEq

/-- A setting that can be true or false. -/
inductive Switch where
  /-- The policy on trailing slashes. -/
  | skipTrailingSlash
  /-- Whether templates are compiled at registration. -/
  | compileOnRegister
deriving DecidableEq

/-- The name of a limit in documents and messages. -/
def Limit.name : Limit → Text
  | patternLength => "max_pattern_length".toList
  | pathSegments => "max_path_segments".toList
  | regexSize => "regex_size_limit".toList

/-- The name of a switch in documents and messages. -/
def Switch.name : Switch → Text
  | skipTrailingSlash => "skip_trailing_slash".toList
  | compileOnRegister => "compile_on_register".toList

/-- A setting. -/
inductive Setting where
  /-- One that is true or false. -/
  | switch (which : Switch)
  /-- One that is a number. -/
  | limit (which : Limit)
deriving DecidableEq

namespace Setting

/-- All settings, in the order in which messages list them. -/
def all : List Setting :=
  [switch .skipTrailingSlash, switch .compileOnRegister, limit .patternLength, limit .pathSegments,
    limit .regexSize]

/-- The name of a setting. -/
def name : Setting → Text
  | switch s => s.name
  | limit l => l.name

/-- The setting that has a name. -/
def ofName? (t : Text) : Option Setting := all.find? (·.name == t)

/-- What a setting expects, in the words of a message. -/
def expected : Setting → Text
  | switch _ => "a boolean".toList
  | limit _ => "usize".toList

end Setting

/-- What is wrong with an entry of a document that should be a setting; `found` describes its value. -/
inductive EntryFault where
  /-- No setting has the key. -/
  | unknownKey (key : Text)
  /-- The value is of another type. -/
  | wrongType (setting : Setting) (found : Text)
  /-- The value is of the right type and out of range. -/
  | outOfRange (setting : Setting) (found : Text)
deriving DecidableEq

/-- The wording. -/
def EntryFault.message : EntryFault → Text
  | unknownKey key =>
    "unknown field `".toList ++ key ++ "`, expected one of ".toList ++
      ", ".toList.intercalate (Setting.all.map fun s => '`' :: s.name ++ ['`']) ++ ['\n']
  | wrongType s found => unfit "type".toList s found
  | outOfRange s found => unfit "value".toList s found
where
  /-- The wording for a value that does not fit. -/
  unfit (what : Text) (s : Setting) (found : Text) : Text :=
    "invalid ".toList ++ what ++ ": ".toList ++ found ++ ", expected ".toList ++ s.expected ++
      "\nin `".toList ++ s.name ++ "`\n".toList

/-- Why settings are refused. -/
inductive SettingsError where
  /-- The document cannot be read; the kind says why. -/
  | unreadable (kind : Text)
  /-- The document is not well formed. -/
  | badDocument
  /-- A key in the document has too many parts. -/
  | longKey
  /-- The document is well formed but does not describe settings. -/
  | badEntry (fault : EntryFault)
  /-- A variable of the environment holds a text of the wrong form. -/
  | badVariable (key value : Text)
  /-- The section for the router is a value of some type, not a table. -/
  | notTable (type : Text)
  /-- A limit is zero. -/
  | zeroLimit (limit : Limit)
deriving DecidableEq

/-- The wording. -/
def SettingsError.message : SettingsError → Text
  | unreadable kind => "IO error: ".toList ++ kind
  | badDocument => "TOML parse error".toList
  | longKey => "TOML parse error: recursion limit\n".toList
  | badEntry fault => "TOML parse error: ".toList ++ fault.message
  | badVariable key value =>
    "invalid value for environment variable ".toList ++ key ++ ": ".toList ++ Text.quoted value
  | notTable type => "invalid settings: `router` must be a table, found ".toList ++ type
  | zeroLimit limit =>
    "invalid settings: ".toList ++ limit.name ++ " must be greater than zero".toList

namespace Settings

/-- The value of a limit. -/
def limit (s : Settings) : Limit → Nat
  | .patternLength => s.maxPatternLength
  | .pathSegments => s.maxPathSegments
  | .regexSize => s.regexSizeLimit

/-- A limit replaced. -/
def setLimit (s : Settings) (n : Nat) : Limit → Settings
  | .patternLength => { s with maxPatternLength := n }
  | .pathSegments => { s with maxPathSegments := n }
  | .regexSize => { s with regexSizeLimit := n }

/-- The value of a switch. -/
def switch (s : Settings) : Switch → Bool
  | .skipTrailingSlash => s.skipTrailingSlash
  | .compileOnRegister => s.compileOnRegister

/-- A switch replaced. -/
def setSwitch (s : Settings) (on : Bool) : Switch → Settings
  | .skipTrailingSlash => { s with skipTrailingSlash := on }
  | .compileOnRegister => { s with compileOnRegister := on }

/-- Refuses the first limit that is zero. -/
def validate (s : Settings) : Except SettingsError Unit :=
  match [Limit.patternLength, .pathSegments, .regexSize].find? (s.limit · == 0) with
  | some l => .error (.zeroLimit l)
  | none => .ok ()

/-- Settings in one line. -/
def debug (s : Settings) : Text :=
  "RouterSettings \x7b skip_trailing_slash: ".toList ++ Text.ofBool s.skipTrailingSlash ++
    ", compile_on_register: ".toList ++ Text.ofBool s.compileOnRegister ++
    ", max_pattern_length: ".toList ++ Text.ofNat s.maxPatternLength ++
    ", max_path_segments: ".toList ++ Text.ofNat s.maxPathSegments ++
    ", regex_size_limit: ".toList ++ Text.ofNat s.regexSizeLimit ++ " \x7d".toList

end Settings

end Signpost
