import Signpost.Regex.Bracket

/-!
# Tokens

The text of an expression is a row of tokens: literals, classes, conditions, repetitions, the opening and
closing of groups, bars and changes of flags.  `Token.next?` reads one token off a text that is not empty
and gives the rest, which is shorter; `none` says that the text is not an expression.  What a token means
may depend on flags, but where it ends depends on one flag only, `extended`, which lets blanks and comments
stand between and inside tokens (`skip`).

Brackets are read by one loop over the items of a class.  Its fuel is one more than the number of
characters left, and every turn takes a character, so it is never used up.
-/

namespace Signpost.Regex

/-- A piece of the text of an expression. -/
inductive Token where
  /-- A character for itself; `byte` says that it was written as a byte of two digits. -/
  | char (c : Char) (byte : Bool)
  /-- A dot. -/
  | dot
  /-- A circumflex. -/
  | caret
  /-- A dollar sign. -/
  | dollar
  /-- An end of the text, `\A` or `\z`. -/
  | textEdge (a : Anchor)
  /-- A condition on words. -/
  | wordSide (side : WordSide)
  /-- A class. -/
  | set (b : Bracket)
  /-- A repetition of what is before; `plain` says that no `?` follows. -/
  | rep (min : Nat) (max : Option Nat) (plain : Bool)
  /-- The start of a group that captures, perhaps under a name. -/
  | openGroup (name : Option Text)
  /-- The start of a group with flags of its own. -/
  | openFlags (changes : List (Flag × Bool))
  /-- The end of a group. -/
  | closeGroup
  /-- A bar between alternatives. -/
  | bar
  /-- A change of flags for the rest of the group. -/
  | setFlags (changes : List (Flag × Bool))

/-- The text from the line after a comment on. -/
def afterComment : Text → Text
  | [] => []
  | c :: rest => if c == '\n' then rest else afterComment rest

/-- The text without the blanks and comments it starts with. -/
def skipBlank : Nat → Text → Text
  | fuel + 1, c :: rest =>
    if Unicode.isWhitespace c then skipBlank fuel rest
    else if c == '#' then skipBlank fuel (afterComment rest)
    else c :: rest
  | _, t => t

/-- Skips blanks and comments if the flag `extended` is on. -/
def skip (extended : Bool) (t : Text) : Text := if extended then skipBlank t.length t else t

/-- The characters that stand for themselves only after a backslash. -/
def metaChars : List Char := "\\.+*?()|[]{}^$#&-~".toList

/-- Whether a backslash before the character is allowed and changes nothing: ASCII, but no letter, no
digit and no angle bracket. -/
def escapable (c : Char) : Bool :=
  c.toNat < 128 && !c.isAlphanum && c != '<' && c != '>'

/-- The character with a code point given by hexadecimal digits. -/
def charOfHex? (ds : List Nat) : Option Char :=
  let n := Digits.value 16 ds
  if n.isValidChar then some (Char.ofNat n) else none

/-! ## Escapes -/

/-- A given number of hexadecimal digits. -/
def hexFixed? (x : Bool) : Nat → Text → Option (List Nat × Text)
  | 0, t => some ([], t)
  | n + 1, c :: rest => do
    let d ← hexDigit? c
    let (ds, rest) ← hexFixed? x n (skip x rest)
    some (d :: ds, rest)
  | _ + 1, [] => none

/-- Hexadecimal digits up to a closing brace. -/
def hexBraced? (x : Bool) : Nat → Text → Option (List Nat × Text)
  | fuel + 1, c :: rest =>
    if c == '}' then some ([], skip x rest)
    else do
      let d ← hexDigit? c
      let (ds, rest) ← hexBraced? x fuel (skip x rest)
      some (d :: ds, rest)
  | _, _ => none

/-- The character after `\x`, `\u` or `\U`, which take two, four or eight digits, or any number of them
in braces. -/
def hexEscape? (x : Bool) (kind : Char) (t : Text) : Option (Token × Text) :=
  match skip x t with
  | '{' :: rest => do
    let (ds, rest) ← hexBraced? x (rest.length + 1) (skip x rest)
    if ds.isEmpty then none else
      let c ← charOfHex? ds
      some (.char c false, rest)
  | t => do
    let count := if kind == 'x' then 2 else if kind == 'u' then 4 else 8
    let (ds, rest) ← hexFixed? x count t
    let c ← charOfHex? ds
    some (.char c (kind == 'x'), rest)

/-- The text up to a closing brace. -/
def bracedName? (x : Bool) : Nat → Text → Option (Text × Text)
  | fuel + 1, c :: rest =>
    if c == '}' then some ([], rest)
    else (bracedName? x fuel (skip x rest)).map fun (name, rest) => (c :: name, rest)
  | _, _ => none

/-- The text before and after the first `!=`. -/
def cutNotEqual? : Text → Option (Text × Text)
  | '!' :: '=' :: rest => some ([], rest)
  | c :: rest => (cutNotEqual? rest).map fun (a, b) => (c :: a, b)
  | [] => none

/-- The class after `\p`, or after `\P` if `negated`: a letter, or a query in braces.  A property and its
value are parted by `:`, by `=`, or by `!=`, which asks for all other characters. -/
def propertyClass? (x negated : Bool) (t : Text) : Option (Token × Text) := do
  let answer (q : Unicode.Query) (negated : Bool) : Option Token :=
    q.resolve?.map fun s => .set (.property s negated)
  match skip x t with
  | [] => none
  | '{' :: rest =>
    let (name, rest) ← bracedName? x (rest.length + 1) (skip x rest)
    let tok ←
      match cutNotEqual? name, Text.cut? ':' name, Text.cut? '=' name with
      | some (p, v), _, _ => answer (.valued p v) (!negated)
      | none, some (p, v), _ => answer (.valued p v) negated
      | none, none, some (p, v) => answer (.valued p v) negated
      | none, none, none => answer (.named name) negated
    some (tok, rest)
  | c :: rest =>
    if c == '\\' then none else
      let tok ← answer (.named [c]) negated
      some (tok, skip x rest)

/-- Letters and hyphens, blanks skipped. -/
def sideName (x : Bool) : Nat → Text → Text × Text
  | fuel + 1, c :: rest =>
    if c.isAlpha || c == '-' then
      let (name, rest) := sideName x fuel (skip x rest)
      (c :: name, rest)
    else ([], c :: rest)
  | _, t => ([], t)

/-- The condition after `\b`: a name in braces chooses a side, but braces that do not start with a letter
or a hyphen are left to be read as a repetition. -/
def wordEdge? (x : Bool) (t : Text) : Option (Token × Text) :=
  match t with
  | '{' :: rest =>
    match skip x rest with
    | [] => none
    | c :: more =>
      if c.isAlpha || c == '-' then
        match sideName x (more.length + 1) (c :: more) with
        | (name, '}' :: rest) =>
          match String.ofList name with
          | "start" => some (.wordSide .start, rest)
          | "end" => some (.wordSide .stop, rest)
          | "start-half" => some (.wordSide .startHalf, rest)
          | "end-half" => some (.wordSide .stopHalf, rest)
          | _ => none
        | _ => none
      else some (.wordSide .edge, t)
  | t => some (.wordSide .edge, t)

/-- The token after a backslash.  There are no references to groups, so no digit may follow. -/
def escape? (x : Bool) : Text → Option (Token × Text)
  | [] => none
  | c :: rest =>
    if escapable c then some (.char c false, rest)
    else
      match c with
      | 'x' | 'u' | 'U' => hexEscape? x c rest
      | 'p' => propertyClass? x false rest
      | 'P' => propertyClass? x true rest
      | 'd' => some (.set (.shorthand .digit false), rest)
      | 'D' => some (.set (.shorthand .digit true), rest)
      | 's' => some (.set (.shorthand .space false), rest)
      | 'S' => some (.set (.shorthand .space true), rest)
      | 'w' => some (.set (.shorthand .word false), rest)
      | 'W' => some (.set (.shorthand .word true), rest)
      | 'a' => some (.char '\x07' false, rest)
      | 'f' => some (.char '\x0c' false, rest)
      | 't' => some (.char '\t' false, rest)
      | 'n' => some (.char '\n' false, rest)
      | 'r' => some (.char '\r' false, rest)
      | 'v' => some (.char '\x0b' false, rest)
      | 'A' => some (.textEdge .textStart, rest)
      | 'z' => some (.textEdge .textEnd, rest)
      | 'b' => wordEdge? x rest
      | 'B' => some (.wordSide .noEdge, rest)
      | '<' => some (.wordSide .start, rest)
      | '>' => some (.wordSide .stop, rest)
      | _ => none

/-! ## Classes in brackets -/

/-- One item of a class: a character or what a backslash writes. -/
def classAtom? (x : Bool) : Text → Option (Token × Text)
  | [] => none
  | '\\' :: rest => escape? x rest
  | c :: rest => some (.char c false, rest)

/-- A token as an item of a class; conditions are none. -/
def Token.item? : Token → Option Bracket
  | .char c _ => some (.char c)
  | .set b => some b
  | _ => none

/-- The character that decides whether a hyphen makes an interval, from the text after it.  With
`extended` it is the first that is no blank, even if a comment starts before it; where there is none, it is
the first. -/
def afterHyphen? (x : Bool) (t : Text) : Option Char :=
  if x then
    let visible :=
      match t.dropWhile Unicode.isWhitespace with
      | '#' :: rest => rest.dropWhile Unicode.isWhitespace
      | t => t
    visible.head?.or t.head?
  else t.head?

/-- An item or, with a hyphen after it, an interval.  A hyphen before a closing bracket or before another
hyphen is none that makes an interval. -/
def classItem? (x : Bool) (t : Text) : Option (Bracket × Text) := do
  let (first, rest) ← classAtom? x t
  match skip x rest with
  | [] => none
  | '-' :: rest =>
    if afterHyphen? x rest = some ']' ∨ afterHyphen? x rest = some '-' then
      let item ← first.item?
      some (item, '-' :: rest)
    else
      let (last, rest) ← classAtom? x (skip x rest)
      match first, last with
      | .char lo _, .char hi _ => if lo ≤ hi then some (.range lo hi, rest) else none
      | _, _ => none
  | rest =>
    let item ← first.item?
    some (item, rest)

/-- A named ASCII class after its first bracket and colon; a name that is none leaves it to be read as a
class in brackets. -/
def namedClass? (t : Text) : Option (Bracket × Text) :=
  match t with
  | ':' :: rest =>
    let (negated, rest) :=
      match rest with
      | '^' :: rest => (true, rest)
      | rest => (false, rest)
    match rest.dropWhile (· != ':') with
    | ':' :: ']' :: after =>
      (CharSet.named? (rest.takeWhile (· != ':'))).map fun s => (.ascii s negated, after)
    | _ => none
  | _ => none

/-- Hyphens at the start of a class, which are literal. -/
def leadingHyphens (x : Bool) : Nat → Bracket → Text → Bracket × Text
  | fuel + 1, items, '-' :: rest =>
    leadingHyphens x fuel (items.add (.char '-')) (skip x rest)
  | _, items, t => (items, t)

/-- What may stand after an opening bracket only: a circumflex, hyphens, or a closing bracket that is
literal.  Gives whether the class is negated, its first items and the rest. -/
def classOpen (x : Bool) (t : Text) : Bool × Bracket × Text :=
  let t := skip x t
  let (negated, t) :=
    match t with
    | '^' :: rest => (true, skip x rest)
    | t => (false, t)
  match leadingHyphens x t.length .empty t with
  | (.empty, ']' :: rest) => (negated, .char ']', skip x rest)
  | (items, t) => (negated, items, t)

/-- The items of a class up to its closing bracket.  `pending` is the class before the last operation and
that operation, `items` what was read since. -/
def classBody? (x : Bool) : Nat → Option (SetOp × Bracket) → Bracket → Text → Option (Bracket × Text)
  | 0, _, _, _ => none
  | fuel + 1, pending, items, t =>
    let done : Bracket :=
      match pending with
      | some (kind, before) => .op kind before items
      | none => items
    match skip x t with
    | [] => none
    | '[' :: rest =>
      match namedClass? rest with
      | some (item, rest) => classBody? x fuel pending (items.add item) rest
      | none => do
        let (negated, first, rest) := classOpen x rest
        let (body, rest) ← classBody? x fuel none first rest
        classBody? x fuel pending (items.add (.nested body negated)) rest
    | ']' :: rest => some (done, rest)
    | '&' :: '&' :: rest => classBody? x fuel (some (.inter, done)) .empty rest
    | '-' :: '-' :: rest => classBody? x fuel (some (.diff, done)) .empty rest
    | '~' :: '~' :: rest => classBody? x fuel (some (.symmDiff, done)) .empty rest
    | t => do
      let (item, rest) ← classItem? x t
      classBody? x fuel pending (items.add item) rest

/-- A class after its opening bracket. -/
def class? (x : Bool) (t : Text) : Option (Token × Text) := do
  let (negated, first, rest) := classOpen x t
  let (body, rest) ← classBody? x (t.length + 1) none first rest
  some (.set (.nested body negated), rest)

/-! ## Repetitions -/

/-- Whether a question mark is missing after a repetition, and the rest. -/
def plainMark : Text → Bool × Text
  | '?' :: rest => (false, rest)
  | t => (true, t)

/-- Decimal digits, blanks skipped. -/
def countDigits (x : Bool) : Nat → Text → List Nat × Text
  | fuel + 1, c :: rest =>
    match decimalDigit? c with
    | some d =>
      let (ds, rest) := countDigits x fuel (skip x rest)
      (d :: ds, rest)
    | none => ([], c :: rest)
  | _, t => ([], t)

/-- A count in braces: digits with blanks around them, below 2^32. -/
def count? (x : Bool) (t : Text) : Option (Nat × Text) :=
  let (ds, rest) := countDigits x t.length (t.dropWhile Unicode.isWhitespace)
  let n := Digits.value 10 ds
  if ds.isEmpty || n ≥ 0x100000000 then none
  else some (n, skip x (rest.dropWhile Unicode.isWhitespace))

/-- A repetition after its opening brace. -/
def counted? (x : Bool) (t : Text) : Option (Token × Text) := do
  let finish (min : Nat) (max : Option Nat) : Text → Option (Token × Text)
    | '}' :: rest =>
      let (plain, rest) := plainMark (skip x rest)
      if max.all (min ≤ ·) then some (.rep min max plain, rest) else none
    | _ => none
  let (min, rest) ← count? x (skip x t)
  match rest with
  | ',' :: rest =>
    match skip x rest with
    | '}' :: rest => finish min none ('}' :: rest)
    | rest =>
      let (max, rest) ← count? x rest
      finish min (some max) rest
  | rest => finish min (some min) rest

/-! ## Groups -/

/-- Whether a character may stand in the name of a group, at the start or after it. -/
def nameChar (atStart : Bool) (c : Char) : Bool :=
  if atStart then c == '_' || Unicode.isAlphabetic c
  else
    c == '_' || c == '.' || c == '[' || c == ']' || Unicode.isAlphabetic c || Unicode.isNumeric c

/-- A name up to the angle bracket that closes it. -/
def groupName? (atStart : Bool) : Text → Option (Text × Text)
  | [] => none
  | c :: rest =>
    if c == '>' then some ([], rest)
    else if nameChar atStart c then
      (groupName? false rest).map fun (name, rest) => (c :: name, rest)
    else none

/-- Letters of flags up to a colon or a closing parenthesis, which stays.  A hyphen switches those after
it off; no letter comes twice, nor does the hyphen, and a letter follows it. -/
def flagChanges? (on : Bool) (seen : List Flag) (afterHyphen : Bool) :
    Text → Option (List (Flag × Bool) × Text)
  | [] => none
  | c :: rest =>
    if c == ':' || c == ')' then if afterHyphen then none else some ([], c :: rest)
    else if c == '-' then if on then flagChanges? false seen true rest else none
    else do
      let flag ← Flag.ofChar? c
      if seen.contains flag then none else
        let (changes, rest) ← flagChanges? on (flag :: seen) false rest
        some ((flag, on) :: changes, rest)

/-- What an opening parenthesis begins.  There is no look-around. -/
def group? (x : Bool) (t : Text) : Option (Token × Text) :=
  let named (t : Text) : Option (Token × Text) := do
    let (name, rest) ← groupName? true t
    if name.isEmpty then none else some (.openGroup (some name), rest)
  match skip x t with
  | '?' :: '=' :: _ | '?' :: '!' :: _ | '?' :: '<' :: '=' :: _ | '?' :: '<' :: '!' :: _ => none
  | '?' :: 'P' :: '<' :: rest => named rest
  | '?' :: '<' :: rest => named rest
  | '?' :: rest =>
    match flagChanges? true [] false rest with
    | some (changes, ':' :: rest) => some (.openFlags changes, rest)
    | some (changes, ')' :: rest) =>
      if changes.isEmpty then none else some (.setFlags changes, rest)
    | _ => none
  | rest => some (.openGroup none, rest)

/-- The token that a text starts with, given by its first character and what follows, and the rest. -/
def Token.next? (x : Bool) (c : Char) (rest : Text) : Option (Token × Text) :=
  match c with
  | '(' => group? x rest
  | ')' => some (.closeGroup, rest)
  | '|' => some (.bar, rest)
  | '[' => class? x rest
  | '?' => let (plain, rest) := plainMark rest; some (.rep 0 (some 1) plain, rest)
  | '*' => let (plain, rest) := plainMark rest; some (.rep 0 none plain, rest)
  | '+' => let (plain, rest) := plainMark rest; some (.rep 1 none plain, rest)
  | '{' => counted? x rest
  | '\\' => escape? x rest
  | '.' => some (.dot, rest)
  | '^' => some (.caret, rest)
  | '$' => some (.dollar, rest)
  | c => some (.char c false, rest)

end Signpost.Regex
