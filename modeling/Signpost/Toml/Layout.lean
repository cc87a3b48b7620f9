import Signpost.Text

/-!
# The layout of documents

A document is a row of lines: headers, and keys with values.  `Line.ofText?` finds them, and in them the
brackets, braces, commas, dots and equal signs that join words; a value in brackets or braces may take more
than one line of text.  Words are cut off and not read: a key or a value has here the text that is
written, quotes included, and a word that is missing is empty.  So the layout can be right where a word is
not, and `none` says that the layout is wrong, whatever the words are.

Readers that go on for an unknown number of turns have fuel.  Each turn takes at least one character, and
the fuel is more than the number of characters left, so it is never used up; a value has twice as much, for
each bracket takes two turns.
-/

namespace Signpost.Toml

/-- A value as written. -/
inductive Written where
  /-- A word, quoted or not. -/
  | word (t : Text)
  /-- Values in brackets. -/
  | array (elements : List Written)
  /-- Keys and values in braces; a key has parts. -/
  | braces (pairs : List (List Text × Written))

/-- A line as written. -/
inductive Line where
  /-- The header of a table. -/
  | table (key : List Text)
  /-- The header of an element of an array of tables. -/
  | element (key : List Text)
  /-- A key and a value. -/
  | pair (key : List Text) (v : Written)

/-- A reader: what was read and the rest. -/
abbrev Reader (α : Type) := Text → Option (α × Text)

/-- How deep brackets and braces may nest. -/
def nestLimit : Nat := 80

/-! ## Blanks, comments and line ends -/

/-- Whether a character is a blank within a line. -/
def isBlank (c : Char) : Bool := c == ' ' || c == '\t'

/-- The text without the blanks it starts with. -/
def skipBlanks (t : Text) : Text := t.dropWhile isBlank

/-- Whether a character may stand in comments and in texts: no control character but the tab. -/
def isPlain (c : Char) : Bool := c == '\t' || (32 ≤ c.toNat && c.toNat != 127)

/-- The text after a line end. -/
def lineEnd? : Text → Option Text
  | '\n' :: rest => some rest
  | '\r' :: '\n' :: rest => some rest
  | _ => none

/-- The text after the end of a line, at which only a comment is left; the text has an end too. -/
def finishLine? (t : Text) : Option Text :=
  let afterComment : Text :=
    match t with
    | '#' :: rest => rest.dropWhile isPlain
    | t => t
  if afterComment.isEmpty then some [] else lineEnd? afterComment

/-- The text without the blanks, comments and line ends it starts with; `comment` says that it starts in a
comment. -/
def skipSpace? (comment : Bool) : Text → Option Text
  | [] => some []
  | c :: rest =>
    if c = '\n' ∨ (c = '\r' ∧ rest.head? = some '\n') then skipSpace? false rest
    else if comment then if isPlain c then skipSpace? true rest else none
    else if isBlank c then skipSpace? false rest
    else if c = '#' then skipSpace? true rest
    else if c = '\r' then none
    else some (c :: rest)

/-! ## Words -/

/-- A word in single quotes, after the first one; it ends with its quote or with the line. -/
def literalWord : Text → Text × Text
  | [] => ([], [])
  | c :: rest =>
    if c = '\'' then ([c], rest)
    else if c = '\n' then ([], c :: rest)
    else
      let (word, rest) := literalWord rest
      (c :: word, rest)

/-- A word in double quotes, after the first one; it ends with a quote that is not escaped or with the
line. -/
def quotedWord (escaped : Bool) : Text → Text × Text
  | [] => ([], [])
  | c :: rest =>
    if c = '"' ∧ !escaped then ([c], rest)
    else if c = '\n' then ([], c :: rest)
    else
      let (word, rest) := quotedWord (c = '\\' ∧ !escaped) rest
      (c :: word, rest)

/-- How many of the quotes that a text starts with end a word over several lines: three do, and one or two
more before these belong to the word. -/
def closingQuotes (quote : Char) (t : Text) : Nat :=
  let count := min 5 (t.takeWhile (· == quote)).length
  if count < 3 then 0 else count

/-- A word over several lines, after its first quotes.  Only double quotes can be escaped. -/
def longWord (quote : Char) (escaped : Bool) : Text → Text × Text
  | [] => ([], [])
  | c :: rest =>
    let count := if escaped then 0 else closingQuotes quote (c :: rest)
    if count = 0 then
      let (word, rest) := longWord quote (quote = '"' ∧ c = '\\' ∧ !escaped) rest
      (c :: word, rest)
    else (List.replicate count quote, (c :: rest).drop count)

/-- A word in quotes of any kind. -/
def quoted? : Reader Text
  | '"' :: '"' :: '"' :: rest =>
    let (word, rest) := longWord '"' false rest
    some ('"' :: '"' :: '"' :: word, rest)
  | '\'' :: '\'' :: '\'' :: rest =>
    let (word, rest) := longWord '\'' false rest
    some ('\'' :: '\'' :: '\'' :: word, rest)
  | '"' :: rest =>
    let (word, rest) := quotedWord false rest
    some ('"' :: word, rest)
  | '\'' :: rest =>
    let (word, rest) := literalWord rest
    some ('\'' :: word, rest)
  | _ => none

/-- Whether a character may stand in a word without quotes. -/
def inWord (c : Char) : Bool := !".=,[]\x7b\x7d \t#\r\n".toList.contains c

/-! ## Keys -/

/-- The parts of a key, with dots between. -/
def keyParts : Nat → Text → List Text × Text
  | 0, t => ([], t)
  | fuel + 1, t =>
    let t := skipBlanks t
    let (part, rest) := (quoted? t).getD (t.takeWhile inWord, t.dropWhile inWord)
    match skipBlanks rest with
    | '.' :: rest =>
      let (parts, rest) := keyParts fuel rest
      (part :: parts, rest)
    | rest => ([part], rest)

/-! ## Values -/

/-- Whether a character may come next in a value without quotes; `fresh` says that a dot or a blank is before
it, after which there is no quote. -/
def inBareValue (fresh : Bool) (c : Char) : Bool :=
  c == '.' || (inWord c && !(fresh && (c == '"' || c == '\'')))

/-- A value without quotes, brackets or braces.  It may have dots and blanks in it. -/
def bareValue (fresh : Bool) : Text → Text × Text
  | [] => ([], [])
  | c :: rest =>
    let goesOn :=
      if isBlank c then (skipBlanks rest).head?.any (inBareValue true) else inBareValue fresh c
    if goesOn then
      let (word, rest) := bareValue (c = '.' ∨ isBlank c) rest
      (c :: word, rest)
    else ([], c :: rest)

mutual

/-- A value, with the number of brackets and braces that may still be opened. -/
def written? : Nat → Nat → Reader Written
  | 0, _, _ => none
  | fuel + 1, depth, t =>
    match t, depth with
    | '[' :: _, 0 | '\x7b' :: _, 0 => none
    | '[' :: rest, depth + 1 => do
      let (ws, rest) ← elements? fuel depth (← skipSpace? false rest)
      some (.array ws, rest)
    | '\x7b' :: rest, depth + 1 => do
      let (ps, rest) ← pairs? fuel depth (← skipSpace? false rest)
      some (.braces ps, rest)
    | t, _ =>
      match (quoted? t).getD (bareValue true t) with
      | ([], _) => none
      | (word, rest) => some (.word word, rest)

/-- The elements of an array up to its closing bracket; a comma may stand after the last one. -/
def elements? : Nat → Nat → Reader (List Written)
  | 0, _, _ => none
  | fuel + 1, depth, t =>
    match t with
    | ']' :: rest => some ([], rest)
    | t => do
      let (w, rest) ← written? fuel depth t
      match ← skipSpace? false rest with
      | ',' :: rest =>
        let (ws, rest) ← elements? fuel depth (← skipSpace? false rest)
        some (w :: ws, rest)
      | ']' :: rest => some ([w], rest)
      | _ => none

/-- The pairs of a table in braces up to the closing one; a comma may stand after the last one.  The value of
the last one may be missing, and the equal sign before it too. -/
def pairs? : Nat → Nat → Reader (List (List Text × Written))
  | 0, _, _ => none
  | fuel + 1, depth, t =>
    match t with
    | '\x7d' :: rest => some ([], rest)
    | t => do
      let (parts, rest) := keyParts (fuel + 1) t
      match ← skipSpace? false rest with
      | '\x7d' :: rest => some ([(parts, .word [])], rest)
      | '=' :: rest =>
        match ← skipSpace? false rest with
        | '\x7d' :: rest => some ([(parts, .word [])], rest)
        | rest =>
          let (w, rest) ← written? fuel depth rest
          match ← skipSpace? false rest with
          | ',' :: rest =>
            let (ps, rest) ← pairs? fuel depth (← skipSpace? false rest)
            some ((parts, w) :: ps, rest)
          | '\x7d' :: rest => some ([(parts, w)], rest)
          | _ => none
      | _ => none

end

/-! ## Lines -/

/-- One line, unless it is blank; it takes more lines of text if its value does. -/
def line? (fuel : Nat) (t : Text) : Option (Option Line × Text) :=
  match skipBlanks t with
  | '[' :: '[' :: rest =>
    match keyParts fuel rest with
    | (parts, ']' :: ']' :: rest) => some (some (.element parts), rest)
    | _ => none
  | '[' :: rest =>
    match keyParts fuel rest with
    | (parts, ']' :: rest) => some (some (.table parts), rest)
    | _ => none
  | t =>
    if (finishLine? t).isSome then some (none, t)
    else
      match keyParts fuel t with
      | (parts, '=' :: rest) =>
        let t := skipBlanks rest
        if (finishLine? t).isSome then some (some (.pair parts (.word [])), t)
        else
          (written? (2 * fuel) nestLimit t).map fun (w, rest) => (some (.pair parts w), rest)
      | _ => none

/-- The lines of a text. -/
def lines? : Nat → Text → Option (List Line)
  | _, [] => some []
  | 0, _ => none
  | fuel + 1, t => do
    let (l, rest) ← line? (fuel + 1) t
    let ls ← lines? fuel (← finishLine? (skipBlanks rest))
    some (l.toList ++ ls)

/-- The lines of a document.  A mark of the byte order at its start is skipped. -/
def Line.ofText? (t : Text) : Option (List Line) :=
  let t := (Text.after? ['\ufeff'] t).getD t
  lines? (t.length + 1) t

end Signpost.Toml
