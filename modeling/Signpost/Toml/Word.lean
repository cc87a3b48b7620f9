import Signpost.Toml.Layout
import Signpost.Toml.Number
import Signpost.Toml.DateTime

/-!
# Words of documents

What the words of a document mean.  In quotes stand texts, on one line or over several, double quotes
allowing escapes; without quotes stand truth values, numbers, dates and times, and the parts of keys.  Every
reader of a part gives the rest, and `none` says that the word means nothing.
-/

namespace Signpost.Toml

/-! ## Texts -/

/-- A character by the number that a count of hexadecimal digits gives. -/
def hexChar? : Nat → Nat → Reader Char
  | 0, n, t => if n.isValidChar then some (Char.ofNat n, t) else none
  | count + 1, n, c :: rest => do
    let d ← hexDigit? c
    hexChar? count (n * 16 + d) rest
  | _ + 1, _, [] => none

/-- The character that an escape stands for, after its backslash. -/
def escape? : Reader Char
  | 'b' :: rest => some ('\x08', rest)
  | 't' :: rest => some ('\t', rest)
  | 'n' :: rest => some ('\n', rest)
  | 'f' :: rest => some ('\x0c', rest)
  | 'r' :: rest => some ('\r', rest)
  | 'e' :: rest => some ('\x1b', rest)
  | '"' :: rest => some ('"', rest)
  | '\\' :: rest => some ('\\', rest)
  | 'x' :: rest => hexChar? 2 0 rest
  | 'u' :: rest => hexChar? 4 0 rest
  | 'U' :: rest => hexChar? 8 0 rest
  | _ => none

/-- A text in double quotes, after the first one. -/
def quotedText? : Nat → Reader Text
  | fuel + 1, c :: rest =>
    if c = '"' then some ([], rest)
    else if c = '\\' then do
      let (d, rest) ← escape? rest
      let (t, rest) ← quotedText? fuel rest
      some (d :: t, rest)
    else if isPlain c then (quotedText? fuel rest).map fun (t, rest) => (c :: t, rest)
    else none
  | _, _ => none

/-- A text in single quotes, after the first one. -/
def literalText? : Reader Text
  | [] => none
  | c :: rest =>
    if c = '\'' then some ([], rest)
    else if isPlain c then (literalText? rest).map fun (t, rest) => (c :: t, rest)
    else none

/-- The text without the blanks and line ends it starts with. -/
def skipWhite : Text → Text
  | '\r' :: '\n' :: rest => skipWhite rest
  | c :: rest => if isBlank c || c == '\n' then skipWhite rest else c :: rest
  | [] => []

/-- A text over several lines, after its quotes and a line end there.  Line ends belong to it as they are
written.  Double quotes allow escapes, and there a backslash at the end of a line joins it to what is next.
-/
def longText? (quote : Char) : Nat → Reader Text
  | fuel + 1, c :: rest =>
    let count := closingQuotes quote (c :: rest)
    if count ≠ 0 then some (List.replicate (count - 3) quote, (c :: rest).drop count)
    else if c = '\\' ∧ quote = '"' then
      match lineEnd? (skipBlanks rest) with
      | some rest => longText? quote fuel (skipWhite rest)
      | none => do
        let (d, rest) ← escape? rest
        let (t, rest) ← longText? quote fuel rest
        some (d :: t, rest)
    else if isPlain c ∨ c = '\n' ∨ (c = '\r' ∧ rest.head? = some '\n') then
      (longText? quote fuel rest).map fun (t, rest) => (c :: t, rest)
    else none
  | _, _ => none

/-- A text in quotes of any kind. -/
def text? (word : Text) : Option Text :=
  let afterLineEnd (t : Text) : Text := (lineEnd? t).getD t
  let fuel := word.length + 1
  let read :=
    match word with
    | '"' :: '"' :: '"' :: rest => longText? '"' fuel (afterLineEnd rest)
    | '\'' :: '\'' :: '\'' :: rest => longText? '\'' fuel (afterLineEnd rest)
    | '"' :: rest => quotedText? fuel rest
    | '\'' :: rest => literalText? rest
    | _ => none
  match read with
  | some (t, []) => some t
  | _ => none

/-! ## Keys and values -/

/-- Whether a character may stand in a part of a key without quotes. -/
def isBare (c : Char) : Bool := c.isAlphanum || c == '_' || c == '-'

/-- A part of a key; its quotes are those of one line. -/
def keyPart? (word : Text) : Option Text :=
  match word with
  | '"' :: '"' :: '"' :: _ | '\'' :: '\'' :: '\'' :: _ => none
  | '"' :: _ | '\'' :: _ => text? word
  | word => if !word.isEmpty && word.all isBare then some word else none

/-- A value that is one word. -/
def scalar? (word : Text) : Option Value :=
  match word with
  | '"' :: _ | '\'' :: _ => (text? word).map .text
  | word =>
    if word = "true".toList then some (.boolean true)
    else if word = "false".toList then some (.boolean false)
    else
      match DateTime.ofText? word with
      | some d => some (.datetime d.toText)
      | none => number? word

end Signpost.Toml
