import Signpost.Binary64

/-!
# Values of documents

A document in TOML is a table of keys and values.  A table may be written in parts: under a header, by keys
with dots, or in braces, and only some parts may be added to later.  So a table keeps how it came about
(`Origin`), and an array knows whether headers add to it.

The entries of a table are in the order of the document; no key comes twice.
-/

namespace Signpost.Toml

/-- How a table came about. -/
inductive Origin where
  /-- In braces; nothing can be added. -/
  | inline
  /-- By a header of its own, or as an element that a header adds to an array. -/
  | header
  /-- By the header of a table under it; a header of its own may follow. -/
  | implied
  /-- By a key with dots. -/
  | dotted
deriving DecidableEq

/-- A value. -/
inductive Value where
  /-- A text. -/
  | text (t : Text)
  /-- A whole number. -/
  | integer (n : Int)
  /-- A floating-point number. -/
  | real (x : Binary64)
  /-- A number that its type cannot hold, which makes the document ill-formed. -/
  | overflow
  /-- A truth value. -/
  | boolean (b : Bool)
  /-- A date, a time or both, as it is written out. -/
  | datetime (t : Text)
  /-- Values in order; headers add tables to it if it is `growing`. -/
  | array (growing : Bool) (elements : List Value)
  /-- Keys and values. -/
  | table (origin : Origin) (entries : List (Text × Value))

/-- The entries of a table. -/
abbrev Entries := List (Text × Value)

namespace Value

/-- The name of the type of a value. -/
def typeName : Value → Text
  | text _ => "string".toList
  | integer _ => "integer".toList
  | real _ | overflow => "float".toList
  | boolean _ => "boolean".toList
  | datetime _ => "datetime".toList
  | array _ _ => "array".toList
  | table _ _ => "table".toList

end Value

namespace Entries

/-- The value of a key. -/
def get? (es : Entries) (key : Text) : Option Value := es.lookup key

/-- The entries with the value of a key replaced, or added at the end. -/
def set (key : Text) (v : Value) : Entries → Entries
  | [] => [(key, v)]
  | (k, w) :: rest => if k = key then (key, v) :: rest else (k, w) :: set key v rest

/-! ## Headers -/

/-- The last element of an array of tables, changed. -/
def changeLast (f : Entries → Option Entries) : List Value → Option (List Value)
  | [] => none
  | [.table origin es] => (f es).map fun es => [.table origin es]
  | [_] => none
  | v :: rest => (changeLast f rest).map (v :: ·)

/-- The table that a path of keys leads to, changed; in an array of tables the last element is meant.
Tables on the way that do not exist are created. -/
def changeAt (f : Entries → Option Entries) : List Text → Entries → Option Entries
  | [], es => f es
  | key :: path, es =>
    match es.get? key with
    | none => (changeAt f path []).map fun sub => es.set key (.table .implied sub)
    | some (.table .inline _) => none
    | some (.table origin sub) =>
      (changeAt f path sub).map fun sub => es.set key (.table origin sub)
    | some (.array true tables) =>
      (changeLast (changeAt f path) tables).map fun tables => es.set key (.array true tables)
    | some _ => none

/-- A table with a header of its own: a new one, or one that so far was only implied. -/
def openTable (key : Text) (es : Entries) : Option Entries :=
  match es.get? key with
  | none => some (es.set key (.table .header []))
  | some (.table .implied sub) => some (es.set key (.table .header sub))
  | some _ => none

/-- A table added to an array of tables, which the first one creates. -/
def addElement (key : Text) (table : Entries) (es : Entries) : Option Entries :=
  let element : Value := .table .header table
  match es.get? key with
  | none => some (es.set key (.array true [element]))
  | some (.array true tables) => some (es.set key (.array true (tables ++ [element])))
  | some _ => none

/-! ## Keys -/

/-- A value added under a key, perhaps with dots.  `dotted` says whether keys with dots made the table that
is reached, `first` whether it is the table the key is written in: a value is put either there or into a
table that such keys made. -/
def addKey (v : Value) : Bool → Bool → List Text → Entries → Option Entries
  | _, _, [], _ => none
  | first, dotted, [key], es =>
    if first || dotted then
      match es.get? key with
      | none => some (es.set key v)
      | some _ => none
    else none
  | _, _, key :: path, es =>
    match es.get? key with
    | none => (addKey v false true path []).map fun sub => es.set key (.table .dotted sub)
    | some (.table .dotted sub) =>
      (addKey v false true path sub).map fun sub => es.set key (.table .dotted sub)
    | some (.table .implied sub) =>
      (addKey v false false path sub).map fun sub => es.set key (.table .implied sub)
    | some (.array true tables) =>
      (changeLast (addKey v false false path) tables).map fun tables =>
        es.set key (.array true tables)
    | some _ => none

/-- A value added under a key that is written in the table itself. -/
def add (path : List Text) (v : Value) (es : Entries) : Option Entries := addKey v true false path es

end Entries

end Signpost.Toml
