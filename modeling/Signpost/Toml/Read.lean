import Signpost.Toml.Word

/-!
# Reading documents

A document is read in three steps.  Its layout is found (`Line.ofText?`); the lines are gone through in
order, each word read and each value put in its place (`Document.addLine`); and numbers are held against
their types (`Value.fits`).  So a wrong layout is reported whatever the words are, then the first fault of a
line, and a number that does not fit only if there is no other fault.

The table of a header in two brackets is put into its array when the next header comes, or the end, and only
then it shows whether the key is free.
-/

namespace Signpost.Toml

/-- Why a text is no document. -/
inductive Fault where
  /-- It is not well formed. -/
  | malformed
  /-- A key has too many parts. -/
  | longKey
deriving DecidableEq

/-- What is there, unless it is missing. -/
def orMalformed {α : Type} : Option α → Except Fault α
  | some x => .ok x
  | none => .error .malformed

/-- A key, which has at most `nestLimit` parts. -/
def readKey (parts : List Text) : Except Fault (List Text) := do
  let key ← orMalformed (parts.mapM keyPart?)
  if key.length ≤ nestLimit then .ok key else .error .longKey

mutual

/-- A value. -/
def Written.read : Written → Except Fault Value
  | .word word => orMalformed (scalar? word)
  | .array elements => do .ok (.array false (← readElements elements))
  | .braces pairs => do .ok (.table .inline (← readPairs [] pairs))

/-- The elements of an array. -/
def readElements : List Written → Except Fault (List Value)
  | [] => .ok []
  | w :: ws => do
    let v ← w.read
    let vs ← readElements ws
    .ok (v :: vs)

/-- The pairs of a table in braces, after some that it has. -/
def readPairs : Entries → List (List Text × Written) → Except Fault Entries
  | es, [] => .ok es
  | es, (parts, w) :: rest => do
    let key ← readKey parts
    let v ← w.read
    readPairs (← orMalformed (es.add key v)) rest

end

mutual

/-- Whether all numbers in a value fit their types. -/
def Value.fits : Value → Bool
  | .overflow => false
  | .array _ elements => elementsFit elements
  | .table _ es => entriesFit es
  | _ => true

/-- Whether all numbers in some values fit their types. -/
def elementsFit : List Value → Bool
  | [] => true
  | v :: vs => v.fits && elementsFit vs

/-- Whether all numbers in some entries fit their types. -/
def entriesFit : Entries → Bool
  | [] => true
  | (_, v) :: es => v.fits && entriesFit es

end

/-- Where the keys of the next lines belong. -/
inductive Place where
  /-- In the table that a path of keys leads to. -/
  | table (path : List Text)
  /-- In the next element of an array of tables, which has some entries so far. -/
  | element (path : List Text) (entries : Entries)

/-- A document being read. -/
structure Document where
  /-- The entries. -/
  entries : Entries := []
  /-- Where the keys of the next lines belong. -/
  place : Place := .table []

namespace Document

/-- A header puts a table where a path of keys leads to. -/
def putAt (put : Text → Entries → Option Entries) (path : List Text) (es : Entries) :
    Except Fault Entries :=
  orMalformed (path.getLast?.bind fun key => es.changeAt (put key) path.dropLast)

/-- All entries, the table being read included. -/
def close (d : Document) : Except Fault Entries :=
  match d.place with
  | .table _ => .ok d.entries
  | .element path table => putAt (Entries.addElement · table) path d.entries

/-- One line more. -/
def addLine (d : Document) : Line → Except Fault Document
  | .table parts => do
    let es ← d.close
    let path ← readKey parts
    .ok ⟨← putAt Entries.openTable path es, .table path⟩
  | .element parts => do
    let es ← d.close
    let path ← readKey parts
    .ok ⟨es, .element path []⟩
  | .pair parts w => do
    let key ← readKey parts
    let v ← w.read
    match d.place with
    | .table path => .ok { d with entries := ← orMalformed (d.entries.changeAt (Entries.add key v) path) }
    | .element path table => .ok { d with place := .element path (← orMalformed (table.add key v)) }

end Document

/-- The entries of a document. -/
def Entries.ofText (t : Text) : Except Fault Entries := do
  let lines ← orMalformed (Line.ofText? t)
  let d ← lines.foldlM Document.addLine {}
  let es ← d.close
  if entriesFit es then .ok es else .error .malformed

end Signpost.Toml
