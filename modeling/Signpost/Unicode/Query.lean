import Signpost.Unicode.Character
import Signpost.Unicode.Script
import Signpost.Unicode.Age
import Signpost.Unicode.Break

/-!
# Property queries

An expression may name a set of code points by a property: `Greek`, `Lu`, `script=Latin`, `age:6.0`.
Names are compared loosely (`looseName`).  A name alone is a binary property, a category or a script, in
this order; `cf`, `sc` and `lc` are categories although properties share these names.
-/

namespace Signpost.Unicode

/-- A question for a set of code points. -/
inductive Query where
  /-- One name, such as `Lu`. -/
  | named (name : Text)
  /-- A property and a value of it, such as `script=Latin`. -/
  | valued (property value : Text)

/-- The form of a name in which names are compared: without blanks, `_` and `-`, in lower case, ASCII
only, and without a leading `is`.  `isc` keeps it, or it would read as the category `c`. -/
def looseName (name : Text) : Text :=
  let squeeze (t : Text) : Text :=
    (t.filter fun c => c.toNat < 128 && c != ' ' && c != '_' && c != '-').map Char.toLower
  match name with
  | i :: s :: rest =>
    if i.toLower == 'i' && s.toLower == 's' then
      let short := squeeze rest
      if short == ['c'] then ['i', 's', 'c'] else short
    else squeeze name
  | _ => squeeze name

/-- The surrogates.  They are no characters, but a group of categories counts them in. -/
def surrogates : Ranges := [(0xD800, 0xDFFF)]

/-- The set of a category that belongs to a group. -/
def memberSet (name : String) : Ranges := if name == "cs" then surrogates else category name

/-- The set of a general category, single or grouped. -/
def categorySet? (name : Text) : Option Ranges :=
  if name == "any".toList then some [(0, lastCodePoint)]
  else if name == "ascii".toList then some [(0, 0x7F)]
  else if name == "assigned".toList then some (.complement lastCodePoint (category "cn"))
  else
    match categoryGroups.find? fun group => (words group.1).contains name with
    | some group => some ((group.2.map memberSet).foldl Ranges.union [])
    | none => lookUp? name categoryTable

/-- The code points that had been assigned at an age: those added by it and by every earlier one. -/
def ageSet? (name : Text) : List (String × List String) → Option Ranges
  | [] => none
  | (names, lines) :: rest =>
    if (words names).contains name then some (.ofLines lines)
    else (ageSet? name rest).map (Ranges.union (.ofLines lines))

/-- The set that a query names, if there is such a set. -/
def Query.resolve? : Query → Option Ranges
  | .named name =>
    let name := looseName name
    let binary :=
      if ["cf".toList, "sc".toList, "lc".toList].contains name then none
      else lookUp? name propertyTable
    (binary.or (categorySet? name)).or (lookUp? name scriptTable)
  | .valued property value =>
    let value := looseName value
    match String.ofList (looseName property) with
    | "gc" | "generalcategory" => categorySet? value
    | "sc" | "script" => lookUp? value scriptTable
    | "scx" | "scriptextensions" => lookUp? value scriptExtensionTable
    | "age" => ageSet? value ageTable
    | "gcb" | "graphemeclusterbreak" => lookUp? value graphemeBreakTable
    | "wb" | "wordbreak" => lookUp? value wordBreakTable
    | "sb" | "sentencebreak" => lookUp? value sentenceBreakTable
    | _ => none

end Signpost.Unicode
