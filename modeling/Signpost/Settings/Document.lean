import Signpost.Settings
import Signpost.Toml.Read

/-!
# Settings in documents

A document may hold the settings at its top level or in a table `router`, so that they can be a part of a
larger document.  If there is such a table, nothing outside it counts.  The section may hold only the five
settings; its keys are visited in the order of their characters, and the first fault is reported.  What the
section does not set keeps its default.
-/

namespace Signpost.Settings

open Toml (Value Entries)

/-- The name of the table that may hold the settings. -/
def sectionName : Text := "router".toList

/-- A found value in the words of a message. -/
def found : Value → Text
  | .text t => "string ".toList ++ Text.quoted t
  | .integer n => "integer `".toList ++ (toString n).toList ++ ['`']
  | .real x => "floating point `".toList ++ x.display ++ ['`']
  | .overflow => "floating point".toList
  | .boolean b => "boolean `".toList ++ Text.ofBool b ++ ['`']
  | .datetime t => "string ".toList ++ Text.quoted t
  | .array _ _ => "sequence".toList
  | .table _ _ => "map".toList

/-- One entry of the section taken over. -/
def setEntry (s : Settings) (key : Text) (v : Value) : Except SettingsError Settings :=
  match Setting.ofName? key, v with
  | none, _ => .error (.badEntry (.unknownKey key))
  | some (.switch which), .boolean b => .ok (s.setSwitch b which)
  | some (.limit which), .integer n =>
    if 0 ≤ n then .ok (s.setLimit n.toNat which)
    else .error (.badEntry (.outOfRange (.limit which) (found v)))
  | some setting, v => .error (.badEntry (.wrongType setting (found v)))

/-- The settings of a section. -/
def ofSection (es : Entries) : Except SettingsError Settings := do
  let s ← (es.mergeSort fun a b => Text.le a.1 b.1).foldlM (fun s e => s.setEntry e.1 e.2) ({} : Settings)
  s.validate
  .ok s

/-- The settings of a document: those of its table `router` if it has the key, otherwise its own. -/
def ofEntries (es : Entries) : Except SettingsError Settings :=
  match Entries.get? es sectionName with
  | some (.table _ inner) => ofSection inner
  | some v => .error (.notTable v.typeName)
  | none => ofSection es

/-- The settings that the text of a document gives. -/
def ofDocument (t : Text) : Except SettingsError Settings :=
  match Entries.ofText t with
  | .ok es => ofEntries es
  | .error .malformed => .error .badDocument
  | .error .longKey => .error .longKey

/-- The settings of a file, given its text, if there is such a file. -/
def ofFile (content : Option Text) : Except SettingsError Settings :=
  match content with
  | some t => ofDocument t
  | none => .error (.unreadable "NotFound".toList)

end Signpost.Settings
