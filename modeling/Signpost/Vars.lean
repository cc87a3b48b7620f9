import Signpost.Text

/-!
# Variables

A match binds the names of placeholders to the texts that stood for them.  Bindings are kept in a list in
which no name comes twice; a later binding of a name takes the place of the earlier one.  Two maps are the
same if they give the same answer for every name, whatever the order of their lists.
-/

namespace Signpost

/-- Names bound to texts. -/
structure Vars where
  /-- The bindings. -/
  bindings : List (Text × Text) := []
deriving DecidableEq

namespace Vars

/-- No binding. -/
def empty : Vars := {}

/-- The text bound to a name. -/
def get? (v : Vars) (name : Text) : Option Text := v.bindings.lookup name

/-- A binding added to a list of bindings, in the place of one for the same name. -/
def insertInto (name value : Text) : List (Text × Text) → List (Text × Text)
  | [] => [(name, value)]
  | (n, v) :: rest =>
    if n = name then (name, value) :: rest else (n, v) :: insertInto name value rest

/-- A name bound to a text, in place of what it was bound to. -/
def insert (v : Vars) (name value : Text) : Vars := ⟨insertInto name value v.bindings⟩

/-- The bindings of a list, later ones in place of earlier ones. -/
def ofList (l : List (Text × Text)) : Vars := l.foldl (fun v b => v.insert b.1 b.2) empty

/-- Whether a name is bound. -/
def contains (v : Vars) (name : Text) : Bool := (v.get? name).isSome

/-- The number of names bound. -/
def size (v : Vars) : Nat := v.bindings.length

/-- Whether no name is bound. -/
def isEmpty (v : Vars) : Bool := v.bindings.isEmpty

/-- Whether two maps bind the same names to the same texts. -/
def same (v w : Vars) : Bool :=
  decide (v.size = w.size) && v.bindings.all fun b => w.get? b.1 == some b.2

theorem get?_insert (v : Vars) (name value n : Text) :
    (v.insert name value).get? n = if n = name then some value else v.get? n := by
  simp only [insert, get?]
  induction v.bindings with
  | nil =>
    by_cases h : n = name
    · simp [insertInto, h]
    · have hb : (n == name) = false := by simpa using h
      simp [insertInto, List.lookup_cons, hb, h]
  | cons b rest ih =>
    obtain ⟨m, w⟩ := b
    by_cases hm : m = name
    · subst hm
      by_cases h : n = m
      · simp [insertInto, h]
      · have hb : (n == m) = false := by simpa using h
        simp [insertInto, List.lookup_cons, hb, h]
    · by_cases h : n = m
      · subst h
        simp [insertInto, hm]
      · have hb : (n == m) = false := by simpa using h
        simp [insertInto, hm, List.lookup_cons, hb, ih]

end Vars

end Signpost
