import Signpost.Regex.Token

/-!
# Reading expressions

Tokens are put together with a stack of open groups.  A group (`Level`) holds the flags in force, the
alternatives that a bar has ended, and the items of the alternative being read; a closing parenthesis
turns it into one item of the group around it.  So reading is one loop over tokens (`readTokens`) and one
step a token (`Reading.step?`), and what a text does to the innermost group does not depend on the groups
around it, except that a name is given once in the whole expression.

An item records how deep its parts nest, because an expression that nests deeper than `nestLimit` is
refused, and whether it may be repeated, which a change of flags may not.
-/

namespace Signpost.Regex

/-- How deep groups, repetitions, sequences, choices and classes may nest. -/
def nestLimit : Nat := 250

/-- A piece that was read. -/
structure Item where
  /-- What it matches. -/
  expr : Expr
  /-- How deep its parts nest. -/
  depth : Nat
  /-- Whether a repetition may follow it. -/
  repeatable : Bool := true

/-- Items in sequence. -/
def Item.seq : List Item → Item
  | [] => ⟨.empty, 0, true⟩
  | [i] => i
  | is => ⟨.concat (is.map Item.expr), 1 + (is.map Item.depth).foldl max 0, true⟩

/-- Items to choose from. -/
def Item.choice : List Item → Item
  | [] => ⟨.empty, 0, true⟩
  | [i] => i
  | is => ⟨.choose (is.map Item.expr), 1 + (is.map Item.depth).foldl max 0, true⟩

/-- An open group. -/
structure Level where
  /-- Whether it captures. -/
  captures : Bool := false
  /-- Its name, if it captures under one. -/
  name : Option Text := none
  /-- The flags in force. -/
  flags : Flags := {}
  /-- The alternatives read, latest first. -/
  branches : List Item := []
  /-- The items of the alternative being read, latest first. -/
  items : List Item := []

namespace Level

/-- One item more. -/
def push (l : Level) (i : Item) : Level := { l with items := i :: l.items }

/-- The alternative being read is complete. -/
def bar (l : Level) : Level := { l with branches := .seq l.items.reverse :: l.branches, items := [] }

/-- What the group holds. -/
def content (l : Level) : Item := .choice (Item.seq l.items.reverse :: l.branches).reverse

/-- The group as an item. -/
def close (l : Level) : Item :=
  let body := l.content
  ⟨if l.captures then .group l.name body.expr else body.expr, 1 + body.depth, true⟩

/-- The latest item repeated. -/
def repeat? (l : Level) (min : Nat) (max : Option Nat) (plain : Bool) : Option Level :=
  match l.items with
  | i :: rest =>
    if i.repeatable then
      let i' : Item := ⟨.repeated min max (l.flags.greedy plain) i.expr, 1 + i.depth, true⟩
      some { l with items := i' :: rest }
    else none
  | [] => none

end Level

/-- An expression being read. -/
structure Reading where
  /-- The innermost open group. -/
  level : Level := {}
  /-- The groups around it, from the inside out. -/
  outer : List Level := []
  /-- The names given so far. -/
  names : List Text := []

namespace Reading

/-- One item more in the innermost group. -/
def push (r : Reading) (e : Expr) (depth : Nat) (repeatable : Bool) : Reading :=
  { r with level := r.level.push ⟨e, depth, repeatable⟩ }

/-- One token more. -/
def step? (r : Reading) : Token → Option Reading
  | .char c byte => (r.level.flags.literal? c byte).map (r.push · 0 true)
  | .dot => r.level.flags.dot?.map (r.push · 0 true)
  | .caret => some (r.push (.anchor r.level.flags.lineStart) 0 true)
  | .dollar => some (r.push (.anchor r.level.flags.lineEnd) 0 true)
  | .textEdge a => some (r.push (.anchor a) 0 true)
  | .wordSide side => some (r.push (.anchor (.word side r.level.flags.unicode)) 0 true)
  | .set b =>
    (b.set? r.level.flags).map fun s => r.push (r.level.flags.ofSet s) (b.depth false) true
  | .rep min max plain => (r.level.repeat? min max plain).map ({ r with level := · })
  | .openGroup none =>
    some { r with level := { captures := true, flags := r.level.flags }, outer := r.level :: r.outer }
  | .openGroup (some name) =>
    if r.names.contains name then none
    else
      some
        { level := { captures := true, name := some name, flags := r.level.flags }
          outer := r.level :: r.outer
          names := name :: r.names }
  | .openFlags changes =>
    some { r with level := { flags := r.level.flags.apply changes }, outer := r.level :: r.outer }
  | .closeGroup =>
    match r.outer with
    | [] => none
    | around :: outer => some { r with level := around.push r.level.close, outer := outer }
  | .bar => some { r with level := r.level.bar }
  | .setFlags changes =>
    let r := r.push .empty 0 false
    some { r with level := { r.level with flags := r.level.flags.apply changes } }

/-- What was read, if every group is closed and nothing nests too deep. -/
def finish? (r : Reading) : Option Expr :=
  match r.outer with
  | [] => if r.level.content.depth ≤ nestLimit then some r.level.content.expr else none
  | _ :: _ => none

end Reading

/-- Reads a text to its end, with fuel for one turn a token and one more. -/
def readTokens : Nat → Reading → Text → Option Reading
  | 0, _, _ => none
  | fuel + 1, r, t =>
    match skip r.level.flags.extended t with
    | [] => some r
    | c :: rest => do
      let (tok, rest) ← Token.next? r.level.flags.extended c rest
      let r ← r.step? tok
      readTokens fuel r rest

/-- The expression that a text writes, if it writes one. -/
def Expr.ofText? (t : Text) : Option Expr :=
  (readTokens (t.length + 1) {} t).bind Reading.finish?

end Signpost.Regex
