import Signpost.Route

/-!
# Forests of routes

Routes lie under routes.  A forest is a row of them in the order of registration, each with the forest under
it.  `Forest.nodes` lists all of them in preorder, a route before those under it and those before its next
sibling, and that is the order in which a path is tried.

A *place* says where a route can be registered: the positions, counted from zero, that lead from the top
level down to a route, or no position for the top level itself.
-/

namespace Signpost

/-- A row of routes, each with what lies under it. -/
inductive Forest where
  /-- No route. -/
  | nil
  /-- A route, the forest under it, and its next siblings. -/
  | cons (route : Route) (children : Forest) (siblings : Forest)
deriving DecidableEq

/-- A route and the forest under it. -/
structure Node where
  /-- The route. -/
  route : Route
  /-- What lies under it. -/
  children : Forest
deriving DecidableEq

/-- Positions from the top level down. -/
abbrev Place := List Nat

namespace Forest

/-- The nodes of the row itself, in order. -/
def tops : Forest → List Node
  | nil => []
  | cons r cs rest => ⟨r, cs⟩ :: tops rest

/-- All nodes in preorder. -/
def nodes : Forest → List Node
  | nil => []
  | cons r cs rest => ⟨r, cs⟩ :: (nodes cs ++ nodes rest)

/-- A route more at the end of the row, with nothing under it. -/
def append : Forest → Route → Forest
  | nil, new => cons new nil nil
  | cons r cs rest, new => cons r cs (append rest new)

/-- The node at a place. -/
def at? : Place → Forest → Option Node
  | _, nil => none
  | [], _ => none
  | [0], cons r cs _ => some ⟨r, cs⟩
  | 0 :: place, cons _ cs _ => at? place cs
  | (i + 1) :: place, cons _ _ rest => at? (i :: place) rest

/-- Runs an action on the row at a place, from the route above the row, and puts the row back as the action leaves
it; `none` if there is no such place. -/
def within? {α : Type} (act : Option Route → StateM Forest α) (above : Option Route) :
    Place → Forest → Option (α × Forest)
  | [], f => some ((act above).run f)
  | _ :: _, nil => none
  | 0 :: place, cons r cs rest =>
    (within? act (some r) place cs).map fun (result, cs) => (result, cons r cs rest)
  | (i + 1) :: place, cons r cs rest =>
    (within? act above (i :: place) rest).map fun (result, rest) => (result, cons r cs rest)

/-- The first node in preorder whose own template matches a path, and the variables of the match. -/
def match? (path : Text) : Forest → Option (Node × Vars)
  | nil => none
  | cons r cs rest =>
    match r.captures? path with
    | some vars => some (⟨r, cs⟩, vars)
    | none =>
      match match? path cs with
      | some found => some found
      | none => match? path rest

/-- The node of the row itself that has a qualified name. -/
def here? (name : Text) : Forest → Option Node
  | nil => none
  | cons r cs rest => if r.qualifiedName = name then some ⟨r, cs⟩ else here? name rest

/-- A node deeper than the row that has a qualified name: the forests under the row are asked in order, and
each for its own row first. -/
def below? (name : Text) : Forest → Option Node
  | nil => none
  | cons _ cs rest =>
    match here? name cs with
    | some node => some node
    | none =>
      match below? name cs with
      | some node => some node
      | none => below? name rest

/-- The node that has a qualified name, looked for in the row before what lies under it. -/
def find? (name : Text) (f : Forest) : Option Node := (here? name f).or (below? name f)

/-- A line for each route, indented by two blanks for each level. -/
def display (depth : Nat) : Forest → Text
  | nil => []
  | cons r cs rest =>
    List.replicate (2 * depth) ' ' ++ "Route: ".toList ++ r.qualifiedName ++ " -> ".toList ++ r.path ++
      '\n' :: (display (depth + 1) cs ++ display depth rest)

/-- All fields of the routes in one line, a comma and a blank between routes. -/
def debug : Forest → Text
  | nil => []
  | cons r cs rest =>
    "Route \x7b name: ".toList ++ Text.quoted r.name ++ ", qualified_name: ".toList ++
      Text.quoted r.qualifiedName ++ ", path: ".toList ++ Text.quoted r.path ++
      ", has_callback: ".toList ++ Text.ofBool r.hasHandler ++ ", children: [".toList ++ debug cs ++
      "] \x7d".toList ++
      (match rest with
        | nil => []
        | cons _ _ _ => ", ".toList ++ debug rest)

end Forest

namespace Node

/-- The first match in the subtree of the node, the node first. -/
def match? (n : Node) (path : Text) : Option (Node × Vars) :=
  match n.route.captures? path with
  | some vars => some (n, vars)
  | none => n.children.match? path

/-- The node under this one that has a qualified name. -/
def find? (n : Node) (name : Text) : Option Node := n.children.find? name

/-- The node as a forest of its own. -/
def toForest (n : Node) : Forest := .cons n.route n.children .nil

/-- A line for each route of the subtree. -/
def display (n : Node) : Text := n.toForest.display 0

/-- All fields of the routes of the subtree in one line. -/
def debug (n : Node) : Text := n.toForest.debug

end Node

end Signpost
