import Signpost.Proofs.Router.Names
import Signpost.Proofs.Router.RoundTrip

/-!
# Matching as a scan

Matching asks a route, then what lies under it, then its next sibling, and stops at the first match.  The scan
asks for less: it goes through the list of all nodes in preorder, leaves out those whose template does not
compile, and takes the first one that captures the path (`scan`).  Both give the same (`Router.matchPath_eq_scan`),
so no route hides what lies under it, be it that it does not match or that it does not compile.

Preorder is the order of the rows: each node of a row, followed by all nodes under it
(`Forest.nodes_eq_flatMap`).
-/

namespace Signpost

/-- The node with its pattern, if its template compiles. -/
def Node.compiled? (n : Node) : Option (Node × Pattern) := n.route.pattern.toOption.map (n, ·)

/-- The first of some nodes that captures a path, and its variables.  Nodes whose template does not compile are
left out. -/
def scan (path : Text) (nodes : List Node) : Option (Node × Vars) :=
  (nodes.filterMap Node.compiled?).findSome? fun (n, p) => (p.captures? path).map (n, ·)

/-! ## Nodes that do not compile -/

theorem Node.compiled?_of_ok {n : Node} {p : Pattern} (hp : n.route.pattern = .ok p) :
    n.compiled? = some (n, p) := by
  rw [compiled?, hp]
  rfl

theorem Node.compiled?_of_error {n : Node} {e : RouteError} (he : n.route.pattern = .error e) :
    n.compiled? = none := by
  rw [compiled?, he]
  rfl

theorem Route.captures?_of_error {r : Route} {e : RouteError} (he : r.pattern = .error e) (path : Text) :
    r.captures? path = none := by
  rw [captures?, he]

theorem Route.captures?_eq_none_iff {r : Route} {path : Text} :
    r.captures? path = none ↔ ∀ p, r.pattern = .ok p → p.captures? path = none := by
  cases hpattern : r.pattern with
  | ok p =>
      rw [captures?_of_pattern hpattern]
      exact ⟨fun h q hq => by cases hq; exact h, fun h => h p rfl⟩
  | error e => exact iff_of_true (captures?_of_error hpattern path) nofun

/-- To leave out what does not compile is to let it match nothing. -/
theorem scan_eq_findSome? (path : Text) (nodes : List Node) :
    scan path nodes = nodes.findSome? fun n => (n.route.captures? path).map (n, ·) := by
  unfold scan
  induction nodes with
  | nil => rfl
  | cons n nodes ih =>
      rw [List.findSome?_cons]
      cases hpattern : n.route.pattern with
      | ok p =>
          rw [List.filterMap_cons_some (Node.compiled?_of_ok hpattern), List.findSome?_cons, ih,
            Route.captures?_of_pattern hpattern]
      | error e =>
          rw [List.filterMap_cons_none (Node.compiled?_of_error hpattern), ih,
            Route.captures?_of_error hpattern]
          rfl

theorem scan_eq_none_iff {path : Text} {nodes : List Node} :
    scan path nodes = none ↔ ∀ n ∈ nodes, n.route.captures? path = none := by
  rw [scan_eq_findSome?, List.findSome?_eq_none_iff]
  exact forall₂_congr fun n _ => Option.map_eq_none_iff

/-! ## Preorder -/

/-- Preorder goes through the nodes of the row, each followed by all nodes under it. -/
theorem Forest.nodes_eq_flatMap (f : Forest) : f.nodes = f.tops.flatMap fun n => n :: n.children.nodes := by
  induction f with
  | nil => rfl
  | cons r cs rest _ ih => rw [nodes, tops, List.flatMap_cons, ← ih, List.cons_append]

theorem Forest.match?_eq_scan (path : Text) (f : Forest) : f.match? path = scan path f.nodes := by
  rw [match?_eq_findSome?, scan_eq_findSome?]

/-- The search from a node scans the node and all nodes under it. -/
theorem Node.match?_eq_scan (path : Text) (n : Node) :
    n.match? path = scan path (n :: n.children.nodes) := by
  rw [match?, Forest.match?_eq_scan, scan_eq_findSome?, scan_eq_findSome?, List.findSome?_cons]
  cases n.route.captures? path <;> rfl

namespace Router

variable {ι : Type}

/-- What matching a path does, said of all nodes in preorder. -/
structure Scans (r : Router ι) (path : Text) : Prop where
  /-- The trimmed path is tried, and the match is that of the scan. -/
  found : r.matchPath path =
    ⟨scan (Template.trimSlash r.settings.skipTrailingSlash path) r.routes.nodes,
      Template.trimSlash r.settings.skipTrailingSlash path⟩
  /-- Preorder: each route of the top level in turn, followed by all that lies under it. -/
  preorder : r.routes.nodes = r.routes.tops.flatMap fun n => n :: n.children.nodes
  /-- Preorder under a node. -/
  preorderUnder : ∀ n ∈ r.routes.nodes,
    n.children.nodes = n.children.tops.flatMap fun m => m :: m.children.nodes
  /-- There is no match exactly if no node captures the path. -/
  missed : (r.matchPath path).found = none ↔ ∀ n ∈ r.routes.nodes, ∀ p, n.route.pattern = .ok p →
    p.captures? (r.matchPath path).path = none
  /-- The search from a node is the scan of what it is the first of. -/
  foundFrom : ∀ n ∈ r.routes.nodes,
    n.match? (r.matchPath path).path = scan (r.matchPath path).path (n :: n.children.nodes)
  /-- A node whose template does not compile does not match, and what lies under it is searched. -/
  uncompiled : ∀ n ∈ r.routes.nodes, ∀ e, n.route.pattern = .error e →
    (∀ vars, (r.matchPath path).found ≠ some (n, vars)) ∧
      n.match? (r.matchPath path).path = n.children.match? (r.matchPath path).path
  /-- A node that captures the path is not hidden by one above it. -/
  unhidden : ∀ n ∈ r.routes.nodes, ∀ m ∈ n.children.nodes,
    m.route.captures? (r.matchPath path).path ≠ none →
      n.match? (r.matchPath path).path ≠ none ∧ (r.matchPath path).found ≠ none

/-- Matching is a scan of all nodes in preorder, for every router and path. -/
theorem matchPath_eq_scan (r : Router ι) (path : Text) : r.Scans path where
  found := by rw [matchPath, Forest.match?_eq_scan]
  preorder := r.routes.nodes_eq_flatMap
  preorderUnder n _ := n.children.nodes_eq_flatMap
  missed := by
    rw [matchPath, Forest.match?_eq_scan, scan_eq_none_iff]
    exact forall₂_congr fun n _ => Route.captures?_eq_none_iff
  foundFrom n _ := n.match?_eq_scan _
  uncompiled n _ e he := by
    refine ⟨fun vars hfound => ?_, ?_⟩
    · obtain ⟨_, _, -, hcaptures, -⟩ := Forest.match?_eq_some_iff.1 hfound
      rw [Route.captures?_of_error he] at hcaptures
      cases hcaptures
    · rw [Node.match?, Route.captures?_of_error he]
  unhidden n hn m hm hcaptures := by
    have hall : m ∈ r.routes.nodes := (Forest.children_nodes_sublist n hn).subset hm
    refine ⟨fun hnone => hcaptures ?_, fun hnone => hcaptures ?_⟩
    · rw [n.match?_eq_scan, scan_eq_none_iff] at hnone
      exact hnone m (List.mem_cons_of_mem _ hm)
    · rw [matchPath, Forest.match?_eq_scan, scan_eq_none_iff] at hnone
      exact hnone m hall

-- The template of the first route has too many segments, the one under it has less.
example :
    let s : Settings := { compileOnRegister := false, maxPathSegments := 4 }
    let under : Route := ⟨"b".toList, "a:b".toList, "/a/b".toList, true, s⟩
    let r : Router Unit :=
      { routes := .cons ⟨"a".toList, "a".toList, "/a////".toList, true, s⟩ (.cons under .nil .nil) .nil }
    (r.matchPath "/a////".toList).found = none ∧
      (r.matchPath "/a/b".toList).found = some (⟨under, .nil⟩, .empty) := by
  decide +kernel

end Router

end Signpost
