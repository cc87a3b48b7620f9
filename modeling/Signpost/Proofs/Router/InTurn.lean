import Signpost.Proofs.Router.Register
import Signpost.Proofs.Router.RoundTrip

/-!
# Registering in turn

*Turns.*  Registering gives access to the new route, and through it to what is registered under it.  So a route
is registered at the top level, under the one registered last, or under one above that (`Router.InTurn`).  At
these places the forest is open, so preorder is the order of registration
(`Router.InTurn.openAt_and_routes_eq`).  A route registered under an earlier one would come before those
registered since.

*Nothing is disturbed.*  A registration in its turn adds a route at the end of preorder.  A path that matched
matches as before, a path that did not can match the new route only, and the names that were there lead to the
routes they led to (`Router.InTurn.undisturbed`).
-/

namespace Signpost

/-! ## Forests with a route more at the open end -/

namespace Forest

/-- The match of a path, by routes. -/
theorem map_match? (path : Text) (f : Forest) :
    (f.match? path).map (fun found => (found.1.route, found.2)) =
      f.routes.findSome? fun r => (r.captures? path).map (r, ·) := by
  rw [match?_eq_findSome?, routes, List.findSome?_map, List.map_findSome?]
  congr 1
  funext n
  exact Option.map_map ..

theorem match?_eq_none_iff {path : Text} {f : Forest} :
    f.match? path = none ↔ ∀ r ∈ f.routes, r.captures? path = none := by
  rw [match?_eq_findSome?, List.findSome?_eq_none_iff, routes, List.forall_mem_map]
  exact forall₂_congr fun n _ => Option.map_eq_none_iff

variable {place : Place} {f : Forest} {path : Text}

/-- A path that matched matches the same route, a path that did not matches the new route if any. -/
theorem map_match?_put (new : Route) (hopen : OpenAt place f) :
    ((f.put new place).match? path).map (fun found => (found.1.route, found.2)) =
      ((f.match? path).map fun found => (found.1.route, found.2)).or ((new.captures? path).map (new, ·)) := by
  rw [map_match?, map_match?, routes_put new hopen, List.findSome?_append, List.findSome?_cons,
    List.findSome?_nil]
  cases new.captures? path <;> rfl

/-- If a path that did not match matches now, it is the node of the new route that it matches. -/
theorem match?_put_of_none (new : Route) (hopen : OpenAt place f) (hnone : f.match? path = none) :
    (f.put new place).match? path = (new.captures? path).map (⟨new, nil⟩, ·) := by
  obtain ⟨grown, hnodes, hgrown⟩ := exists_nodes_put new hopen
  have hmiss : grown.findSome? (fun n => (n.route.captures? path).map (n, ·)) = none := by
    rw [List.findSome?_eq_none_iff]
    intro m hm
    have hroute : m.route ∈ f.routes := by
      rw [routes, ← map_route_of_grewTo hgrown]
      exact List.mem_map_of_mem hm
    rw [match?_eq_none_iff.1 hnone m.route hroute]
    rfl
  rw [match?_eq_findSome?, hnodes, List.findSome?_append, hmiss, List.findSome?_cons, List.findSome?_nil]
  cases new.captures? path <;> rfl

theorem exists_mem_of_grewTo {l m : List Node} (h : List.Forall₂ Node.GrewTo l m) :
    ∀ n ∈ l, ∃ n' ∈ m, n.GrewTo n' := by
  induction h with
  | nil => exact fun n hn => by cases hn
  | cons hn _ ih =>
      rw [List.forall_mem_cons]
      exact ⟨⟨_, List.mem_cons_self, hn⟩,
        fun n hn => (ih n hn).imp fun n' hn' => ⟨List.mem_cons_of_mem _ hn'.1, hn'.2⟩⟩

end Forest

/-- The outcome of matching a path: the route and its variables, and the path as it was tried. -/
def RouteMatch.outcome (m : RouteMatch) : Option (Route × Vars) × Text :=
  (m.found.map fun found => (found.1.route, found.2), m.path)

namespace Router

variable {ι : Type}

/-! ## Turns -/

/-- The routers built by registering in turn, with their routes in the order of registration and the place of the
latest one.  Each route is registered at the top level, at the place of the latest one, or at one above it. -/
inductive InTurn : Router ι → List Route → Place → Prop where
  /-- A router without routes. -/
  | ofSettings {s : Settings} {r : Router ι} : ofSettings s = .ok r → InTurn r [] []
  /-- A route more. -/
  | register {r r' : Router ι} {log : List Route} {latest place : Place} {spec : Route.Spec} {new : Node} :
      InTurn r log latest → place <+: latest → r.register place spec = some (.ok r') →
      r'.nodeAt? (r.nextPlace place) = some new → InTurn r' (log ++ [new.route]) (r.nextPlace place)
  /-- Another change. -/
  | adjust {r r' : Router ι} {log : List Route} {latest : Place} :
      InTurn r log latest → r.Adjusts r' → InTurn r' log latest

variable {r r' : Router ι} {log : List Route} {latest place : Place} {spec : Route.Spec}

theorem InTurn.reached (h : r.InTurn log latest) : r.Reached := by
  induction h with
  | ofSettings h => exact .ofSettings h
  | register _ _ h _ ih => exact ih.register h
  | adjust _ h ih => exact h.reached ih

/-- The forest is open at the place of the latest route, and preorder is the order of registration. -/
theorem InTurn.openAt_and_routes_eq (h : r.InTurn log latest) :
    r.routes.OpenAt latest ∧ r.routes.routes = log := by
  induction h with
  | ofSettings h =>
      rw [routes_of_ofSettings h]
      exact ⟨trivial, rfl⟩
  | @register r r' log latest place spec new _ hplace h hnew ih =>
      -- The turn is at the latest place or above it, where the forest is open too.
      obtain ⟨above, row, hspot, -, rfl⟩ := exists_of_register h
      have hopen := ih.1.ancestor hplace
      rw [nextPlace_eq hspot] at hnew ⊢
      cases (Forest.at?_put_new _ hspot).symm.trans hnew
      exact ⟨Forest.openAt_put _ hopen hspot, by rw [← ih.2, Forest.routes_put _ hopen]⟩
  | adjust _ h ih => rwa [h.routes_eq]

/-! ## Nothing is disturbed -/

/-- The node that an attempt to register a route adds. -/
def added? (r : Router ι) (place : Place) (spec : Route.Spec) : Option Node :=
  match r.register place spec with
  | some (.ok r') => r'.nodeAt? (r.nextPlace place)
  | _ => none

/-- The router `r'` leaves what was there in `r`; `added` is the node that it has besides. -/
structure Leaves (r r' : Router ι) (added : Option Node) : Prop where
  /-- A path that matched has the same outcome. -/
  found : ∀ path, (r.matchPath path).found ≠ none → (r'.matchPath path).outcome = (r.matchPath path).outcome
  /-- A path that did not match is tried in the same form, and matches nothing or what was added. -/
  missed : ∀ path, (r.matchPath path).found = none → (r'.matchPath path).path = (r.matchPath path).path ∧
    ((r'.matchPath path).found = none ∨ ∃ new ∈ added, ∃ vars, (r'.matchPath path).found = some (new, vars))
  /-- A name leads to the same route, with all under it that was. -/
  named : ∀ name n, r.find? name = some n → ∃ m, r'.find? name = some m ∧ n.GrewTo m
  /-- A name is reversed to the same path, or for the same reason to none. -/
  reversed : ∀ name, r.find? name ≠ none → ∀ args, r'.reverse name args = r.reverse name args
  /-- The same with values by name. -/
  reversedWith : ∀ name, r.find? name ≠ none → ∀ vars, r'.reverseWith name vars = r.reverseWith name vars

theorem Leaves.refl (r : Router ι) (added : Option Node) : r.Leaves r added where
  found _ _ := rfl
  missed _ hnone := ⟨rfl, .inl hnone⟩
  named _ n hn := ⟨n, hn, .refl n⟩
  reversed _ _ _ := rfl
  reversedWith _ _ _ := rfl

theorem reverse_of_find? {name : Text} {n m : Node} (hn : r.find? name = some n)
    (hm : r'.find? name = some m) (hroute : m.route = n.route) (args : List Text) :
    r'.reverse name args = r.reverse name args := by
  rw [reverse, reverse, hn, hm]
  dsimp only
  rw [hroute]

theorem reverseWith_of_find? {name : Text} {n m : Node} (hn : r.find? name = some n)
    (hm : r'.find? name = some m) (hroute : m.route = n.route) (vars : Vars) :
    r'.reverseWith name vars = r.reverseWith name vars := by
  rw [reverseWith, reverseWith, hn, hm]
  dsimp only
  rw [hroute]

/-- Names lead to nodes that grew from those they led to. -/
theorem find?_of_register (hr : r.Reached) (hopen : r.routes.OpenAt place)
    (h : r.register place spec = some (.ok r')) :
    ∀ name n, r.find? name = some n → ∃ m, r'.find? name = some m ∧ n.GrewTo m := by
  intro name n hn
  have hnodup := (hr.register h).wellNamed.nodup
  obtain ⟨above, row, -, -, rfl⟩ := exists_of_register h
  obtain ⟨hmem, hname⟩ := Forest.find?_mem hn
  obtain ⟨grown, hnodes, hgrown⟩ := Forest.exists_nodes_put (r.describe spec above) hopen
  obtain ⟨m, hm, hgrew⟩ := Forest.exists_mem_of_grewTo hgrown n hmem
  have hmem' : m ∈ (r.routes.put (r.describe spec above) place).nodes := by
    rw [hnodes]
    exact List.mem_append_left _ hm
  exact ⟨m, (Forest.find?_eq_some_iff hnodup).2 ⟨hmem', by rw [hgrew.1, hname]⟩, hgrew⟩

/-- A route registered where the forest is open disturbs nothing. -/
theorem leaves_of_register (hr : r.Reached) (hopen : r.routes.OpenAt place)
    (h : r.register place spec = some (.ok r')) : r.Leaves r' (r'.nodeAt? (r.nextPlace place)) := by
  have hnamed := find?_of_register hr hopen h
  obtain ⟨above, row, hspot, -, rfl⟩ := exists_of_register h
  refine ⟨fun path hfound => ?_, fun path hnone => ⟨rfl, ?_⟩, hnamed, fun name hname args => ?_,
    fun name hname vars => ?_⟩
  · obtain ⟨found, hfound⟩ := Option.ne_none_iff_exists'.1 hfound
    have hmatch : r.routes.match? (Template.trimSlash r.settings.skipTrailingSlash path) = some found := hfound
    rw [RouteMatch.outcome, RouteMatch.outcome, matchPath, matchPath]
    dsimp only
    rw [Forest.map_match?_put _ hopen, hmatch]
    rfl
  · have hmiss : r.routes.match? (Template.trimSlash r.settings.skipTrailingSlash path) = none := hnone
    rw [matchPath]
    dsimp only
    rw [Forest.match?_put_of_none _ hopen hmiss, nextPlace_eq hspot]
    cases (r.describe spec above).captures? (Template.trimSlash r.settings.skipTrailingSlash path) with
    | none => exact .inl rfl
    | some vars => exact .inr ⟨_, Forest.at?_put_new _ hspot, vars, rfl⟩
  · obtain ⟨n, hn⟩ := Option.ne_none_iff_exists'.1 hname
    obtain ⟨m, hm, hroute, -⟩ := hnamed name n hn
    exact reverse_of_find? hn hm hroute args
  · obtain ⟨n, hn⟩ := Option.ne_none_iff_exists'.1 hname
    obtain ⟨m, hm, hroute, -⟩ := hnamed name n hn
    exact reverseWith_of_find? hn hm hroute vars

/-- An attempt where the forest is open disturbs nothing, be the route accepted or refused. -/
theorem leaves_attempt (hr : r.Reached) (hopen : r.routes.OpenAt place) (spec : Route.Spec) :
    r.Leaves (r.attempt place spec) (r.added? place spec) := by
  rw [attempt_eq, added?]
  cases hregister : r.register place spec with
  | none => exact .refl r none
  | some result =>
      cases result with
      | error e => exact .refl r none
      | ok r' => exact leaves_of_register hr hopen hregister

/-- A registration in its turn disturbs nothing, be it accepted or refused.  Every route that was registered is
there under its name, and of all routes that capture a path it is the one registered first that matches. -/
theorem InTurn.undisturbed (h : r.InTurn log latest) :
    (∀ place, place <+: latest → ∀ spec, r.Leaves (r.attempt place spec) (r.added? place spec)) ∧
      (∀ route ∈ log, ∃ n, r.find? route.qualifiedName = some n ∧ n.route = route) ∧
      ∀ path, (r.matchPath path).outcome =
        (log.findSome? fun route => (route.captures? (r.matchPath path).path).map (route, ·),
          (r.matchPath path).path) := by
  obtain ⟨hopen, hlog⟩ := h.openAt_and_routes_eq
  refine ⟨fun place hplace spec => leaves_attempt h.reached (hopen.ancestor hplace) spec,
    fun route hroute => ?_, fun path => ?_⟩
  · rw [← hlog] at hroute
    obtain ⟨n, hn, rfl⟩ := List.mem_map.1 hroute
    exact ⟨n, h.reached.find?_qualifiedName hn, rfl⟩
  · rw [RouteMatch.outcome, ← hlog, ← Forest.map_match?]
    rfl

/-- Under a route with one route under it, a second one for some of the same paths. -/
theorem undisturbed_of_overlap :
    let top : Route := ⟨"a".toList, "a".toList, "/a".toList, true, {}⟩
    let under : Route := ⟨"n".toList, "a:n".toList, "/a/<<n:int>>".toList, true, {}⟩
    let r : Router Unit := { routes := .cons top (.cons under .nil .nil) .nil }
    let spec : Route.Spec := ⟨"s".toList, "<<s:slug>>".toList, true⟩
    (r.InTurn [top, under] [0, 0] ∧ [0] <+: [0, 0]) ∧
      r.Leaves (r.attempt [0] spec) (r.added? [0] spec) ∧
      (r.matchPath "/a/7".toList).outcome = (some (under, ⟨[("n".toList, "7".toList)]⟩), "/a/7".toList) ∧
      ((r.attempt [0] spec).matchPath "/a/7".toList).outcome = (r.matchPath "/a/7".toList).outcome ∧
      (r.matchPath "/a/x".toList).found = none ∧
      ((r.attempt [0] spec).matchPath "/a/x".toList).found =
        (r.added? [0] spec).map (·, ⟨[("s".toList, "x".toList)]⟩) := by
  intro top under r spec
  let r₀ : Router Unit := {}
  let r₁ : Router Unit := { routes := .cons top .nil .nil }
  have hregister₀ : r₀.register [] ⟨"a".toList, "/a".toList, true⟩ = some (.ok r₁) := rfl
  have hregister₁ : r₁.register [0] ⟨"n".toList, "<<n:int>>".toList, true⟩ = some (.ok r) := rfl
  have hstart : r₀.InTurn [] [] := .ofSettings (s := {}) rfl
  have htop : r₁.InTurn [top] [0] := hstart.register (List.prefix_refl []) hregister₀ rfl
  have hunder : r.InTurn [top, under] [0, 0] := htop.register (List.prefix_refl [0]) hregister₁ rfl
  have hplace : [0] <+: [0, 0] := ⟨[0], rfl⟩
  exact ⟨⟨hunder, hplace⟩, hunder.undisturbed.1 [0] hplace spec, by decide +kernel, by decide +kernel,
    by decide +kernel, by decide +kernel⟩

-- Out of turn, under the first of two routes, a path is taken from the second.
example :
    let first : Route := ⟨"a".toList, "a".toList, "/a".toList, true, {}⟩
    let second : Route := ⟨"z".toList, "z".toList, "/a/<<z:slug>>".toList, true, {}⟩
    let r : Router Unit := { routes := .cons first .nil (.cons second .nil .nil) }
    (r.matchPath "/a/b".toList).outcome.1.map (·.1.qualifiedName) = some "z".toList ∧
      ((r.attempt [0] ⟨"b".toList, "b".toList, true⟩).matchPath "/a/b".toList).outcome.1.map
        (·.1.qualifiedName) = some "a:b".toList := by
  decide +kernel

end Router

end Signpost
