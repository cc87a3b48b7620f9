import Signpost.Proofs.Router.Dispatch
import Signpost.Proofs.Router.Register

/-!
# What is registered is checked

*One registration.*  A route is registered at the top level or under a route.  The result is the error of the
first check that finds its fault, and the router is as it was, or the router has this one route more, at the
end of its row (`Router.OneMore`).

*All routes.*  The settings of a router that can be reached and those of its routes differ in nothing but the
policy on trailing slashes (`Router.Reached.settings_eq`).  So if a router compiles at registration, all its
routes did (`Router.Reached.exists_pattern`).  A template that compiles is within the limits of its settings
(`Route.withinLimits_of_pattern`), and a route matches by its compiled template alone.  So no route beyond its
limits is matched, be it compiled at registration or not (`Router.Reached.checked`).  A dispatch by name matches
no path, so it is not held to the limits.
-/

namespace Signpost

/-- Whether the template of a route is within the limits of its settings. -/
def Route.WithinLimits (r : Route) : Prop :=
  Text.bytes r.path ≤ r.settings.maxPatternLength ∧ r.path.count '/' + 1 ≤ r.settings.maxPathSegments

/-- A template that compiles is within its limits. -/
theorem Route.withinLimits_of_pattern {r : Route} {p : Pattern} (hp : r.pattern = .ok p) :
    r.WithinLimits := by
  rw [pattern, Pattern.compile] at hp
  simp only [Template.length_segments] at hp
  split at hp
  · cases hp
  · next hlength =>
      split at hp
      · cases hp
      · next hsegments => exact ⟨Nat.le_of_not_gt hlength, Nat.le_of_not_gt hsegments⟩

/-- A route that captures a path is within its limits. -/
theorem Route.withinLimits_of_captures? {r : Route} {path : Text} {vars : Vars}
    (h : r.captures? path = some vars) : r.WithinLimits := by
  obtain ⟨p, hp, -⟩ := exists_pattern h
  exact withinLimits_of_pattern hp

namespace Router

variable {ι : Type}

/-! ## Settings and patterns of all routes -/

theorem describe_settings (r : Router ι) (spec : Route.Spec) (above : Option Route) :
    (r.describe spec above).settings = (above.map Route.settings).getD r.settings := by
  cases above <;> rfl

/-- Routes that are accepted compile, if their settings ask for it. -/
theorem exists_pattern_of_accept {r : Router ι} {spec : Route.Spec} {above : Option Route} {row : Forest}
    {new : Route} (h : r.accept spec above row = .ok new) (hcompile : new.settings.compileOnRegister = true) :
    ∃ p, new.pattern = .ok p := by
  unfold accept at h
  dsimp only at h
  split at h
  · cases h
  · obtain ⟨hname, rfl⟩ := Route.check_ok h
    rw [Route.check_of_checkName hname, if_pos hcompile] at h
    cases hpattern : (r.describe spec above).pattern with
    | ok p => exact ⟨p, rfl⟩
    | error e =>
        rw [hpattern] at h
        cases h

/-- What holds of each route when it is accepted, and does not depend on the policy, holds of all routes of a
router that can be reached. -/
theorem Reached.forall_routes {P : Settings → Route → Prop}
    (hpolicy : ∀ s enabled route, P s route → P { s with skipTrailingSlash := enabled } route)
    (hnew : ∀ (r : Router ι) spec above row, (∀ parent ∈ above, P r.settings parent) →
      r.accept spec above row = .ok (r.describe spec above) → P r.settings (r.describe spec above))
    {r : Router ι} (hr : r.Reached) : ∀ route ∈ r.routes.routes, P r.settings route := by
  induction hr with
  | ofSettings h =>
      rw [routes_of_ofSettings h]
      exact fun route hroute => by cases hroute
  | @register r r' place spec _ h ih =>
      obtain ⟨above, row, hspot, haccept, rfl⟩ := exists_of_register h
      intro route hroute
      rcases Forest.mem_routes_put hroute with rfl | hroute
      · exact hnew r spec above row
          (fun parent hparent => ih parent (Forest.mem_routes_of_spot? hspot parent hparent)) haccept
      · exact ih route hroute
  | skipTrailingSlash enabled _ ih => exact fun route hroute => hpolicy _ enabled route (ih route hroute)
  | setOnError _ _ ih => exact ih
  | setOnPageChange _ _ ih => exact ih
  | setAfterPageChange _ _ ih => exact ih
  | addHook _ _ ih => exact ih

/-- The settings of a route are those of its router, but for the policy on trailing slashes. -/
theorem Reached.settings_eq {r : Router ι} (hr : r.Reached) : ∀ route ∈ r.routes.routes,
    route.settings = { r.settings with skipTrailingSlash := route.settings.skipTrailingSlash } := by
  -- A route takes its settings from the one above, so by induction they are those of the router, or of the
  -- router as it was before its policy changed.
  refine hr.forall_routes
    (P := fun s route => route.settings = { s with skipTrailingSlash := route.settings.skipTrailingSlash })
    (fun _ _ _ h => h) fun r spec above row hparent _ => ?_
  cases above with
  | none => rfl
  | some parent => exact hparent parent rfl

/-- Every route whose settings ask for it compiled when it was registered. -/
theorem Reached.exists_pattern {r : Router ι} (hr : r.Reached) : ∀ route ∈ r.routes.routes,
    route.settings.compileOnRegister = true → ∃ p, route.pattern = .ok p :=
  hr.forall_routes (P := fun _ route => route.settings.compileOnRegister = true → ∃ p, route.pattern = .ok p)
    (fun _ _ _ h => h) fun _ _ _ _ _ haccept hcompile => exists_pattern_of_accept haccept hcompile

/-! ## Limits of what is matched -/

theorem withinLimits_of_found {r : Router ι} {path : Text} {node : Node} {vars : Vars}
    (hfound : (r.matchPath path).found = some (node, vars)) :
    node ∈ r.routes.nodes ∧ node.route.WithinLimits := by
  obtain ⟨_, _, hnodes, hcaptures, -⟩ := Forest.match?_eq_some_iff.1 hfound
  refine ⟨?_, Route.withinLimits_of_captures? hcaptures⟩
  rw [hnodes]
  exact List.mem_append_right _ List.mem_cons_self

/-- A dispatch by target fails before the first call, or it runs a route of the router within its limits. -/
theorem exists_run_of_tryDispatch (r : Router ι) (target : Text) :
    (∃ f, r.tryDispatch target = (.error f, []) ∧ (f.code = .invalid ∨ f.code = .notFound)) ∨
      ∃ ctx, r.tryDispatch target = r.run ctx ∧ ctx.node ∈ r.routes.nodes ∧
        ctx.node.route.WithinLimits := by
  cases hok : Uri.ofTarget target with
  | error f =>
      refine .inl ⟨f, ?_, .inl (code_of_ofTarget hok)⟩
      rw [tryDispatch, hok]
  | ok uri =>
      rw [tryDispatch_of_ofTarget hok, runMatch]
      cases hfound : (r.matchPath uri.decodedPath).found with
      | none => exact .inl ⟨_, rfl, .inr rfl⟩
      | some found => exact .inr ⟨⟨found.1, found.2, uri⟩, rfl, withinLimits_of_found hfound⟩

/-! ## Registering -/

/-- The router `r'` is `r` with one route more, at the end of the row at a place; `above` is the route above the
row, if it is not the top level. -/
structure OneMore (r r' : Router ι) (place : Place) (above : Option Route) (row : Forest) (new : Route) :
    Prop where
  /-- Only the routes change. -/
  rest : r' = { r with routes := r'.routes }
  /-- The settings are those of the route above, at the top level those of the router. -/
  settings : new.settings = (above.map Route.settings).getD r.settings
  /-- The row has the new route behind the nodes that were in it, with nothing under it. -/
  last : ∃ row', r'.routes.spot? none place = some (above, row') ∧ row'.tops = row.tops ++ [⟨new, .nil⟩]
  /-- The next place was free. -/
  free : r.nodeAt? (r.nextPlace place) = none
  /-- The new route has the next place. -/
  there : r'.nodeAt? (r.nextPlace place) = some ⟨new, .nil⟩
  /-- Every other place holds the route it held, or none as before. -/
  others : ∀ q, q ≠ r.nextPlace place → (r'.nodeAt? q).map Node.route = (r.nodeAt? q).map Node.route

theorem oneMore_put {r : Router ι} {place : Place} {above : Option Route} {row : Forest}
    (hspot : r.routes.spot? none place = some (above, row)) (spec : Route.Spec) :
    r.OneMore { r with routes := r.routes.put (r.describe spec above) place } place above row
      (r.describe spec above) where
  rest := rfl
  settings := r.describe_settings spec above
  last := ⟨_, Forest.spot?_put _ hspot, Forest.tops_append _ _⟩
  free := by
    rw [nextPlace_eq hspot]
    exact Forest.at?_next hspot
  there := by
    rw [nextPlace_eq hspot]
    exact Forest.at?_put_new _ hspot
  others q hq := by
    have hroute := Forest.routeAt?_put (r.describe spec above) hspot q
    rw [if_neg (by rwa [nextPlace_eq hspot] at hq)] at hroute
    exact hroute

/-- What is registered in a router is checked. -/
structure Checked (r : Router ι) : Prop where
  /-- Routes are registered at the top level and under the routes that are there. -/
  places : ∀ place spec, (∃ outcome, r.add place spec = some outcome) ↔
    place = [] ∨ ∃ n, r.nodeAt? place = some n
  /-- The result is the error of the first check that finds its fault; without a fault it is the next place, and
  the router is left with one route more. -/
  results : ∀ place spec above row, r.routes.spot? none place = some (above, row) →
    match Check.first? (r.describe spec above) row.tops with
    | some e => ∃ left, r.add place spec = some (.error e, left)
    | none => ∃ r', r.add place spec = some (.ok (r.nextPlace place), r') ∧
        r.OneMore r' place above row (r.describe spec above)
  /-- A registration that fails leaves the router as it was. -/
  refused : ∀ place spec e left, r.add place spec = some (.error e, left) → left = r
  /-- All routes of a router that compiles at registration compile, and are within the limits. -/
  compiled : r.settings.compileOnRegister = true → ∀ n ∈ r.routes.nodes,
    (∃ p, n.route.pattern = .ok p) ∧ n.route.WithinLimits
  /-- No route beyond its limits matches. -/
  matched : ∀ path n vars, (r.matchPath path).found = some (n, vars) → n.route.WithinLimits
  /-- No route beyond its limits is run by a dispatch. -/
  dispatched : ∀ target,
    (∃ f, r.tryDispatch target = (.error f, []) ∧ (f.code = .invalid ∨ f.code = .notFound)) ∨
      ∃ ctx, r.tryDispatch target = r.run ctx ∧ ctx.node ∈ r.routes.nodes ∧ ctx.node.route.WithinLimits

/-- In every router that can be reached, what is registered is checked. -/
theorem Reached.checked {r : Router ι} (hr : r.Reached) : r.Checked where
  places place spec := by
    rw [add_eq]
    cases place with
    | nil => simp [Forest.spot?]
    | cons i place =>
        simp only [Forest.spot?, nodeAt?]
        cases r.routes.at? (i :: place) <;> simp
  results place spec above row hspot := by
    rw [add_eq, hspot, Option.map_some, accept_eq, nextPlace_eq hspot]
    cases Check.first? (r.describe spec above) row.tops with
    | some e => exact ⟨r, rfl⟩
    | none => exact ⟨_, rfl, oneMore_put hspot spec⟩
  refused _ _ _ _ h := left_of_add h
  compiled hcompile n hn := by
    have hroute : n.route ∈ r.routes.routes := List.mem_map_of_mem hn
    obtain ⟨p, hp⟩ := hr.exists_pattern _ hroute (by rw [hr.settings_eq _ hroute]; exact hcompile)
    exact ⟨⟨p, hp⟩, Route.withinLimits_of_pattern hp⟩
  matched path n vars hfound := (withinLimits_of_found hfound).2
  dispatched target := r.exists_run_of_tryDispatch target

/-- A router with two routes, and what it has against nine others: one at a place that is not there, and the
last two have two faults each.  Those that are refused leave it with its routes. -/
theorem checked_of_two_routes :
    let s : Settings := { maxPatternLength := 14, maxPathSegments := 4 }
    let r : Router Unit := attempts { settings := s }
      [([], ⟨"a".toList, "/a".toList, true⟩), ([0], ⟨"b".toList, "//b".toList, true⟩)]
    let refused : List (Place × Route.Spec) :=
      [([1], ⟨"c".toList, "/c".toList, true⟩), ([0], ⟨"b".toList, "/c".toList, true⟩),
        ([], ⟨[], "/c".toList, true⟩), ([0], ⟨"c:d".toList, "/c".toList, true⟩),
        ([], ⟨"c".toList, "/ccccccccccccéé".toList, true⟩), ([0], ⟨"c".toList, "c/d/e".toList, true⟩),
        ([], ⟨"c".toList, "/<<c:raw(()>>".toList, true⟩),
        ([], ⟨"c:d".toList, "/ccccccccccccéé".toList, true⟩), ([], ⟨"a".toList, "/<<c:raw(()>>".toList, true⟩)]
    r.Checked ∧
      refused.map (fun (place, spec) => (r.add place spec).map fun (result, left) =>
        (result, left.routes == r.routes)) =
      [none, some (.error (.duplicateName "a:b".toList), true), some (.error (.invalidName [] .empty), true),
        some (.error (.invalidName "c:d".toList .colon), true), some (.error (.patternTooLong 17 14), true),
        some (.error (.tooManySegments 5 4), true),
        some (.error (.invalidPattern "/<<c:raw(()>>".toList (.regex .malformed)), true),
        some (.error (.invalidName "c:d".toList .colon), true),
        some (.error (.duplicateName "a".toList), true)] ∧
      r.routes.routes.map Route.path = ["/a".toList, "/a/b".toList] := by
  have hstart : (ofSettings { maxPatternLength := 14, maxPathSegments := 4 } :
      Except SettingsError (Router Unit)) = .ok { settings := { maxPatternLength := 14, maxPathSegments := 4 } } :=
    rfl
  exact ⟨((Reached.ofSettings hstart).attempts _).checked, by decide +kernel, by decide +kernel⟩

-- A route beyond its limits, registered without compiling: no path leads to it, but its name does.
example :
    let s : Settings := { compileOnRegister := false, maxPathSegments := 4 }
    let r : Router Unit :=
      { routes := .cons ⟨"a".toList, "a".toList, "/a/b/c/d".toList, true, s⟩ .nil .nil, settings := s }
    (r.tryDispatch "/a/b/c/d".toList).1.isOk = false ∧
      (r.tryDispatchNamed "a".toList .empty).1.isOk = true := by
  decide +kernel

end Router

end Signpost
