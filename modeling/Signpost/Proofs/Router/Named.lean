import Signpost.Proofs.Router.Dispatch

/-!
# Dispatching by name and by path

*One route.*  A route is dispatched to by its name, with a target rebuilt from variables, or by a path that
matches it.  If the target rebuilt is such a path, and no escape can be in it and nothing is cut off it, both
ways in run the one route of that name, each with its own variables, and if the target is not read, both fail
alike (`Router.Reached.named_cases`).

*The same variables.*  A match binds the names in an order of its own.  If its variables are the same map as
those that were given, the two runs have the same result and make the same calls
(`Router.Reached.named_eq_matched`), however long the target is and whether the route has a handler or not.
-/

namespace Signpost

namespace Vars

/-! ## Variables as a map -/

/-- No name is bound twice. -/
def Distinct (v : Vars) : Prop := (v.bindings.map Prod.fst).Nodup

/-- Two maps bind the same names to the same texts, in whatever order. -/
structure Same (v w : Vars) : Prop where
  /-- The first binds no name twice. -/
  left : v.Distinct
  /-- Nor does the second. -/
  right : w.Distinct
  /-- Both give the same answer for every name. -/
  get? : ∀ name, v.get? name = w.get? name

theorem mem_insertInto {name value n : Text} : ∀ {l : List (Text × Text)},
    n ∈ (insertInto name value l).map Prod.fst → n = name ∨ n ∈ l.map Prod.fst
  | [], h => .inl (by simpa [insertInto] using h)
  | (m, w) :: l, h => by
      rw [insertInto] at h
      by_cases hm : m = name
      · rw [if_pos hm] at h
        rcases List.mem_cons.1 h with rfl | h
        · exact .inl rfl
        · exact .inr (List.mem_cons_of_mem _ h)
      · rw [if_neg hm] at h
        rcases List.mem_cons.1 h with rfl | h
        · exact .inr List.mem_cons_self
        · exact (mem_insertInto h).imp_right (List.mem_cons_of_mem _)

theorem nodup_insertInto {name value : Text} : ∀ {l : List (Text × Text)}, (l.map Prod.fst).Nodup →
    ((insertInto name value l).map Prod.fst).Nodup
  | [], _ => by simp [insertInto]
  | (m, w) :: l, h => by
      obtain ⟨hfirst, hrest⟩ := List.nodup_cons.1 h
      rw [insertInto]
      by_cases hm : m = name
      · rw [if_pos hm]
        exact List.nodup_cons.2 ⟨hm ▸ hfirst, hrest⟩
      · rw [if_neg hm]
        exact List.nodup_cons.2 ⟨fun hmem => (mem_insertInto hmem).elim hm hfirst, nodup_insertInto hrest⟩

theorem Distinct.insert {v : Vars} (h : v.Distinct) (name value : Text) : (v.insert name value).Distinct :=
  nodup_insertInto h

theorem distinct_empty : empty.Distinct := List.nodup_nil

end Vars

/-- A match binds no name twice. -/
theorem Pattern.distinct_bind (names : List Text) (captures : List (Text × Text)) :
    (bind names captures).Distinct := by
  refine List.foldlRecOn names _ Vars.distinct_empty fun v hv name _ => ?_
  cases captures.lookup name with
  | none => exact hv
  | some text => exact hv.insert name text

theorem Route.distinct_of_captures? {route : Route} {path : Text} {vars : Vars}
    (h : route.captures? path = some vars) : vars.Distinct := by
  unfold captures? at h
  split at h
  · obtain ⟨captures, -, rfl⟩ := Option.map_eq_some_iff.1 h
    exact Pattern.distinct_bind _ _
  · cases h

/-- The verdict of a hook is one on the variables as a map. -/
def Hook.ReadsMap {ι : Type} (h : Hook ι) : Prop :=
  ∀ (node : Node) (vars vars' : Vars) (uri : Uri), vars.Same vars' →
    h.verdict ⟨node, vars, uri⟩ = h.verdict ⟨node, vars', uri⟩

/-- A call told of other variables. -/
def Event.withVars {ι : Type} (vars : Vars) : Event ι → Event ι :=
  Event.retell fun ctx => { ctx with vars := vars }

namespace Router

variable {ι : Type} {r : Router ι} {name rest : Text} {vars matched : Vars} {node : Node}

theorem exists_of_reverseWith {url : Text} (h : r.reverseWith name vars = .ok url) :
    ∃ node, r.find? name = some node ∧ node.route.urlWith vars = .ok url := by
  unfold reverseWith at h
  cases hfind : r.find? name with
  | none =>
      rw [hfind] at h
      cases h
  | some node =>
      rw [hfind] at h
      exact ⟨node, rfl, h⟩

theorem find?_of_matchPath {path : Text} (hr : r.Reached)
    (hfound : (r.matchPath path).found = some (node, matched)) :
    r.find? node.route.qualifiedName = some node := by
  obtain ⟨before, after, hnodes, -, -⟩ := Forest.match?_eq_some_iff.1 hfound
  exact hr.find?_qualifiedName (by rw [hnodes]; simp)

/-- A target rebuilt for the route that it matches is read both ways or neither.  If it is, both ways run that
route. -/
theorem Reached.named_cases (hr : r.Reached) (hurl : r.reverseWith name vars = .ok ('/' :: rest))
    (hpercent : '%' ∉ rest) (hquery : '?' ∉ rest) (hfragment : '#' ∉ rest)
    (hfound : (r.matchPath ('/' :: rest)).found = some (node, matched))
    (hname : node.route.qualifiedName = name) :
    (∃ f, r.tryDispatchNamed name vars = (.error f, []) ∧ r.tryDispatch ('/' :: rest) = (.error f, [])) ∨
    ∃ uri, Uri.ofTarget ('/' :: rest) = .ok uri ∧ r.tryDispatchNamed name vars = r.run ⟨node, vars, uri⟩ ∧
      r.tryDispatch ('/' :: rest) = r.run ⟨node, matched, uri⟩ := by
  obtain ⟨named, hfind, hfill⟩ := exists_of_reverseWith hurl
  -- No other route has the name of the route that matches.
  obtain rfl : named = node := by
    have hmatched := find?_of_matchPath hr hfound
    rw [hname, hfind] at hmatched
    exact Option.some.inj hmatched
  cases hok : Uri.ofTarget ('/' :: rest) with
  | error f =>
      have hnamed : r.tryDispatchNamed name vars = (.error f, []) := by
        simp only [tryDispatchNamed, hfind, hfill, hok]
      refine .inl ⟨f, hnamed, ?_⟩
      rw [tryDispatch, hok]
  | ok uri =>
      have hnamed : r.tryDispatchNamed name vars = r.run ⟨named, vars, uri⟩ := by
        simp only [tryDispatchNamed, hfind, hfill, hok]
      refine .inr ⟨uri, rfl, hnamed, ?_⟩
      rw [tryDispatch_of_ofTarget hok, Uri.decodedPath_of_plain hok hpercent hquery hfragment, runMatch, hfound]

/-- If the target rebuilt from some variables matches the route of the name with the same variables, a dispatch
by name and one by this target have the same result and make the same calls, each told of the same route,
target and variables.  Only the order of the bindings may be another one, and no hook is to see it. -/
theorem Reached.named_eq_matched (hr : r.Reached) (hurl : r.reverseWith name vars = .ok ('/' :: rest))
    (hpercent : '%' ∉ rest) (hquery : '?' ∉ rest) (hfragment : '#' ∉ rest)
    (hfound : (r.matchPath ('/' :: rest)).found = some (node, matched))
    (hname : node.route.qualifiedName = name) :
    (matched = vars → r.tryDispatchNamed name vars = r.tryDispatch ('/' :: rest)) ∧
    (vars.Distinct → (∀ n, matched.get? n = vars.get? n) → (∀ h ∈ r.hooks, h.ReadsMap) →
      r.tryDispatchNamed name vars = ((r.tryDispatch ('/' :: rest)).1,
        (r.tryDispatch ('/' :: rest)).2.map (Event.withVars vars))) := by
  rcases hr.named_cases hurl hpercent hquery hfragment hfound hname with
    ⟨f, hnamed, hpath⟩ | ⟨uri, -, hnamed, hpath⟩
  · rw [hnamed, hpath]
    exact ⟨fun _ => rfl, fun _ _ _ => rfl⟩
  · rw [hnamed, hpath]
    refine ⟨fun hsame => by rw [hsame], fun hvars hget hhooks => ?_⟩
    obtain ⟨_, _, -, hcaptures, -⟩ := Forest.match?_eq_some_iff.1 hfound
    have hsame : matched.Same vars := ⟨Route.distinct_of_captures? hcaptures, hvars, hget⟩
    exact run_retell (fun ctx => { ctx with vars := vars }) ⟨node, matched, uri⟩ rfl rfl rfl rfl rfl
      fun h hh => (hhooks h hh node matched vars uri hsame).symm

/-- Two placeholders, a hook that refuses one value, and the variables in another order than that of the
match. -/
theorem named_eq_matched_of_order :
    let hook : Hook Nat :=
      ⟨1, fun ctx => if ctx.vars.get? "n".toList = some "7".toList then some (.ofCode .invalid) else none⟩
    let node : Node := ⟨⟨"a".toList, "a".toList, "/<<m:int>>/<<n:int>>".toList, true, {}⟩, .nil⟩
    let r : Router Nat :=
      { routes := node.toForest, hooks := [hook], onPageChange := some 0, afterPageChange := some 2 }
    let vars := (Vars.empty.insert "n".toList "7".toList).insert "m".toList "5".toList
    let matched := (Vars.empty.insert "m".toList "5".toList).insert "n".toList "7".toList
    let uri : Uri := { path := "/5/7".toList, query := none }
    (r.Reached ∧ r.reverseWith "a".toList vars = .ok "/5/7".toList ∧
        (r.matchPath "/5/7".toList).found = some (node, matched) ∧ matched ≠ vars ∧
        vars.Distinct ∧ (∀ n, matched.get? n = vars.get? n) ∧ ∀ h ∈ r.hooks, h.ReadsMap) ∧
      r.tryDispatchNamed "a".toList vars = ((r.tryDispatch "/5/7".toList).1,
        (r.tryDispatch "/5/7".toList).2.map (Event.withVars vars)) ∧
      r.tryDispatch "/5/7".toList = (.error (.ofCode .invalid),
        [.pageChange 0 ⟨node, matched, uri⟩, .hook 1 ⟨node, matched, uri⟩ (some (.ofCode .invalid))]) := by
  intro hook node r vars matched uri
  let r₀ : Router Nat := {}
  let r₁ : Router Nat := { routes := node.toForest }
  have hstart : r₀.Reached := .ofSettings (s := {}) rfl
  have hregister : r₀.register [] ⟨"a".toList, "/<<m:int>>/<<n:int>>".toList, true⟩ = some (.ok r₁) := rfl
  have hr : r.Reached :=
    (((hstart.register hregister).addHook hook).setOnPageChange 0).setAfterPageChange 2
  have hurl : r.reverseWith "a".toList vars = .ok "/5/7".toList := rfl
  have hfound : (r.matchPath "/5/7".toList).found = some (node, matched) := by decide +kernel
  have hvars : vars.Distinct := (Vars.distinct_empty.insert _ _).insert _ _
  have hget : ∀ n, matched.get? n = vars.get? n := by
    intro n
    simp only [matched, vars, Vars.get?_insert]
    by_cases hm : n = "m".toList
    · rw [if_pos hm, if_pos hm, hm, if_neg (by decide)]
    · rw [if_neg hm, if_neg hm]
  have hhooks : ∀ h ∈ r.hooks, h.ReadsMap := by
    intro h hh
    obtain rfl := List.mem_singleton.1 hh
    intro node vars vars' uri hsame
    dsimp only [hook]
    rw [hsame.get?]
  have hok : Uri.ofTarget "/5/7".toList = .ok uri := rfl
  have hrun : r.tryDispatch "/5/7".toList = r.run ⟨node, matched, uri⟩ := by
    have hpath : uri.decodedPath = "/5/7".toList := rfl
    rw [tryDispatch_of_ofTarget hok, hpath, runMatch, hfound]
  exact ⟨⟨hr, hurl, hfound, by decide, hvars, hget, hhooks⟩,
    (hr.named_eq_matched hurl (by decide) (by decide) (by decide) hfound rfl).2 hvars hget hhooks, hrun⟩

end Router

end Signpost
