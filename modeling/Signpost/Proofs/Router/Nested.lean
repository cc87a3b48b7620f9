import Signpost.Proofs.Router.Register
import Signpost.Proofs.Template.Join

/-!
# Nested templates

A route that is registered under another has the template of that one joined to its own part and trimmed.  Down a
chain of routes this comes to all parts joined and trimmed once, since a slash that was trimmed on the way does
not show in what is joined to it (`Router.Nested.exists_route`).  It does not matter whether parts are joined
beforehand or registered as routes between (`Router.Nested.composes`).
-/

namespace Signpost

namespace Router

variable {ι : Type}

/-- The route at a place was registered under others, starting at the top level: with `root` as the template
there, while the policy on trailing slashes was `enabled`, and with `suffixes` as the parts added on the way down.
Anything else may have been registered or changed meanwhile. -/
inductive Nested : Router ι → Place → Bool → Template → List Template → Prop where
  /-- The first route of the chain. -/
  | top {r r' : Router ι} {spec : Route.Spec} : r.register [] spec = some (.ok r') →
      Nested r' (r.nextPlace []) r.settings.skipTrailingSlash spec.path []
  /-- A route under the last one. -/
  | under {r r' : Router ι} {place : Place} {enabled : Bool} {root : Template} {suffixes : List Template}
      {spec : Route.Spec} : Nested r place enabled root suffixes → r.register place spec = some (.ok r') →
      Nested r' (r.nextPlace place) enabled root (suffixes ++ [spec.path])
  /-- A route elsewhere. -/
  | elsewhere {r r' : Router ι} {place other : Place} {enabled : Bool} {root : Template}
      {suffixes : List Template} {spec : Route.Spec} : Nested r place enabled root suffixes →
      r.register other spec = some (.ok r') → Nested r' place enabled root suffixes
  /-- Another change. -/
  | adjust {r r' : Router ι} {place : Place} {enabled : Bool} {root : Template} {suffixes : List Template} :
      Nested r place enabled root suffixes → r.Adjusts r' → Nested r' place enabled root suffixes

variable {r r' : Router ι} {place : Place} {enabled : Bool} {root : Template} {suffixes : List Template}

/-- A registration leaves the routes that are there in their places. -/
theorem routeAt?_of_register {other : Place} {spec : Route.Spec} (h : r.register other spec = some (.ok r'))
    {route : Route} (hroute : r.routes.routeAt? place = some route) : r'.routes.routeAt? place = some route := by
  obtain ⟨above, row, hspot, -, rfl⟩ := exists_of_register h
  rw [Forest.routeAt?_put _ hspot, if_neg, hroute]
  rintro rfl
  rw [Forest.routeAt?, Forest.at?_next hspot] at hroute
  cases hroute

/-- A route registered under another has its template joined to its own part and trimmed. -/
theorem routeAt?_nextPlace {spec : Route.Spec} (h : r.register place spec = some (.ok r')) {route : Route}
    (hroute : r.routes.routeAt? place = some route) :
    r'.routes.routeAt? (r.nextPlace place) = some (route.child spec) := by
  obtain ⟨above, row, hspot, -, rfl⟩ := exists_of_register h
  obtain ⟨node, hnode, rfl⟩ := Option.map_eq_some_iff.1 hroute
  cases place with
  | nil => simp at hnode
  | cons i place =>
      rw [Forest.routeAt?, nextPlace_eq hspot, Forest.at?_put_new _ hspot]
      rw [Forest.spot?, hnode] at hspot
      cases hspot
      rfl

/-- The last route of a chain has all parts joined and trimmed for its template, under the policy of the first. -/
theorem Nested.exists_route (h : r.Nested place enabled root suffixes) : ∃ route,
    r.routes.routeAt? place = some route ∧ route.settings.skipTrailingSlash = enabled ∧
      route.path = Template.trimSlash enabled (suffixes.foldl Template.join root) := by
  induction h with
  | @top r r' spec h =>
      obtain ⟨above, row, hspot, -, rfl⟩ := exists_of_register h
      rw [Forest.routeAt?, nextPlace_eq hspot, Forest.at?_put_new _ hspot]
      cases hspot
      exact ⟨_, rfl, rfl, rfl⟩
  | @under r r' place enabled root suffixes spec _ h ih =>
      obtain ⟨route, hroute, hpolicy, hpath⟩ := ih
      -- The route inherits the policy, so it is trimmed by that of the first one, whatever the router has now.
      refine ⟨_, routeAt?_nextPlace h hroute, hpolicy, ?_⟩
      rw [Route.child, hpolicy, hpath, Template.join_trimSlash, List.foldl_append, List.foldl_cons,
        List.foldl_nil]
  | elsewhere _ h ih =>
      obtain ⟨route, hroute, hrest⟩ := ih
      exact ⟨route, routeAt?_of_register h hroute, hrest⟩
  | adjust _ h ih => rwa [h.routes_eq]

/-- The template of the last route of a chain is that of all parts joined and trimmed once, and its placeholders
are those of all parts in order.  Two chains that group the same parts end in the same template, for joining is
associative.  Where two parts are joined there is one slash. -/
theorem Nested.composes (h : r.Nested place enabled root suffixes) :
    (∃ node, r.nodeAt? place = some node ∧
      node.route.path = Template.trimSlash enabled (suffixes.foldl Template.join root) ∧
      node.route.params = Template.params root ++ suffixes.flatMap Template.params) ∧
    (∀ (other : Router ι) (otherPlace : Place) (otherRoot start : Template) (otherSuffixes parts : List Template),
      other.Nested otherPlace enabled otherRoot otherSuffixes →
      Template.Grouping start parts root suffixes → Template.Grouping start parts otherRoot otherSuffixes →
      (other.nodeAt? otherPlace).map (·.route.path) = (r.nodeAt? place).map (·.route.path)) ∧
    (∀ a b c, Template.join (Template.join a b) c = Template.join a (Template.join b c)) ∧
    ∀ p s, ∃ p' s' i j, p = p' ++ List.replicate i '/' ∧ s = List.replicate j '/' ++ s' ∧
      Template.join p s = p' ++ '/' :: s' ∧ p'.getLast? ≠ some '/' ∧ s'.head? ≠ some '/' := by
  obtain ⟨route, hroute, -, hpath⟩ := h.exists_route
  obtain ⟨node, hnode, rfl⟩ := Option.map_eq_some_iff.1 hroute
  refine ⟨⟨node, hnode, hpath, ?_⟩, ?_, Template.join_assoc, Template.join_eq⟩
  · rw [Route.params, hpath, Template.params, Template.placeholders_trimSlash]
    exact Template.params_foldl_join root suffixes
  · intro other otherPlace otherRoot start otherSuffixes parts hother hgrouping hgrouping'
    obtain ⟨route', hroute', -, hpath'⟩ := hother.exists_route
    obtain ⟨node', hnode', rfl⟩ := Option.map_eq_some_iff.1 hroute'
    rw [nodeAt?, nodeAt?, hnode', hnode, Option.map_some, Option.map_some, hpath', hpath,
      hgrouping.foldl_join, hgrouping'.foldl_join]

/-- Under a template with slashes at its end two parts without a segment, and one with slashes at its end; then
the same with the first two parts joined beforehand. -/
theorem composes_of_slashes : ∃ (r other : Router Unit) (place otherPlace : Place),
    r.Nested place true "/a//".toList [[], "//".toList, "<<id:int>>//".toList] ∧
      other.Nested otherPlace true "/a//".toList ["/".toList, "<<id:int>>//".toList] ∧
      (∃ node, r.nodeAt? place = some node ∧ node.route.path = "/a/<<id:int>>/".toList ∧
        node.route.params = ["id".toList]) ∧
      (other.nodeAt? otherPlace).map (·.route.path) = (r.nodeAt? place).map (·.route.path) := by
  let s : Settings := { skipTrailingSlash := true }
  let a : Route := ⟨"a".toList, "a".toList, "/a/".toList, true, s⟩
  let b : Route := ⟨"b".toList, "a:b".toList, "/a".toList, true, s⟩
  let c : Route := ⟨"c".toList, "a:b:c".toList, "/a".toList, true, s⟩
  let d : Route := ⟨"d".toList, "a:b:c:d".toList, "/a/<<id:int>>/".toList, true, s⟩
  let e : Route := ⟨"d".toList, "a:b:d".toList, "/a/<<id:int>>/".toList, true, s⟩
  let r₀ : Router Unit := { settings := s }
  let r₁ : Router Unit := { r₀ with routes := .cons a .nil .nil }
  let r₂ : Router Unit := { r₀ with routes := .cons a (.cons b .nil .nil) .nil }
  let r₃ : Router Unit := { r₀ with routes := .cons a (.cons b (.cons c .nil .nil) .nil) .nil }
  let r₄ : Router Unit := { r₀ with routes := .cons a (.cons b (.cons c (.cons d .nil .nil) .nil) .nil) .nil }
  let other : Router Unit := { r₀ with routes := .cons a (.cons b (.cons e .nil .nil) .nil) .nil }
  have h₁ : r₀.register [] ⟨"a".toList, "/a//".toList, true⟩ = some (.ok r₁) := by
    rw [register_eq_put]
    rfl
  have h₂ : r₁.register [0] ⟨"b".toList, [], true⟩ = some (.ok r₂) := by
    rw [register_eq_put]
    rfl
  have h₃ : r₂.register [0, 0] ⟨"c".toList, "//".toList, true⟩ = some (.ok r₃) := by
    rw [register_eq_put]
    rfl
  have h₄ : r₃.register [0, 0, 0] ⟨"d".toList, "<<id:int>>//".toList, true⟩ = some (.ok r₄) := by
    rw [register_eq_put]
    rfl
  have hnested : r₄.Nested [0, 0, 0, 0] true "/a//".toList [[], "//".toList, "<<id:int>>//".toList] :=
    (((Nested.top h₁).under h₂).under h₃).under h₄
  have hjoined : r₁.register [0] ⟨"b".toList, "/".toList, true⟩ = some (.ok r₂) := by
    rw [register_eq_put]
    rfl
  have hlast : r₂.register [0, 0] ⟨"d".toList, "<<id:int>>//".toList, true⟩ = some (.ok other) := by
    rw [register_eq_put]
    rfl
  have hother : other.Nested [0, 0, 0] true "/a//".toList ["/".toList, "<<id:int>>//".toList] :=
    ((Nested.top h₁).under hjoined).under hlast
  have hsingle : Template.Grouping "/a//".toList [[], "//".toList, "<<id:int>>//".toList] "/a//".toList
      [[], "//".toList, "<<id:int>>//".toList] :=
    ⟨[], [[[]], ["//".toList], ["<<id:int>>//".toList]], rfl, by simp, rfl, rfl⟩
  have hpaired : Template.Grouping "/a//".toList [[], "//".toList, "<<id:int>>//".toList] "/a//".toList
      ["/".toList, "<<id:int>>//".toList] :=
    ⟨[], [[[], "//".toList], ["<<id:int>>//".toList]], rfl, by simp, rfl, rfl⟩
  obtain ⟨⟨node, hnode, hpath, hparams⟩, hgrouped, -, -⟩ := hnested.composes
  exact ⟨r₄, other, _, _, hnested, hother, ⟨node, hnode, hpath, hparams⟩,
    hgrouped other _ _ _ _ _ hother hsingle hpaired⟩

end Router

end Signpost
