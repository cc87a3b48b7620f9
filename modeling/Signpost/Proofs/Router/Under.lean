import Signpost.Proofs.Reversal
import Signpost.Proofs.Router.Nested
import Signpost.Proofs.Template.Joint

/-!
# Routes under routes

*Registered under.*  A route below the top level was registered under the route above it, with a part of its own
for its template, and both are as they were then, whatever was done since (`Router.Under`).  In a router that can
be reached every route below the top level is of this kind (`Router.Reached.exists_under`).  So the placeholders
of a route begin with those of every route it lies under (`Router.Reached.params_prefix`).

*Rebuilding follows the tree.*  The template of a route is that of the route above joined to its own part and
trimmed.  Its path, rebuilt from values that are not empty and hold no slash, is the path of the route above
joined to the part filled and trimmed (`Router.Reached.followsTree`).
-/

namespace Signpost

namespace Route

variable {parent : Route} {spec : Spec}

theorem params_child (parent : Route) (spec : Spec) :
    (parent.child spec).params = parent.params ++ Template.params spec.path := by
  rw [params, child, Template.params, Template.placeholders_trimSlash, Template.placeholders_join,
    List.map_append]
  rfl

/-- The path of a route under another is rebuilt from the path of that one and the part of its own. -/
theorem url_child {args rest : List Text} {url more : Text} (hargs : ∀ v ∈ args, v ≠ [] ∧ '/' ∉ v)
    (hrest : ∀ v ∈ rest, v ≠ [] ∧ '/' ∉ v) (hlen : args.length = parent.params.length)
    (hlen' : rest.length = (Template.params spec.path).length) (h : parent.url args = .ok url)
    (hmore : Template.fill? spec.path rest = some more) :
    (parent.child spec).url (args ++ rest) =
      .ok (Template.trimSlash parent.settings.skipTrailingSlash (Template.join url more)) := by
  have hall : ∀ v ∈ args ++ rest, v ≠ [] ∧ '/' ∉ v := List.forall_mem_append.2 ⟨hargs, hrest⟩
  have hcount : (args ++ rest).length = (Template.params (Template.join parent.path spec.path)).length := by
    rw [Template.params, Template.placeholders_join, List.map_append, List.length_append, List.length_append,
      hlen, hlen']
    rfl
  have hjoin := Template.fill?_join hargs hrest hlen hlen' (url_eq_ok.1 h) hmore
  exact url_eq_ok.2 (Template.fill?_trimSlash hall hcount hjoin _)

end Route

namespace Router

variable {ι : Type}

/-! ## Registered under a route -/

/-- The route at `place` was registered under the route at `above`, as the specification describes it.  Anything
else may have been registered or changed since. -/
inductive Under : Router ι → Place → Place → Route.Spec → Prop where
  /-- It was registered last. -/
  | here {r r' : Router ι} {above : Place} {spec : Route.Spec} : above ≠ [] →
      r.register above spec = some (.ok r') → Under r' above (r.nextPlace above) spec
  /-- A route was registered since. -/
  | elsewhere {r r' : Router ι} {above place other : Place} {spec further : Route.Spec} :
      Under r above place spec → r.register other further = some (.ok r') → Under r' above place spec
  /-- Something else was changed since. -/
  | adjust {r r' : Router ι} {above place : Place} {spec : Route.Spec} :
      Under r above place spec → r.Adjusts r' → Under r' above place spec

variable {r r' : Router ι} {above place : Place} {spec : Route.Spec}

/-- Both routes are in their places, the lower one as it was made from the upper one. -/
theorem Under.exists_routes (h : r.Under above place spec) : ∃ parent,
    r.routes.routeAt? above = some parent ∧ r.routes.routeAt? place = some (parent.child spec) := by
  induction h with
  | @here r r' above spec habove h =>
      obtain ⟨i, above, rfl⟩ := List.exists_cons_of_ne_nil habove
      obtain ⟨parent, row, hspot, -⟩ := exists_of_register h
      obtain ⟨node, hnode, -⟩ := Option.map_eq_some_iff.1 hspot
      have hroute : r.routes.routeAt? (i :: above) = some node.route := by
        rw [Forest.routeAt?, hnode, Option.map_some]
      exact ⟨node.route, routeAt?_of_register h hroute, routeAt?_nextPlace h hroute⟩
  | elsewhere _ h ih =>
      obtain ⟨parent, hparent, hchild⟩ := ih
      exact ⟨parent, routeAt?_of_register h hparent, routeAt?_of_register h hchild⟩
  | adjust _ h ih => rwa [h.routes_eq]

/-- Every route below the top level was registered under the one above it. -/
theorem Reached.exists_under (hr : r.Reached) {i : Nat} {node : Node} (habove : above ≠ [])
    (hnode : r.nodeAt? (above ++ [i]) = some node) : ∃ spec, r.Under above (above ++ [i]) spec := by
  induction hr generalizing node with
  | ofSettings h => simp [nodeAt?, routes_of_ofSettings h] at hnode
  | @register r r' other spec hr h ih =>
      have hroute : r'.routes.routeAt? (above ++ [i]) = some node.route :=
        congrArg (Option.map Node.route) hnode
      obtain ⟨parent, row, hspot, -, rfl⟩ := exists_of_register h
      rw [Forest.routeAt?_put _ hspot] at hroute
      split at hroute
      · next hplace =>
          -- The new route: it was registered at the place above.
          obtain ⟨rfl, -⟩ := List.append_inj' hplace rfl
          rw [hplace, ← nextPlace_eq hspot]
          exact ⟨spec, .here habove h⟩
      · obtain ⟨old, hold, -⟩ := Option.map_eq_some_iff.1 hroute
        obtain ⟨earlier, hunder⟩ := ih hold
        exact ⟨earlier, hunder.elsewhere h⟩
  | skipTrailingSlash enabled _ ih => exact (ih hnode).imp fun _ h => h.adjust (.skipTrailingSlash enabled)
  | setOnError mark _ ih => exact (ih hnode).imp fun _ h => h.adjust (.setOnError mark)
  | setOnPageChange mark _ ih => exact (ih hnode).imp fun _ h => h.adjust (.setOnPageChange mark)
  | setAfterPageChange mark _ ih => exact (ih hnode).imp fun _ h => h.adjust (.setAfterPageChange mark)
  | addHook hook _ ih => exact (ih hnode).imp fun _ h => h.adjust (.addHook hook)

/-- The placeholders of a route begin with those of every route it lies under. -/
theorem Reached.params_prefix (hr : r.Reached) (habove : above ≠ []) {upper lower : Node}
    (hupper : r.nodeAt? above = some upper) {more : Place}
    (hlower : r.nodeAt? (above ++ more) = some lower) : upper.route.params <+: lower.route.params := by
  induction more using List.reverseRecOn generalizing lower with
  | nil =>
      rw [List.append_nil, hupper] at hlower
      cases hlower
      exact List.prefix_refl _
  | append_singleton more i ih =>
      rw [← List.append_assoc] at hlower
      have hne : above ++ more ≠ [] := List.append_ne_nil_of_left_ne_nil habove more
      obtain ⟨spec, hunder⟩ := hr.exists_under hne hlower
      obtain ⟨parent, hparent, hchild⟩ := hunder.exists_routes
      obtain ⟨middle, hmiddle, rfl⟩ := Option.map_eq_some_iff.1 hparent
      obtain ⟨node, hnode, hroute⟩ := Option.map_eq_some_iff.1 hchild
      cases hlower.symm.trans hnode
      rw [hroute, Route.params_child]
      exact (ih hmiddle).trans (List.prefix_append _ _)

/-! ## Rebuilding follows the tree -/

/-- Rebuilding paths follows the tree of a router. -/
structure FollowsTree (r : Router ι) : Prop where
  /-- Every route below the top level was registered under the one above it. -/
  registered : ∀ above i node, above ≠ [] → r.nodeAt? (above ++ [i]) = some node →
    ∃ spec, r.Under above (above ++ [i]) spec
  /-- The path of a route registered under another is the path of that one joined to the part of its own filled,
  and trimmed under the policy that the upper route keeps. -/
  rebuilt : ∀ above place spec, r.Under above place spec → ∃ parent child,
    r.nodeAt? above = some parent ∧ r.nodeAt? place = some child ∧
      ∀ args rest, args.length = parent.route.params.length →
        rest.length = (Template.params spec.path).length → (∀ v ∈ args ++ rest, v ≠ [] ∧ '/' ∉ v) →
          ∃ url more, parent.route.url args = .ok url ∧ Template.fill? spec.path rest = some more ∧
            child.route.url (args ++ rest) = .ok (Template.trimSlash
              parent.route.settings.skipTrailingSlash (Template.join url more))

/-- In every router that can be reached rebuilding paths follows the tree. -/
theorem Reached.followsTree (hr : r.Reached) : r.FollowsTree where
  registered above i node habove hnode := hr.exists_under habove hnode
  rebuilt above place spec hunder := by
    obtain ⟨route, hupper, hlower⟩ := hunder.exists_routes
    obtain ⟨parent, hparent, rfl⟩ := Option.map_eq_some_iff.1 hupper
    obtain ⟨child, hchild, hroute⟩ := Option.map_eq_some_iff.1 hlower
    refine ⟨parent, child, hparent, hchild, fun args rest hlen hlen' hplain => ?_⟩
    rw [List.forall_mem_append] at hplain
    obtain ⟨url, hurl⟩ := Template.exists_fill? (Nat.le_of_eq hlen.symm)
    obtain ⟨more, hmore⟩ := Template.exists_fill? (Nat.le_of_eq hlen'.symm)
    refine ⟨url, more, Route.url_eq_ok.2 hurl, hmore, ?_⟩
    rw [hroute]
    exact Route.url_child hplain.1 hplain.2 hlen hlen' (Route.url_eq_ok.2 hurl) hmore

/-- Slashes at the end of the upper template and at both ends of the lower part, with the policy on for the
routes and changed since. -/
theorem followsTree_of_slashes : ∃ (r : Router Unit) (parent child : Node),
    r.Reached ∧ r.settings.skipTrailingSlash = false ∧ r.FollowsTree ∧
      r.nodeAt? [0] = some parent ∧ r.nodeAt? [0, 0] = some child ∧
      r.Under [0] [0, 0] ⟨"post".toList, "//<<tag:slug>>/".toList, true⟩ ∧
      parent.route.url ["5".toList] = .ok "/blog/5/".toList ∧
      Template.fill? "//<<tag:slug>>/".toList ["x".toList] = some "//x/".toList ∧
      child.route.url ["5".toList, "x".toList] = .ok "/blog/5/x".toList := by
  let s : Settings := { skipTrailingSlash := true }
  let blog : Route := ⟨"blog".toList, "blog".toList, "/blog/<<id:int>>/".toList, true, s⟩
  let post : Route := ⟨"post".toList, "blog:post".toList, "/blog/<<id:int>>/<<tag:slug>>".toList, true, s⟩
  let r₀ : Router Unit := { settings := s }
  let r₁ : Router Unit := { r₀ with routes := .cons blog .nil .nil }
  let r₂ : Router Unit := { r₀ with routes := .cons blog (.cons post .nil .nil) .nil }
  have hstart : ofSettings s = .ok r₀ := rfl
  have h₁ : r₀.register [] ⟨"blog".toList, "/blog/<<id:int>>//".toList, true⟩ = some (.ok r₁) := by
    rw [register_eq_put]
    rfl
  have h₂ : r₁.register [0] ⟨"post".toList, "//<<tag:slug>>/".toList, true⟩ = some (.ok r₂) := by
    rw [register_eq_put]
    rfl
  have hr : (r₂.skipTrailingSlash false).Reached :=
    (((Reached.ofSettings hstart).register h₁).register h₂).skipTrailingSlash false
  have hunder : (r₂.skipTrailingSlash false).Under [0] [0, 0] ⟨"post".toList, "//<<tag:slug>>/".toList, true⟩ :=
    (Under.here (by simp) h₂).adjust (.skipTrailingSlash false)
  have htree := hr.followsTree
  obtain ⟨parent, child, hparent, hchild, hurl⟩ := htree.rebuilt _ _ _ hunder
  cases hparent
  cases hchild
  obtain ⟨url, more, hupper, hmore, hlower⟩ := hurl ["5".toList] ["x".toList] rfl rfl (by decide)
  cases hupper
  cases hmore
  exact ⟨_, _, _, hr, rfl, htree, rfl, rfl, hunder, rfl, rfl, hlower⟩

end Router

end Signpost
