import Signpost.Cache
import Signpost.Proofs.Router.Nested

/-!
# What is kept of compiling

*Sound cells.*  Cells are sound if whatever they keep for a place is what compiling the route at this place
gives (`Cells.Sound`).  Then asking a cell is as good as compiling (`Cells.ask_of_sound`), and so matching with
cells finds what matching without them finds (`Cells.match?_of_sound`).

*Extending.*  A step of a router with cells leaves the routes at their places and what is kept of them
(`CachedRouter.Extends`).  This holds of registrations, whether the new route is compiled at once or not, since
its place was free; of changes, since they leave the routes with the settings they were registered under; and
of lookups, which fill cells and change nothing else.
-/

namespace Signpost

/-! ## Rows of a forest -/

namespace Forest

/-- What lies under a node lies under its place. -/
theorem at?_append_of_at? {n : Node} (j : Nat) (q : Place) : ∀ {place : Place} {f : Forest},
    f.at? place = some n → f.at? (place ++ j :: q) = n.children.at? (j :: q)
  | _, nil, h => by simp at h
  | [], cons r cs rest, h => by simp at h
  | [0], cons r cs rest, h => by
      cases h
      rfl
  | 0 :: i :: place, cons r cs rest, h => by
      rw [at?_under] at h
      have hunder : cs.at? ((i :: place) ++ j :: q) = n.children.at? (j :: q) := at?_append_of_at? j q h
      exact hunder
  | (i + 1) :: place, cons r cs rest, h => by
      rw [at?_beside] at h
      have hbeside : rest.at? ((i :: place) ++ j :: q) = n.children.at? (j :: q) := at?_append_of_at? j q h
      exact hbeside

/-- A row is part of a forest; its first route is at position `i` under the place `above`. -/
def RowAt (whole : Forest) (above : Place) (i : Nat) (row : Forest) : Prop :=
  ∀ j q route, row.routeAt? (j :: q) = some route → whole.routeAt? (above ++ (i + j) :: q) = some route

theorem rowAt_root (f : Forest) : RowAt f [] 0 f := by
  intro j q route h
  rwa [List.nil_append, Nat.zero_add]

variable {whole cs rest : Forest} {above : Place} {i : Nat} {r : Route}

theorem RowAt.first (h : RowAt whole above i (cons r cs rest)) : whole.routeAt? (above ++ [i]) = some r :=
  h 0 [] r rfl

theorem RowAt.children (h : RowAt whole above i (cons r cs rest)) : RowAt whole (above ++ [i]) 0 cs := by
  intro j q route hroute
  rw [List.append_assoc, List.singleton_append, Nat.zero_add]
  exact h 0 (j :: q) route hroute

theorem RowAt.siblings (h : RowAt whole above i (cons r cs rest)) : RowAt whole above (i + 1) rest := by
  intro j q route hroute
  rw [Nat.add_assoc, Nat.add_comm 1 j]
  exact h (j + 1) q route hroute

/-- A node by itself is a row at its place. -/
theorem rowAt_of_at? {n : Node} (h : whole.at? (above ++ [i]) = some n) : RowAt whole above i n.toForest := by
  intro j q route hroute
  match j, q, hroute with
  | 0, [], hroute =>
      cases hroute
      rw [routeAt?, Nat.add_zero, h]
      rfl
  | 0, k :: q, hroute =>
      have hunder := at?_append_of_at? k q h
      rw [List.append_assoc, List.singleton_append] at hunder
      rw [routeAt?, Nat.add_zero, hunder]
      exact hroute
  | j + 1, q, hroute => simp [routeAt?, Node.toForest] at hroute

end Forest

/-! ## Sound cells -/

namespace Cells

/-- Whatever is kept for a place is what compiling the route there gives. -/
def Sound (c : Cells) (f : Forest) : Prop :=
  ∀ place outcome, c.get? place = some outcome → (f.routeAt? place).map Route.pattern = some outcome

/-- Whatever is kept stays. -/
def Grows (c c' : Cells) : Prop :=
  ∀ place outcome, c.get? place = some outcome → c'.get? place = some outcome

variable {c c' c'' : Cells} {f : Forest}

theorem Grows.refl (c : Cells) : c.Grows c := fun _ _ h => h

theorem Grows.trans (h : c.Grows c') (h' : c'.Grows c'') : c.Grows c'' :=
  fun place outcome hkept => h' place outcome (h place outcome hkept)

theorem sound_empty (f : Forest) : Sound {} f := fun _ _ h => by cases h

theorem get?_ask (c : Cells) (place : Place) (route : Route) (q : Place) :
    (c.ask place route).2.get? q = (c.get? q).or (if q = place then some route.pattern else none) := by
  unfold ask
  cases hkept : c.get? place with
  | some outcome =>
      dsimp only
      by_cases hq : q = place
      · rw [hq, hkept]
        rfl
      · rw [if_neg hq, Option.or_none]
  | none =>
      dsimp only
      by_cases hq : q = place
      · subst hq
        rw [hkept, if_pos rfl, get?, List.lookup_cons_self]
        rfl
      · rw [if_neg hq, Option.or_none, get?, List.lookup_cons, beq_false_of_ne hq, ← get?]

/-- Asking sound cells for the route at a place gives what compiling it gives, which is kept from then on. -/
theorem ask_of_sound (hc : c.Sound f) {place : Place} {route : Route} (hroute : f.routeAt? place = some route) :
    (c.ask place route).1 = route.pattern ∧ (c.ask place route).2.get? place = some route.pattern ∧
      (c.ask place route).2.Sound f ∧ c.Grows (c.ask place route).2 := by
  have hkept : ∀ outcome, c.get? place = some outcome → outcome = route.pattern := by
    intro outcome h
    have hsound := hc place outcome h
    rw [hroute] at hsound
    exact (Option.some.inj hsound).symm
  refine ⟨?_, ?_, fun q outcome h => ?_, fun q outcome h => ?_⟩
  · unfold ask
    cases h : c.get? place with
    | some outcome => exact hkept outcome h
    | none => rfl
  · rw [get?_ask, if_pos rfl]
    cases h : c.get? place with
    | some outcome => rw [hkept outcome h, Option.some_or]
    | none => rfl
  · rw [get?_ask, Option.or_eq_some_iff] at h
    rcases h with h | ⟨-, h⟩
    · exact hc q outcome h
    · split at h
      · next hq =>
          cases h
          rw [hq, hroute]
          rfl
      · cases h
  · rw [get?_ask, h]
    rfl

/-- Matching a row with sound cells finds what matching it without cells finds, and keeps them sound. -/
theorem match?_of_sound (path : Text) {whole : Forest} : ∀ {row : Forest} {above : Place} {i : Nat} {c : Cells},
    Forest.RowAt whole above i row → c.Sound whole →
      (match? path above i row c).1 = row.match? path ∧
        (match? path above i row c).2.Sound whole ∧ c.Grows (match? path above i row c).2
  | .nil, _, _, c, _, hc => ⟨rfl, hc, .refl c⟩
  | .cons r cs rest, above, i, c, hrow, hc => by
      -- The route, what lies under it and its siblings each start with the cells that the one before has left.
      obtain ⟨hask, -, hsound, hgrows⟩ := ask_of_sound hc hrow.first
      rw [match?, Forest.match?]
      generalize c.ask (above ++ [i]) r = asked at hask hsound hgrows ⊢
      obtain ⟨outcome, c₁⟩ := asked
      obtain rfl : outcome = r.pattern := hask
      have hcaptures : Compilation.captures? r.pattern path = r.captures? path := rfl
      dsimp only at hsound hgrows ⊢
      rw [hcaptures]
      cases r.captures? path with
      | some vars => exact ⟨rfl, hsound, hgrows⟩
      | none =>
          dsimp only
          obtain ⟨hfound, hsound₂, hgrows₂⟩ := match?_of_sound path hrow.children hsound
          generalize match? path (above ++ [i]) 0 cs c₁ = under at hfound hsound₂ hgrows₂ ⊢
          obtain ⟨found, c₂⟩ := under
          obtain rfl : found = cs.match? path := hfound
          cases cs.match? path with
          | some found => exact ⟨rfl, hsound₂, hgrows.trans hgrows₂⟩
          | none =>
              obtain ⟨hfound, hsound₃, hgrows₃⟩ := match?_of_sound path hrow.siblings hsound₂
              exact ⟨hfound, hsound₃, (hgrows.trans hgrows₂).trans hgrows₃⟩

end Cells

/-! ## Steps of a router with cells -/

theorem Router.routeAt?_of_nodeAt? {ι : Type} {r : Router ι} {place : Place} {node : Node}
    (h : r.nodeAt? place = some node) : r.routes.routeAt? place = some node.route := by
  rw [Forest.routeAt?, ← nodeAt?, h, Option.map_some]

namespace CachedRouter

variable {ι : Type} {c c' c'' : CachedRouter ι}

/-- The cells are sound for the routes. -/
def Sound (c : CachedRouter ι) : Prop := c.cells.Sound c.router.routes

/-- After some steps the cells are sound, what was kept is kept, and the routes are where they were. -/
structure Extends (c c' : CachedRouter ι) : Prop where
  /-- The cells are sound. -/
  sound : c'.Sound
  /-- What was kept is kept. -/
  grows : c.cells.Grows c'.cells
  /-- The routes are where they were. -/
  routes : ∀ place route, c.router.routes.routeAt? place = some route →
    c'.router.routes.routeAt? place = some route

theorem Extends.refl (hc : c.Sound) : c.Extends c := ⟨hc, .refl _, fun _ _ h => h⟩

theorem Extends.trans (h : c.Extends c') (h' : c'.Extends c'') : c.Extends c'' where
  sound := h'.sound
  grows := h.grows.trans h'.grows
  routes place route hroute := h'.routes place route (h.routes place route hroute)

/-- Filling cells extends. -/
theorem extends_of_cells {cells : Cells} (hsound : cells.Sound c.router.routes) (hgrows : c.cells.Grows cells) :
    c.Extends { c with cells := cells } := ⟨hsound, hgrows, fun _ _ h => h⟩

theorem extends_change (hc : c.Sound) (change : Change ι) : c.Extends (c.change change) := by
  have hroutes : (c.change change).router.routes = c.router.routes := by cases change <;> rfl
  refine ⟨?_, .refl _, fun place route h => by rwa [hroutes]⟩
  rw [Sound, hroutes]
  exact hc

/-! ## Registrations -/

theorem router_withNew (cells : Cells) (r : Router ι) (new : Place) : (withNew cells r new).router = r := by
  unfold withNew
  split
  · split <;> rfl
  · rfl

/-- A new route is compiled or left to be compiled, and either way the cells are sound. -/
theorem cells_withNew {cells : Cells} {r : Router ι} (hsound : cells.Sound r.routes) (new : Place) :
    (withNew cells r new).cells.Sound r.routes ∧ cells.Grows (withNew cells r new).cells := by
  unfold withNew
  split
  · next node hnode =>
      obtain ⟨-, -, hasked, hgrows⟩ := Cells.ask_of_sound hsound (Router.routeAt?_of_nodeAt? hnode)
      split
      · exact ⟨hasked, hgrows⟩
      · exact ⟨hsound, .refl _⟩
  · exact ⟨hsound, .refl _⟩

/-- A router with cells gives the places and the errors that the router gives, and is left with the same router. -/
theorem map_router_add (c : CachedRouter ι) (place : Place) (spec : Route.Spec) :
    (c.add place spec).map (Prod.map id router) = c.router.add place spec := by
  rw [add, Option.map_map]
  cases c.router.add place spec with
  | none => rfl
  | some outcome =>
      obtain ⟨result, left⟩ := outcome
      cases result with
      | error e => rfl
      | ok new => simp only [Option.map_some, Function.comp, Prod.map, id, router_withNew]

/-- A registration that fails leaves the cells too as they were. -/
theorem left_of_add {place : Place} {spec : Route.Spec} {e : RouteError}
    (h : c.add place spec = some (.error e, c')) : c' = c := by
  obtain ⟨⟨result, left⟩, hadd, h⟩ := Option.map_eq_some_iff.1 h
  cases result with
  | error e' =>
      cases h
      rw [Router.left_of_add hadd]
  | ok new => cases h

/-- A router with cells accepts and refuses what the router does. -/
theorem map_router_register (c : CachedRouter ι) (place : Place) (spec : Route.Spec) :
    (c.register place spec).map (·.map router) = c.router.register place spec := by
  rw [register, Router.register, ← map_router_add, Option.map_map, Option.map_map]
  congr 1
  funext outcome
  obtain ⟨result, left⟩ := outcome
  cases result <;> rfl

/-- An attempt gives the registered router, and without one the router as it was. -/
theorem attempt_eq (c : CachedRouter ι) (place : Place) (spec : Route.Spec) :
    c.attempt place spec = match c.register place spec with
      | some (.ok c') => c'
      | _ => c := by
  rw [attempt, register]
  cases hadd : c.add place spec with
  | none => rfl
  | some outcome =>
      obtain ⟨result, left⟩ := outcome
      cases result with
      | ok new => rfl
      | error e => exact left_of_add hadd

theorem register_of_router {place : Place} {spec : Route.Spec} {r : Router ι}
    (h : c.router.register place spec = some (.ok r)) :
    ∃ c', c.register place spec = some (.ok c') ∧ c'.router = r := by
  have hmap := c.map_router_register place spec
  rw [h] at hmap
  obtain ⟨result, hresult, hok⟩ := Option.map_eq_some_iff.1 hmap
  cases result with
  | error e => cases hok
  | ok c' =>
      cases hok
      exact ⟨c', hresult, rfl⟩

theorem router_of_register {place : Place} {spec : Route.Spec} (h : c.register place spec = some (.ok c')) :
    c.router.register place spec = some (.ok c'.router) := by
  rw [← map_router_register, h]
  rfl

/-- What is registered has a cell, which may be filled. -/
theorem exists_withNew_of_register {place : Place} {spec : Route.Spec}
    (h : c.register place spec = some (.ok c')) : ∃ new, c' = withNew c.cells c'.router new := by
  obtain ⟨⟨result, c''⟩, hadd, hok⟩ := Option.map_eq_some_iff.1 h
  cases result with
  | error e => cases hok
  | ok new =>
      cases hok
      obtain ⟨⟨result, left⟩, -, hleft⟩ := Option.map_eq_some_iff.1 hadd
      cases result with
      | error e => cases hleft
      | ok new =>
          cases hleft
          exact ⟨new, by rw [router_withNew]⟩

theorem extends_register (hc : c.Sound) {place : Place} {spec : Route.Spec}
    (h : c.register place spec = some (.ok c')) : c.Extends c' := by
  have hrouter := router_of_register h
  have hroutes : ∀ q route, c.router.routes.routeAt? q = some route →
      c'.router.routes.routeAt? q = some route := fun q route => Router.routeAt?_of_register hrouter
  have hsound : c.cells.Sound c'.router.routes := by
    intro q outcome hkept
    obtain ⟨route, hroute, rfl⟩ := Option.map_eq_some_iff.1 (hc q outcome hkept)
    rw [hroutes q route hroute]
    rfl
  obtain ⟨new, hnew⟩ := exists_withNew_of_register h
  obtain ⟨hsound', hgrows⟩ := cells_withNew hsound new
  rw [← hnew] at hsound' hgrows
  exact ⟨hsound', hgrows, hroutes⟩

/-! ## Lookups -/

/-- A lookup gives an answer, and of the router it changes nothing but the cells. -/
structure Answers {α : Type} (c : CachedRouter ι) (answer : α) (result : α × CachedRouter ι) : Prop where
  /-- It gives this answer. -/
  answer : result.1 = answer
  /-- The router is the same. -/
  router : result.2.router = c.router
  /-- The cells may be filled. -/
  fills : c.Extends result.2

/-- Matching gives the same answer as without cells. -/
theorem matchPath_of_sound (hc : c.Sound) (path : Text) :
    c.Answers (c.router.matchPath path) (c.matchPath path) := by
  obtain ⟨hfound, hsound, hgrows⟩ :=
    Cells.match?_of_sound (Template.trimSlash c.router.settings.skipTrailingSlash path)
      (Forest.rowAt_root c.router.routes) hc
  refine ⟨?_, rfl, extends_of_cells hsound hgrows⟩
  rw [matchPath, Router.matchPath]
  dsimp only
  rw [hfound]

theorem matchAt?_of_sound (hc : c.Sound) (place : Place) (path : Text) :
    c.Answers ((c.router.nodeAt? place).bind (·.match? path)) (c.matchAt? place path) := by
  unfold matchAt?
  cases hnode : c.router.nodeAt? place with
  | none => exact ⟨rfl, rfl, .refl hc⟩
  | some node =>
      have hne : place ≠ [] := by
        rintro rfl
        rw [Router.nodeAt?, Forest.at?_root] at hnode
        cases hnode
      have hplace : place.dropLast ++ [place.getLast?.getD 0] = place := by
        rw [List.getLast?_eq_some_getLast hne, Option.getD_some, List.dropLast_append_getLast hne]
      have hrow : Forest.RowAt c.router.routes place.dropLast (place.getLast?.getD 0) node.toForest := by
        refine Forest.rowAt_of_at? ?_
        rw [hplace]
        exact hnode
      obtain ⟨hfound, hsound, hgrows⟩ := Cells.match?_of_sound path hrow hc
      refine ⟨?_, rfl, extends_of_cells hsound hgrows⟩
      dsimp only
      rw [hfound, Node.toForest, Forest.match?, Option.bind_some, Node.match?]
      cases node.route.captures? path with
      | some vars => rfl
      | none =>
          dsimp only
          cases node.children.match? path <;> rfl

/-- Asking for the pattern of a route gives what compiling its template gives, and keeps it. -/
theorem patternAt?_of_sound (hc : c.Sound) (place : Place) :
    c.Answers ((c.router.nodeAt? place).map (·.route.pattern)) (c.patternAt? place) ∧
      (c.patternAt? place).2.cells.get? place = (c.router.nodeAt? place).map (·.route.pattern) := by
  unfold patternAt?
  cases hnode : c.router.nodeAt? place with
  | none =>
      refine ⟨⟨rfl, rfl, .refl hc⟩, ?_⟩
      -- Where no route is, sound cells keep nothing.
      dsimp only [Option.map_none]
      rw [Option.eq_none_iff_forall_ne_some]
      intro outcome hkept
      have hsound := hc place outcome hkept
      rw [Forest.routeAt?, ← Router.nodeAt?, hnode] at hsound
      cases hsound
  | some node =>
      obtain ⟨hask, hkept, hsound, hgrows⟩ := Cells.ask_of_sound hc (Router.routeAt?_of_nodeAt? hnode)
      exact ⟨⟨congrArg some hask, rfl, extends_of_cells hsound hgrows⟩, hkept⟩

/-- Dispatching has the same result and makes the same calls as without cells. -/
theorem tryDispatch_of_sound (hc : c.Sound) (target : Text) :
    c.Answers (c.router.tryDispatch target) (c.tryDispatch target) := by
  unfold tryDispatch Router.tryDispatch
  cases Uri.ofTarget target with
  | error f => exact ⟨rfl, rfl, .refl hc⟩
  | ok uri =>
      obtain ⟨hmatch, hrouter, hextends⟩ := matchPath_of_sound hc uri.decodedPath
      dsimp only
      rw [← hmatch]
      generalize c.matchPath uri.decodedPath = matched at hrouter hextends ⊢
      obtain ⟨m, c₁⟩ := matched
      dsimp only at hrouter hextends ⊢
      cases m.found with
      | none => exact ⟨rfl, hrouter, hextends⟩
      | some found => exact ⟨by rw [hrouter], hrouter, hextends⟩

end CachedRouter

end Signpost
