import Signpost.Proofs.Router.Add

/-!
# Routers that can be reached

A router is reached from valid settings by registering routes anywhere in its tree, by changing the policy
on trailing slashes, and by installing what takes part in a dispatch, in any order (`Router.Reached`).
The routes of such a router are well named, so looking up the qualified name of a route finds it
(`Router.Reached.find?_qualifiedName`).
-/

namespace Signpost

theorem Route.check_ok {r new : Route} (h : r.check = .ok new) :
    checkName r.name = .ok () ∧ new = r := by
  unfold check at h
  cases hname : checkName r.name with
  | error e =>
      rw [hname] at h
      cases h
  | ok _ =>
      rw [hname] at h
      refine ⟨rfl, ?_⟩
      by_cases hcompile : r.settings.compileOnRegister
      · simp only [hcompile, if_true] at h
        cases hpattern : r.pattern with
        | error e =>
            rw [hpattern] at h
            cases h
        | ok p =>
            rw [hpattern] at h
            cases h
            rfl
      · simp only [hcompile] at h
        cases h
        rfl

namespace Router

variable {ι : Type}

/-- The routers that can be reached. -/
inductive Reached : Router ι → Prop where
  /-- A router without routes. -/
  | ofSettings {s : Settings} {r : Router ι} : ofSettings s = .ok r → Reached r
  /-- A route more. -/
  | register {r r' : Router ι} {place : Place} {spec : Route.Spec} : Reached r →
      r.register place spec = some (.ok r') → Reached r'
  /-- Another policy on trailing slashes. -/
  | skipTrailingSlash {r : Router ι} (enabled : Bool) : Reached r → Reached (r.skipTrailingSlash enabled)
  /-- Another receiver of failures. -/
  | setOnError {r : Router ι} (mark : ι) : Reached r → Reached (r.setOnError mark)
  /-- Another observer before the hooks. -/
  | setOnPageChange {r : Router ι} (mark : ι) : Reached r → Reached (r.setOnPageChange mark)
  /-- Another observer after the handler. -/
  | setAfterPageChange {r : Router ι} (mark : ι) : Reached r → Reached (r.setAfterPageChange mark)
  /-- A hook more. -/
  | addHook {r : Router ι} (hook : Hook ι) : Reached r → Reached (r.addHook hook)

/-- A new router has its settings and nothing else. -/
theorem eq_of_ofSettings {s : Settings} {r : Router ι} (h : ofSettings s = .ok r) : r = { settings := s } := by
  unfold ofSettings at h
  cases hvalid : s.validate with
  | error e =>
      rw [hvalid] at h
      cases h
  | ok _ =>
      rw [hvalid] at h
      cases h
      rfl

/-- So it has no routes. -/
theorem routes_of_ofSettings {s : Settings} {r : Router ι} (h : ofSettings s = .ok r) : r.routes = .nil := by
  rw [eq_of_ofSettings h]

/-- An accepted route is named after the route above, and unlike its siblings. -/
theorem accept_ok {r : Router ι} {spec : Route.Spec} {above : Option Route} {row : Forest} {new : Route}
    (h : r.accept spec above row = .ok new) :
    Route.checkName new.name = .ok () ∧
      new.qualifiedName = Forest.qualify (above.map Route.qualifiedName) new.name ∧
      ∀ n ∈ row.tops, n.route.qualifiedName ≠ new.qualifiedName := by
  simp only [accept] at h
  split at h
  · cases h
  · next hunique =>
      obtain ⟨hname, rfl⟩ := Route.check_ok h
      refine ⟨hname, ?_, ?_⟩
      · cases above with
        | none => rfl
        | some parent => rfl
      · simpa using hunique

/-- The routes of a router that can be reached are well named. -/
theorem Reached.wellNamed {r : Router ι} (hr : r.Reached) : r.routes.WellNamed none := by
  induction hr with
  | ofSettings h =>
      rw [routes_of_ofSettings h]
      trivial
  | @register r r' place spec _ h ih =>
      obtain ⟨above, row, new, hspot, haccept, rfl⟩ := exists_accept_of_register h
      obtain ⟨hname, hqualified, hsiblings⟩ := accept_ok haccept
      exact Forest.WellNamed.put hname hqualified hsiblings none ih hspot
  | skipTrailingSlash _ _ ih => exact ih
  | setOnError _ _ ih => exact ih
  | setOnPageChange _ _ ih => exact ih
  | setAfterPageChange _ _ ih => exact ih
  | addHook _ _ ih => exact ih

/-- Looking up the qualified name of a route finds it. -/
theorem Reached.find?_qualifiedName {r : Router ι} (hr : r.Reached) {n : Node}
    (hn : n ∈ r.routes.nodes) : r.find? n.route.qualifiedName = some n :=
  Forest.find?_qualifiedName hr.wellNamed.nodup hn

/-- The router with some routes registered at the top level, one after another. -/
def build (s : Settings) (specs : List Route.Spec) : Option (Router ι) :=
  (ofSettings s).toOption.bind
    (specs.foldlM fun r spec => (r.register [] spec).bind Except.toOption)

theorem reached_of_build {s : Settings} {specs : List Route.Spec} {r : Router ι}
    (hbuild : build s specs = some r) : r.Reached := by
  obtain ⟨start, hstart, h⟩ := Option.bind_eq_some_iff.1 hbuild
  have hreached : start.Reached := by
    cases hok : (ofSettings s : Except SettingsError (Router ι)) with
    | error e =>
        rw [hok] at hstart
        cases hstart
    | ok r₀ =>
        rw [hok] at hstart
        cases hstart
        exact .ofSettings hok
  clear hstart hbuild
  induction specs generalizing start with
  | nil =>
      cases h
      exact hreached
  | cons spec specs ih =>
      obtain ⟨r₁, hr₁, hrest⟩ := Option.bind_eq_some_iff.1 h
      obtain ⟨made, hmade, hr₁⟩ := Option.bind_eq_some_iff.1 hr₁
      cases made with
      | error e => cases hr₁
      | ok r₂ =>
          cases hr₁
          exact ih _ hrest (.register hreached hmade)

end Router

end Signpost
