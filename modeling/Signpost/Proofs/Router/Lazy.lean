import Signpost.Proofs.Cache
import Signpost.Proofs.Forest.Map
import Signpost.Proofs.Router.Pipeline

/-!
# Compiling early and late

*One setting.*  Whether templates are compiled at registration shows only in which registrations are refused.  A
router in which this setting is another one, for the routes that are there and for those to come, matches, finds,
rebuilds, prints and dispatches the same (`Router.withCompile`), and if the setting is off, it accepts whatever
it accepts when the setting is on (`Router.register_withCompile`).

*Calls.*  Registrations, changes and lookups come in any order (`Call`).  Lookups fill cells and change nothing
else of a router with cells (`CachedRouter.run_of_sound`), so two such routers on which the same is registered
and changed have the same routes, whatever is looked up in between.

*Two runs.*  So if a router that compiles at registration accepts all registrations, one that compiles when a
route is first tried accepts them too, and both give the same answers from then on.  What the second one keeps
for a route is what compiling its template gives, and it is kept for good
(`CachedRouter.early_and_late`).
-/

namespace Signpost

/-! ## The setting -/

/-- The settings with another choice of when to compile. -/
def Settings.withCompile (on : Bool) (s : Settings) : Settings := { s with compileOnRegister := on }

/-- The route as registered under another choice. -/
def Route.withCompile (on : Bool) (r : Route) : Route := { r with settings := r.settings.withCompile on }

/-- The node with the other choice for all its routes. -/
def Node.withCompile (on : Bool) (n : Node) : Node := n.map (Route.withCompile on)

/-- What is told of a node, told of it under the other choice. -/
def Context.withCompile (on : Bool) (ctx : Context) : Context := { ctx with node := ctx.node.withCompile on }

/-- The match with the other choice for the route that matched. -/
def RouteMatch.withCompile (on : Bool) (m : RouteMatch) : RouteMatch :=
  { m with found := m.found.map fun b => (b.1.withCompile on, b.2) }

/-- The verdict of a hook does not depend on the choice, which no route shows. -/
def Hook.Blind {ι : Type} (h : Hook ι) : Prop :=
  ∀ (on : Bool) (ctx : Context), h.verdict (ctx.withCompile on) = h.verdict ctx

namespace Router

variable {ι : Type} {r r' : Router ι}

/-- The router with another choice, for the routes that are there and for those to come. -/
def withCompile (on : Bool) (r : Router ι) : Router ι :=
  { r with routes := r.routes.map (Route.withCompile on), settings := r.settings.withCompile on }

/-! ## What does not depend on it -/

theorem change_withCompile (on : Bool) (r : Router ι) (change : Change ι) :
    (r.withCompile on).change change = (r.change change).withCompile on := by
  cases change <;> rfl

theorem nodeAt?_withCompile (on : Bool) (r : Router ι) (place : Place) :
    (r.withCompile on).nodeAt? place = (r.nodeAt? place).map (Node.withCompile on) :=
  Forest.at?_map _ place r.routes

theorem matchPath_withCompile (on : Bool) (r : Router ι) (path : Text) :
    (r.withCompile on).matchPath path = (r.matchPath path).withCompile on := by
  have hcaptures : ∀ (route : Route) (path : Text),
      (route.withCompile on).captures? path = route.captures? path := fun _ _ => rfl
  have hpath : Template.trimSlash (r.withCompile on).settings.skipTrailingSlash path =
      Template.trimSlash r.settings.skipTrailingSlash path := rfl
  rw [matchPath, hpath, withCompile]
  dsimp only
  rw [Forest.match?_map fun route => hcaptures route _]
  rfl

theorem find?_withCompile (on : Bool) (r : Router ι) (name : Text) :
    (r.withCompile on).find? name = (r.find? name).map (Node.withCompile on) :=
  Forest.find?_map (g := Route.withCompile on) (fun _ => rfl) name r.routes

theorem reverse_withCompile (on : Bool) (r : Router ι) (name : Text) (args : List Text) :
    (r.withCompile on).reverse name args = r.reverse name args := by
  rw [reverse, find?_withCompile, reverse]
  cases r.find? name <;> rfl

theorem reverseWith_withCompile (on : Bool) (r : Router ι) (name : Text) (vars : Vars) :
    (r.withCompile on).reverseWith name vars = r.reverseWith name vars := by
  rw [reverseWith, find?_withCompile, reverseWith]
  cases r.find? name <;> rfl

theorem display_withCompile (on : Bool) (r : Router ι) : (r.withCompile on).display = r.display := by
  have hroutes : (r.withCompile on).routes.display 0 = r.routes.display 0 :=
    Forest.display_map (g := Route.withCompile on) (fun _ => rfl) (fun _ => rfl) 0 r.routes
  have hreceiver : (r.withCompile on).onError = r.onError := rfl
  have hpolicy : (r.withCompile on).settings.skipTrailingSlash = r.settings.skipTrailingSlash := rfl
  unfold display
  rw [hroutes, hreceiver, hpolicy]

theorem tryDispatch_withCompile (on : Bool) (hhooks : ∀ h ∈ r.hooks, h.Blind) (target : Text) :
    (r.withCompile on).tryDispatch target = ((r.tryDispatch target).1,
      (r.tryDispatch target).2.map (Event.retell (Context.withCompile on))) := by
  unfold tryDispatch
  cases Uri.ofTarget target with
  | error f => rfl
  | ok uri =>
      dsimp only
      rw [matchPath_withCompile, RouteMatch.withCompile]
      cases (r.matchPath uri.decodedPath).found with
      | none => rfl
      | some found =>
          exact run_retell (Context.withCompile on) ⟨found.1, found.2, uri⟩ rfl rfl rfl rfl rfl
            fun h hh => hhooks h hh on _

/-! ## Registrations -/

theorem describe_withCompile (on : Bool) (r : Router ι) (spec : Route.Spec) (above : Option Route) :
    (r.withCompile on).describe spec (above.map (Route.withCompile on)) =
      (r.describe spec above).withCompile on := by
  cases above <;> rfl

/-- A route that is accepted is accepted without compiling it. -/
theorem accept_withCompile {spec : Route.Spec} {above : Option Route} {row : Forest}
    (h : r.accept spec above row = .ok (r.describe spec above)) :
    (r.withCompile false).accept spec (above.map (Route.withCompile false)) (row.map (Route.withCompile false)) =
      .ok ((r.describe spec above).withCompile false) := by
  obtain ⟨hname, -, hunique⟩ := accept_ok h
  have hsiblings : ∀ n ∈ (row.map (Route.withCompile false)).tops,
      n.route.qualifiedName ≠ ((r.describe spec above).withCompile false).qualifiedName := by
    intro n hn
    rw [Forest.tops_map] at hn
    obtain ⟨m, hm, rfl⟩ := List.mem_map.1 hn
    exact hunique m hm
  have hcheck : ((r.describe spec above).withCompile false).check =
      .ok ((r.describe spec above).withCompile false) :=
    Route.check_of_checkName hname
  rw [accept, describe_withCompile, if_neg, hcheck]
  simpa using hsiblings

/-- A registration that succeeds does so without compiling. -/
theorem register_withCompile {place : Place} {spec : Route.Spec} (h : r.register place spec = some (.ok r')) :
    (r.withCompile false).register place spec = some (.ok (r'.withCompile false)) := by
  obtain ⟨above, row, hspot, haccept, rfl⟩ := exists_of_register h
  have hspot' : (r.withCompile false).routes.spot? none place =
      some (above.map (Route.withCompile false), row.map (Route.withCompile false)) := by
    have hmap := Forest.spot?_map (Route.withCompile false) none place r.routes
    rw [hspot] at hmap
    exact hmap
  rw [register_of_accept hspot' (accept_withCompile haccept)]
  refine congrArg (fun f => some (Except.ok { r.withCompile false with routes := f })) ?_
  exact (Forest.map_put _ _ place r.routes).symm

end Router

/-! ## Calls -/

/-- What can be done with a router. -/
inductive Call (ι : Type) where
  /-- A route is registered at a place. -/
  | register (place : Place) (spec : Route.Spec)
  /-- Something else is changed. -/
  | change (change : Change ι)
  /-- A path is matched. -/
  | matchPath (path : Text)
  /-- A path is matched in the subtree of the node at a place. -/
  | matchAt (place : Place) (path : Text)
  /-- The pattern of the route at a place is asked for. -/
  | pattern (place : Place)
  /-- A target is dispatched. -/
  | tryDispatch (target : Text)

/-- Whether a call is a lookup. -/
def Call.isLookup {ι : Type} : Call ι → Bool
  | .register _ _ | .change _ => false
  | .matchPath _ | .matchAt _ _ | .pattern _ | .tryDispatch _ => true

/-- The calls that are no lookups. -/
def changes {ι : Type} (calls : List (Call ι)) : List (Call ι) := calls.filter (!·.isLookup)

namespace Router

variable {ι : Type}

/-- The router after a call. -/
def perform (r : Router ι) : Call ι → Router ι
  | .register place spec => r.attempt place spec
  | .change change => r.change change
  | .matchPath _ | .matchAt _ _ | .pattern _ | .tryDispatch _ => r

/-- A registration is accepted; any other call is. -/
def Accepts (r : Router ι) : Call ι → Prop
  | .register place spec => ∃ r', r.register place spec = some (.ok r')
  | .change _ | .matchPath _ | .matchAt _ _ | .pattern _ | .tryDispatch _ => True

/-- Some calls are accepted, one after another. -/
def AcceptsAll : Router ι → List (Call ι) → Prop
  | _, [] => True
  | r, call :: calls => r.Accepts call ∧ AcceptsAll (r.perform call) calls

/-- Lookups may be left out. -/
theorem foldl_perform_changes (calls : List (Call ι)) : ∀ r : Router ι,
    (changes calls).foldl perform r = calls.foldl perform r := by
  induction calls with
  | nil => exact fun _ => rfl
  | cons call calls ih =>
      intro r
      cases call with
      | register | change => exact ih _
      | matchPath | matchAt | pattern | tryDispatch => exact ih r

theorem acceptsAll_changes (calls : List (Call ι)) : ∀ r : Router ι,
    r.AcceptsAll (changes calls) ↔ r.AcceptsAll calls := by
  induction calls with
  | nil => exact fun _ => Iff.rfl
  | cons call calls ih =>
      intro r
      cases call with
      | register | change => exact and_congr_right fun _ => ih _
      | matchPath | matchAt | pattern | tryDispatch => exact (ih r).trans (iff_of_eq (true_and _)).symm

/-- One call that is accepted is accepted without compiling, and what comes of it differs in nothing else. -/
theorem perform_withCompile {r : Router ι} {call : Call ι} (h : r.Accepts call) :
    (r.withCompile false).Accepts call ∧
      (r.withCompile false).perform call = (r.perform call).withCompile false := by
  cases call with
  | register place spec =>
      obtain ⟨r', hregister⟩ := h
      have hregister' := register_withCompile hregister
      refine ⟨⟨_, hregister'⟩, ?_⟩
      rw [perform, perform, attempt_eq, attempt_eq, hregister, hregister']
  | change change => exact ⟨trivial, change_withCompile false r change⟩
  | matchPath | matchAt | pattern | tryDispatch => exact ⟨trivial, rfl⟩

/-- So are any calls, one after another. -/
theorem AcceptsAll.withCompile : ∀ {calls : List (Call ι)} {r : Router ι}, r.AcceptsAll calls →
    (r.withCompile false).AcceptsAll calls ∧
      calls.foldl perform (r.withCompile false) = (calls.foldl perform r).withCompile false
  | [], _, _ => ⟨trivial, rfl⟩
  | call :: calls, r, ⟨hcall, hcalls⟩ => by
      obtain ⟨haccepts, hperform⟩ := perform_withCompile hcall
      obtain ⟨hall, hrun⟩ := hcalls.withCompile
      rw [AcceptsAll, List.foldl_cons, hperform]
      exact ⟨⟨haccepts, hall⟩, hrun⟩

end Router

namespace CachedRouter

variable {ι : Type} {c e l : CachedRouter ι}

/-- The router with cells after a call. -/
def perform (c : CachedRouter ι) : Call ι → CachedRouter ι
  | .register place spec => c.attempt place spec
  | .change change => c.change change
  | .matchPath path => (c.matchPath path).2
  | .matchAt place path => (c.matchAt? place path).2
  | .pattern place => (c.patternAt? place).2
  | .tryDispatch target => (c.tryDispatch target).2

/-- The router with cells after some calls. -/
def run (c : CachedRouter ι) (calls : List (Call ι)) : CachedRouter ι := calls.foldl perform c

/-- A registration is accepted; any other call is. -/
def Accepts (c : CachedRouter ι) : Call ι → Prop
  | .register place spec => ∃ c', c.register place spec = some (.ok c')
  | .change _ | .matchPath _ | .matchAt _ _ | .pattern _ | .tryDispatch _ => True

/-- Some calls are accepted, one after another. -/
def AcceptsAll : CachedRouter ι → List (Call ι) → Prop
  | _, [] => True
  | c, call :: calls => c.Accepts call ∧ AcceptsAll (c.perform call) calls

/-- A call does to the router what it does without cells, and leaves the routes and what is kept of them. -/
theorem perform_of_sound (hc : c.Sound) (call : Call ι) :
    (c.perform call).router = c.router.perform call ∧ c.Extends (c.perform call) := by
  cases call with
  | register place spec =>
      have hmap := c.map_router_register place spec
      rw [perform, Router.perform, attempt_eq, Router.attempt_eq, ← hmap]
      cases hregister : c.register place spec with
      | none => exact ⟨rfl, .refl hc⟩
      | some result =>
          cases result with
          | error e => exact ⟨rfl, .refl hc⟩
          | ok c' => exact ⟨rfl, extends_register hc hregister⟩
  | change change => exact ⟨rfl, extends_change hc change⟩
  | matchPath path =>
      have h := matchPath_of_sound hc path
      exact ⟨h.router, h.fills⟩
  | matchAt place path =>
      have h := matchAt?_of_sound hc place path
      exact ⟨h.router, h.fills⟩
  | pattern place =>
      obtain ⟨h, -⟩ := patternAt?_of_sound hc place
      exact ⟨h.router, h.fills⟩
  | tryDispatch target =>
      have h := tryDispatch_of_sound hc target
      exact ⟨h.router, h.fills⟩

/-- So do any calls, one after another. -/
theorem run_of_sound : ∀ (calls : List (Call ι)) {c : CachedRouter ι}, c.Sound →
    (c.run calls).router = calls.foldl Router.perform c.router ∧ c.Extends (c.run calls)
  | [], _, hc => ⟨rfl, .refl hc⟩
  | call :: calls, c, hc => by
      obtain ⟨hrouter, hextends⟩ := perform_of_sound hc call
      obtain ⟨hrun, hextends'⟩ := run_of_sound calls hextends.sound
      rw [List.foldl_cons, ← hrouter]
      exact ⟨hrun, hextends.trans hextends'⟩

theorem accepts_iff (c : CachedRouter ι) (call : Call ι) : c.Accepts call ↔ c.router.Accepts call := by
  cases call with
  | register place spec =>
      constructor
      · intro h
        obtain ⟨c', hregister⟩ := h
        exact ⟨_, router_of_register hregister⟩
      · intro h
        obtain ⟨r, hregister⟩ := h
        obtain ⟨c', hc', -⟩ := register_of_router hregister
        exact ⟨c', hc'⟩
  | change | matchPath | matchAt | pattern | tryDispatch => exact Iff.rfl

theorem acceptsAll_iff : ∀ {calls : List (Call ι)} {c : CachedRouter ι}, c.Sound →
    (c.AcceptsAll calls ↔ c.router.AcceptsAll calls)
  | [], _, _ => Iff.rfl
  | call :: calls, c, hc => by
      obtain ⟨hrouter, hextends⟩ := perform_of_sound hc call
      rw [AcceptsAll, Router.AcceptsAll, accepts_iff, acceptsAll_iff hextends.sound, hrouter]

/-! ## Two runs -/

/-- A router that compiles early and one that compiles late give the same answers.  The routes that they give
differ in the setting alone. -/
structure Agree (e l : CachedRouter ι) : Prop where
  /-- At every place there is the same name with the same template. -/
  registered : ∀ place, (l.router.nodeAt? place).map (fun n => (n.route.qualifiedName, n.route.path)) =
    (e.router.nodeAt? place).map fun n => (n.route.qualifiedName, n.route.path)
  /-- Every path has the same match. -/
  matched : ∀ path, (l.matchPath path).1 = (e.matchPath path).1.withCompile false
  /-- Every target has the same result, by the same calls. -/
  dispatched : (∀ h ∈ e.router.hooks, h.Blind) → ∀ target,
    (l.tryDispatch target).1 = ((e.tryDispatch target).1.1,
      (e.tryDispatch target).1.2.map (Event.retell (Context.withCompile false)))
  /-- Every name has the same route. -/
  found : ∀ name, l.router.find? name = (e.router.find? name).map (Node.withCompile false)
  /-- Every name with values in order gives the same path. -/
  reversed : ∀ name args, l.router.reverse name args = e.router.reverse name args
  /-- Every name with values by name gives the same path. -/
  reversedWith : ∀ name vars, l.router.reverseWith name vars = e.router.reverseWith name vars
  /-- Both print the same. -/
  displayed : l.router.display = e.router.display

/-- What is kept of compiling is right and stays, whatever is done. -/
structure KeepsCompiled (c : CachedRouter ι) : Prop where
  /-- What is kept for a place is what compiling the template of the route there gives. -/
  compiled : ∀ place outcome, c.cells.get? place = some outcome → ∃ node, c.router.nodeAt? place = some node ∧
    outcome = Pattern.compile node.route.settings node.route.path
  /-- It is kept. -/
  kept : ∀ place outcome, c.cells.get? place = some outcome →
    ∀ calls, (c.run calls).cells.get? place = some outcome
  /-- The route stays with its template and its settings. -/
  stays : ∀ place node, c.router.nodeAt? place = some node →
    ∀ calls, ((c.run calls).router.nodeAt? place).map Node.route = some node.route
  /-- Asking for the pattern of a route fills its cell. -/
  asked : ∀ place node, c.router.nodeAt? place = some node →
    (c.patternAt? place).1 = some (Pattern.compile node.route.settings node.route.path) ∧
      (c.patternAt? place).2.cells.get? place = some (Pattern.compile node.route.settings node.route.path)

theorem agree_of_router (he : e.Sound) (hl : l.Sound) (h : l.router = e.router.withCompile false) :
    Agree e l where
  registered place := by
    rw [h, Router.nodeAt?_withCompile, Option.map_map]
    rfl
  matched path := by
    rw [(matchPath_of_sound hl path).answer, (matchPath_of_sound he path).answer, h, Router.matchPath_withCompile]
  dispatched hhooks target := by
    rw [(tryDispatch_of_sound hl target).answer, (tryDispatch_of_sound he target).answer, h,
      Router.tryDispatch_withCompile false hhooks]
  found name := by rw [h, Router.find?_withCompile]
  reversed name args := by rw [h, Router.reverse_withCompile]
  reversedWith name vars := by rw [h, Router.reverseWith_withCompile]
  displayed := by rw [h, Router.display_withCompile]

theorem Sound.keepsCompiled (hc : c.Sound) : KeepsCompiled c where
  compiled place outcome hkept := by
    obtain ⟨route, hroute, rfl⟩ := Option.map_eq_some_iff.1 (hc place outcome hkept)
    obtain ⟨node, hnode, rfl⟩ := Option.map_eq_some_iff.1 hroute
    exact ⟨node, hnode, rfl⟩
  kept place outcome hkept calls := (run_of_sound calls hc).2.grows place outcome hkept
  stays place node hnode calls := by
    exact (run_of_sound calls hc).2.routes place node.route (Router.routeAt?_of_nodeAt? hnode)
  asked place node hnode := by
    obtain ⟨hpattern, hkept⟩ := patternAt?_of_sound hc place
    have hanswer := hpattern.answer
    rw [hnode] at hanswer hkept
    exact ⟨hanswer, hkept⟩

theorem sound_of_ofSettings {s : Settings} (h : ofSettings s = .ok c) :
    c.Sound ∧ Router.ofSettings s = .ok c.router := by
  unfold ofSettings at h
  cases hrouter : (Router.ofSettings s : Except SettingsError (Router ι)) with
  | error e =>
      rw [hrouter] at h
      cases h
  | ok r =>
      rw [hrouter] at h
      cases h
      exact ⟨Cells.sound_empty _, rfl⟩

theorem router_withCompile_of_ofSettings {s : Settings} (he : ofSettings (s.withCompile true) = .ok e)
    (hl : ofSettings (s.withCompile false) = .ok l) : l.router = e.router.withCompile false := by
  rw [Router.eq_of_ofSettings (sound_of_ofSettings he).2, Router.eq_of_ofSettings (sound_of_ofSettings hl).2]
  rfl

/-- Two routers are made of settings that differ in when to compile.  The same is registered and changed on both,
with any lookups between.  If the one that compiles early accepts all registrations, so does the other, and from
then on they give the same answers.  Whatever is done, what the late one keeps is right and stays. -/
theorem early_and_late {s : Settings} (hearly : ofSettings (s.withCompile true) = .ok e)
    (hlate : ofSettings (s.withCompile false) = .ok l) :
    (∀ calls calls', changes calls = changes calls' → e.AcceptsAll calls →
      l.AcceptsAll calls' ∧ Agree (e.run calls) (l.run calls')) ∧
    ∀ calls, KeepsCompiled (l.run calls) := by
  obtain ⟨he, -⟩ := sound_of_ofSettings hearly
  obtain ⟨hl, -⟩ := sound_of_ofSettings hlate
  refine ⟨fun calls calls' hsame haccepts => ?_, fun calls => (run_of_sound calls hl).2.sound.keepsCompiled⟩
  obtain ⟨hrun, hextends⟩ := run_of_sound calls he
  obtain ⟨hrun', hextends'⟩ := run_of_sound calls' hl
  -- Lookups are left out on one side and put in on the other.
  rw [acceptsAll_iff he, ← Router.acceptsAll_changes, hsame, Router.acceptsAll_changes] at haccepts
  obtain ⟨haccepts', hrouters⟩ := haccepts.withCompile
  rw [← router_withCompile_of_ofSettings hearly hlate] at haccepts' hrouters
  refine ⟨(acceptsAll_iff hl).2 haccepts', agree_of_router hextends.sound hextends'.sound ?_⟩
  rw [hrun', hrun, hrouters, ← Router.foldl_perform_changes calls, hsame, Router.foldl_perform_changes]

/-- Two routes and a change of policy, with lookups on the late router in between.  A template that cannot be
compiled is accepted late, and its failure is kept from the first lookup on. -/
theorem early_and_late_of_lookups :
    let e : CachedRouter Unit := { router := { settings := Settings.withCompile true {} } }
    let l : CachedRouter Unit := { router := { settings := Settings.withCompile false {} } }
    let a : Call Unit := .register [] ⟨"a".toList, "/a".toList, true⟩
    let b : Call Unit := .register [0] ⟨"b".toList, "/<<n:int>>".toList, true⟩
    let policy : Call Unit := .change (.skipTrailingSlash true)
    let calls := [a, policy, b]
    let calls' := [a, .matchPath "/a".toList, policy, .tryDispatch "/a/7".toList, b, .pattern [0, 0]]
    let broken : Call Unit := .register [] ⟨"x".toList, "<<x:raw(()>>".toList, true⟩
    let tried := l.run [broken, .matchPath []]
    (ofSettings (Settings.withCompile true {}) = .ok e ∧ ofSettings (Settings.withCompile false {}) = .ok l ∧
        changes calls = changes calls' ∧ e.AcceptsAll calls) ∧
      (l.AcceptsAll calls' ∧ Agree (e.run calls) (l.run calls')) ∧
      ¬e.Accepts broken ∧ l.Accepts broken ∧
        ∃ error, ∀ later, (tried.run later).cells.get? [0] = some (.error error) := by
  intro e l a b policy calls calls' broken tried
  have hearly : ofSettings (Settings.withCompile true {}) = .ok e := rfl
  have hlate : ofSettings (Settings.withCompile false {}) = .ok l := rfl
  have haccepts : e.AcceptsAll calls := ⟨⟨_, rfl⟩, trivial, ⟨_, rfl⟩, trivial⟩
  obtain ⟨hboth, hkeeps⟩ := early_and_late hearly hlate
  have hrefused : (e.register [] ⟨"x".toList, "<<x:raw(()>>".toList, true⟩).map Except.toBool = some false := by
    decide +kernel
  have hfilled : (tried.cells.get? [0]).map Except.toBool = some false := by decide +kernel
  refine ⟨⟨hearly, hlate, rfl, haccepts⟩, hboth calls calls' rfl haccepts, ?_, ?_, ?_⟩
  · intro h
    obtain ⟨c, hc⟩ := h
    rw [hc] at hrefused
    cases hrefused
  · exact ⟨_, rfl⟩
  · cases hkept : tried.cells.get? [0] with
    | none =>
        rw [hkept] at hfilled
        cases hfilled
    | some outcome =>
        cases outcome with
        | ok p =>
            rw [hkept] at hfilled
            cases hfilled
        | error error => exact ⟨error, fun later => (hkeeps _).kept [0] _ hkept later⟩

end CachedRouter

end Signpost
