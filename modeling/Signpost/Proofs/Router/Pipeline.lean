import Signpost.Dispatch

/-!
# The calls of a dispatch

*One run.*  The calls while a route runs are the observer before, the hooks in order up to the first one
that fails, and only if none fails the handler and the observer after (`Router.Runs`).  All are told of one
context.  The result is the failure of that hook, if there is one.  A route without a handler fails before
the first call.  Told of a context that no hook tells from the first, a run has the same result and makes the
same calls, each told of the other context (`Router.run_retell`).

*Ways in.*  A dispatch by target fails without a call if the target is not read or no route matches
(`Router.Dispatches`), a dispatch by name if no route has the name, a value is missing, or the target rebuilt
from the values is not read (`Router.DispatchesNamed`).  Otherwise the route that was found runs.

*Settling.*  A dispatch says that a handler ran exactly if one was called.  If none was, the receiver of
failures is called once, after all other calls, with the failure; without a receiver the program is stopped
with its text (`Router.Settles`).
-/

namespace Signpost

/-- The call of a hook that lets a dispatch pass. -/
def Hook.passes {ι : Type} (ctx : Context) (h : Hook ι) : Event ι := .hook h.mark ctx none

/-- A handler was called. -/
def HandlerRan {ι : Type} (events : List (Event ι)) : Prop := ∃ ctx, Event.handler ctx ∈ events

/-- The receiver of failures was called. -/
def Reported {ι : Type} (events : List (Event ι)) : Prop := ∃ mark f, Event.failure mark f ∈ events

/-- A call told of another context. -/
def Event.retell {ι : Type} (f : Context → Context) : Event ι → Event ι
  | .pageChange mark ctx => .pageChange mark (f ctx)
  | .hook mark ctx verdict => .hook mark (f ctx) verdict
  | .handler ctx => .handler (f ctx)
  | .afterPageChange mark ctx => .afterPageChange mark (f ctx)
  | .failure mark fault => .failure mark fault

namespace Router

variable {ι : Type}

/-! ## What a dispatch may do -/

/-- The results and calls of running a route. -/
inductive Runs (r : Router ι) (ctx : Context) : Traced ι (Except Failure Unit) → Prop where
  /-- The route has no handler, and nothing is called. -/
  | unhandled {f : Failure} : ctx.node.route.hasHandler = false → f.code = .internal →
      Runs r ctx (.error f, [])
  /-- The hooks before one fail not, that one fails, and nothing is called after it. -/
  | rejected {passed rest : List (Hook ι)} {h : Hook ι} {f : Failure} :
      ctx.node.route.hasHandler = true → r.hooks = passed ++ h :: rest →
      (∀ p ∈ passed, p.verdict ctx = none) → h.verdict ctx = some f →
      Runs r ctx (.error f, (r.onPageChange.map (Event.pageChange · ctx)).toList ++
        passed.map (Hook.passes ctx) ++ [.hook h.mark ctx (some f)])
  /-- No hook fails, and the handler is called. -/
  | completed : ctx.node.route.hasHandler = true → (∀ h ∈ r.hooks, h.verdict ctx = none) →
      Runs r ctx (.ok (), (r.onPageChange.map (Event.pageChange · ctx)).toList ++
        r.hooks.map (Hook.passes ctx) ++
        .handler ctx :: (r.afterPageChange.map (Event.afterPageChange · ctx)).toList)

/-- The results and calls of dispatching a target. -/
inductive Dispatches (r : Router ι) (target : Text) : Traced ι (Except Failure Unit) → Prop where
  /-- The target is not read. -/
  | unreadable {f : Failure} : Uri.ofTarget target = .error f → f.code = .invalid →
      Dispatches r target (.error f, [])
  /-- No route matches. -/
  | unmatched {uri : Uri} {f : Failure} : Uri.ofTarget target = .ok uri →
      (r.matchPath uri.decodedPath).found = none → f.code = .notFound →
      Dispatches r target (.error f, [])
  /-- The route that matches runs. -/
  | matched {uri : Uri} {node : Node} {vars : Vars} {outcome : Traced ι (Except Failure Unit)} :
      Uri.ofTarget target = .ok uri → (r.matchPath uri.decodedPath).found = some (node, vars) →
      r.Runs ⟨node, vars, uri⟩ outcome → Dispatches r target outcome

/-- The results and calls of dispatching to a route by name. -/
inductive DispatchesNamed (r : Router ι) (name : Text) (vars : Vars) :
    Traced ι (Except Failure Unit) → Prop where
  /-- No route has the name. -/
  | unknown {f : Failure} : r.find? name = none → f.code = .notFound →
      DispatchesNamed r name vars (.error f, [])
  /-- A value is missing. -/
  | incomplete {node : Node} {e : RouteError} {f : Failure} : r.find? name = some node →
      node.route.urlWith vars = .error e → f.code = .invalid →
      DispatchesNamed r name vars (.error f, [])
  /-- The target rebuilt from the values is not read. -/
  | unreadable {node : Node} {url : Text} {f : Failure} : r.find? name = some node →
      node.route.urlWith vars = .ok url → Uri.ofTarget url = .error f → f.code = .invalid →
      DispatchesNamed r name vars (.error f, [])
  /-- The route that has the name runs. -/
  | named {node : Node} {url : Text} {uri : Uri} {outcome : Traced ι (Except Failure Unit)} :
      r.find? name = some node → node.route.urlWith vars = .ok url → Uri.ofTarget url = .ok uri →
      r.Runs ⟨node, vars, uri⟩ outcome → DispatchesNamed r name vars outcome

/-- What is made of the result and the calls of a dispatch. -/
inductive Settles (r : Router ι) : Traced ι (Except Failure Unit) → Traced ι (Except Abort Bool) → Prop where
  /-- A handler ran. -/
  | handled {events : List (Event ι)} : HandlerRan events → ¬Reported events →
      Settles r (.ok (), events) (.ok true, events)
  /-- No handler ran, and the receiver is told why. -/
  | reported {f : Failure} {events : List (Event ι)} {mark : ι} : r.onError = some mark →
      ¬HandlerRan events → ¬Reported events →
      Settles r (.error f, events) (.ok false, events ++ [.failure mark f])
  /-- No handler ran, and there is no receiver. -/
  | aborted {f : Failure} {events : List (Event ι)} : r.onError = none →
      ¬HandlerRan events → ¬Reported events → Settles r (.error f, events) (.error f.display, events)

/-! ## Running a route -/

theorem observe_eq_toList (event : ι → Context → Event ι) (observer : Option ι) (ctx : Context) :
    observe event observer ctx = (observer.map (event · ctx)).toList := by
  cases observer <;> rfl

/-- All hooks pass, or those before one do and that one fails. -/
theorem runHooks_cases (ctx : Context) : ∀ hooks : List (Hook ι),
    ((∀ h ∈ hooks, h.verdict ctx = none) ∧ runHooks ctx hooks = (none, hooks.map (Hook.passes ctx))) ∨
    ∃ passed h rest f, hooks = passed ++ h :: rest ∧ (∀ p ∈ passed, p.verdict ctx = none) ∧
      h.verdict ctx = some f ∧
      runHooks ctx hooks = (some f, passed.map (Hook.passes ctx) ++ [.hook h.mark ctx (some f)])
  | [] => .inl ⟨by simp, rfl⟩
  | h :: hooks => by
      cases hverdict : h.verdict ctx with
      | some f =>
          refine .inr ⟨[], h, hooks, f, rfl, by simp, hverdict, ?_⟩
          rw [runHooks, hverdict]
          rfl
      | none =>
          rcases runHooks_cases ctx hooks with ⟨hpass, hrun⟩ | ⟨passed, g, rest, f, rfl, hpass, hfail, hrun⟩
          · refine .inl ⟨List.forall_mem_cons.2 ⟨hverdict, hpass⟩, ?_⟩
            rw [runHooks, hverdict, hrun]
            rfl
          · refine .inr ⟨h :: passed, g, rest, f, rfl, List.forall_mem_cons.2 ⟨hverdict, hpass⟩, hfail, ?_⟩
            rw [runHooks, hverdict, hrun]
            rfl

theorem runs_run (r : Router ι) (ctx : Context) : r.Runs ctx (r.run ctx) := by
  unfold run
  cases hhandler : ctx.node.route.hasHandler with
  | false => exact .unhandled hhandler rfl
  | true =>
      rw [Bool.not_true, if_neg Bool.false_ne_true, observe_eq_toList, observe_eq_toList]
      rcases runHooks_cases ctx r.hooks with ⟨hpass, hrun⟩ | ⟨passed, h, rest, f, hhooks, hpass, hfail, hrun⟩
      · rw [hrun]
        exact .completed hhandler hpass
      · rw [hrun]
        dsimp only
        rw [← List.append_assoc]
        exact .rejected hhandler hhooks hpass hfail

-- Of three hooks the second fails, and neither the third nor the handler is called.
example (vars : Vars) (uri : Uri) (f : Failure) :
    let ctx : Context := ⟨⟨⟨"a".toList, "a".toList, "/a".toList, true, {}⟩, .nil⟩, vars, uri⟩
    let hooks : List (Hook Nat) := [⟨1, fun _ => none⟩, ⟨2, fun _ => some f⟩, ⟨3, fun _ => none⟩]
    run { hooks := hooks, onPageChange := some 0, afterPageChange := some 4 } ctx =
      (.error f, [.pageChange 0 ctx, .hook 1 ctx none, .hook 2 ctx (some f)]) := rfl

/-- There is no failure exactly if a handler was called, and the receiver of failures is not called yet. -/
structure Unreported (outcome : Traced ι (Except Failure Unit)) : Prop where
  /-- A handler was called exactly if there is no failure. -/
  handlerRan_iff : HandlerRan outcome.2 ↔ outcome.1 = .ok ()
  /-- The receiver was not called. -/
  not_reported : ¬Reported outcome.2

theorem unreported_error (f : Failure) : Unreported (ι := ι) (.error f, []) where
  handlerRan_iff := by simp [HandlerRan]
  not_reported := by simp [Reported]

theorem Runs.unreported {r : Router ι} {ctx : Context} {outcome : Traced ι (Except Failure Unit)}
    (h : r.Runs ctx outcome) : Unreported outcome := by
  cases h with
  | unhandled => exact unreported_error _
  | rejected => constructor <;> simp [HandlerRan, Reported, Hook.passes]
  | completed => constructor <;> simp [HandlerRan, Reported, Hook.passes]

/-! ## Another context -/

theorem runHooks_retell {f : Context → Context} {ctx : Context} : ∀ {hooks : List (Hook ι)},
    (∀ h ∈ hooks, h.verdict (f ctx) = h.verdict ctx) →
    runHooks (f ctx) hooks = ((runHooks ctx hooks).1, (runHooks ctx hooks).2.map (Event.retell f))
  | [], _ => rfl
  | h :: hooks, hverdicts => by
      obtain ⟨hfirst, hrest⟩ := List.forall_mem_cons.1 hverdicts
      rw [runHooks, runHooks, hfirst]
      cases h.verdict ctx with
      | some failure => rfl
      | none =>
          dsimp only
          rw [runHooks_retell hrest]
          rfl

theorem observe_retell {event : ι → Context → Event ι} {f : Context → Context}
    (hevent : ∀ mark ctx, (event mark ctx).retell f = event mark (f ctx)) (observer : Option ι) (ctx : Context) :
    observe event observer (f ctx) = (observe event observer ctx).map (Event.retell f) := by
  cases observer with
  | none => rfl
  | some mark => rw [observe, observe, List.map_singleton, hevent]

/-- Two routers with the same observers and hooks run two contexts alike, if the routes have the same name and
both or neither have a handler, and if no hook tells the contexts apart. -/
theorem run_retell {r r' : Router ι} (f : Context → Context) (ctx : Context)
    (hhooks : r'.hooks = r.hooks) (hbefore : r'.onPageChange = r.onPageChange)
    (hafter : r'.afterPageChange = r.afterPageChange)
    (hhandler : (f ctx).node.route.hasHandler = ctx.node.route.hasHandler)
    (hname : (f ctx).node.route.qualifiedName = ctx.node.route.qualifiedName)
    (hverdicts : ∀ h ∈ r.hooks, h.verdict (f ctx) = h.verdict ctx) :
    r'.run (f ctx) = ((r.run ctx).1, (r.run ctx).2.map (Event.retell f)) := by
  rw [run, run, hhandler, hname, hhooks, hbefore, hafter, runHooks_retell hverdicts]
  cases ctx.node.route.hasHandler with
  | false => rfl
  | true =>
      rw [Bool.not_true, if_neg Bool.false_ne_true, if_neg Bool.false_ne_true]
      rw [observe_retell (fun _ _ => rfl), observe_retell (fun _ _ => rfl)]
      rcases hrun : runHooks ctx r.hooks with ⟨_ | failure, events⟩
      · simp only [List.map_append, List.map_cons, Event.retell]
      · simp only [List.map_append]

/-! ## Ways in -/

theorem code_of_ofTarget {target : Text} {f : Failure} (h : Uri.ofTarget target = .error f) :
    f.code = .invalid := by
  unfold Uri.ofTarget at h
  cases hread : Uri.ofText (Percent.encode target) with
  | ok uri =>
      rw [hread] at h
      cases h
  | error e =>
      rw [hread] at h
      cases h
      rfl

theorem dispatches_tryDispatch (r : Router ι) (target : Text) :
    r.Dispatches target (r.tryDispatch target) := by
  cases hok : Uri.ofTarget target with
  | error f =>
      rw [tryDispatch, hok]
      exact .unreadable hok (code_of_ofTarget hok)
  | ok uri =>
      rw [tryDispatch, hok]
      dsimp only
      cases hfound : (r.matchPath uri.decodedPath).found with
      | none => exact .unmatched hok hfound rfl
      | some found => exact .matched hok hfound (r.runs_run _)

theorem Dispatches.unreported {r : Router ι} {target : Text} {outcome : Traced ι (Except Failure Unit)}
    (h : r.Dispatches target outcome) : Unreported outcome := by
  cases h with
  | unreadable | unmatched => exact unreported_error _
  | matched _ _ hrun => exact hrun.unreported

theorem code_of_urlWith {route : Route} {vars : Vars} {e : RouteError} (h : route.urlWith vars = .error e) :
    (Failure.ofRouteError e).code = .invalid := by
  unfold Route.urlWith at h
  cases hfill : Template.fillWith route.path vars.get? with
  | ok url =>
      rw [hfill] at h
      cases h
  | error name =>
      rw [hfill] at h
      cases h
      rfl

theorem dispatchesNamed_tryDispatchNamed (r : Router ι) (name : Text) (vars : Vars) :
    r.DispatchesNamed name vars (r.tryDispatchNamed name vars) := by
  unfold tryDispatchNamed
  cases hfind : r.find? name with
  | none => exact .unknown hfind rfl
  | some node =>
      dsimp only
      cases hurl : node.route.urlWith vars with
      | error e => exact .incomplete hfind hurl (code_of_urlWith hurl)
      | ok url =>
          dsimp only
          cases hok : Uri.ofTarget url with
          | error f => exact .unreadable hfind hurl hok (code_of_ofTarget hok)
          | ok uri => exact .named hfind hurl hok (r.runs_run _)

theorem DispatchesNamed.unreported {r : Router ι} {name : Text} {vars : Vars}
    {outcome : Traced ι (Except Failure Unit)} (h : r.DispatchesNamed name vars outcome) :
    Unreported outcome := by
  cases h with
  | unknown | incomplete | unreadable => exact unreported_error _
  | named _ _ _ hrun => exact hrun.unreported

/-! ## Settling -/

theorem settles_settle (r : Router ι) {outcome : Traced ι (Except Failure Unit)} (h : Unreported outcome) :
    r.Settles outcome (r.settle outcome) := by
  obtain ⟨result, events⟩ := outcome
  obtain ⟨hran, hreported⟩ := h
  cases result with
  | ok _ => exact .handled (hran.2 rfl) hreported
  | error f =>
      have hnot : ¬HandlerRan events := fun h => by cases hran.1 h
      rw [settle, report]
      cases hreceiver : r.onError with
      | some mark => exact .reported hreceiver hnot hreported
      | none =>
          dsimp only
          rw [List.append_nil]
          exact .aborted hreceiver hnot hreported

theorem Settles.ok_true_iff {r : Router ι} {outcome : Traced ι (Except Failure Unit)}
    {settled : Traced ι (Except Abort Bool)} (h : r.Settles outcome settled) :
    settled.1 = .ok true ↔ HandlerRan settled.2 := by
  cases h with
  | handled hran => exact iff_of_true rfl hran
  | reported _ hnot =>
      refine iff_of_false (by simp) fun hran => hnot ?_
      obtain ⟨ctx, hctx⟩ := hran
      exact ⟨ctx, by simpa using hctx⟩
  | aborted _ hnot => exact iff_of_false (by simp) hnot

/-- Every dispatch, by target or by name, makes the calls of its way in and of one run, in order, and is
settled once.  It says that a handler ran exactly if one was called. -/
theorem dispatches_and_settles (r : Router ι) :
    (∀ target, r.Dispatches target (r.tryDispatch target) ∧
      r.Settles (r.tryDispatch target) (r.dispatch target) ∧
      ((r.dispatch target).1 = .ok true ↔ HandlerRan (r.dispatch target).2)) ∧
    ∀ name vars, r.DispatchesNamed name vars (r.tryDispatchNamed name vars) ∧
      r.Settles (r.tryDispatchNamed name vars) (r.dispatchNamed name vars) ∧
      ((r.dispatchNamed name vars).1 = .ok true ↔ HandlerRan (r.dispatchNamed name vars).2) := by
  refine ⟨fun target => ?_, fun name vars => ?_⟩
  · have hdispatches := r.dispatches_tryDispatch target
    have hsettles := r.settles_settle hdispatches.unreported
    exact ⟨hdispatches, hsettles, hsettles.ok_true_iff⟩
  · have hdispatches := r.dispatchesNamed_tryDispatchNamed name vars
    have hsettles := r.settles_settle hdispatches.unreported
    exact ⟨hdispatches, hsettles, hsettles.ok_true_iff⟩

end Router

end Signpost
