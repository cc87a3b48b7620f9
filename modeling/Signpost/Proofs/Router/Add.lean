import Signpost.Router
import Signpost.Proofs.Forest.Place

/-!
# What a registration leaves

A registration works on the row at its place, and gives the router back also where it fails.  Its checks come
before the one step that changes the row, and no step after that fails (`Router.run_addTo`).  So a registration
that succeeds has put one route into the forest (`Router.add_eq`), and one that fails has left the router as it
was, at whatever place (`Router.left_of_add`).

`Router.register` gives the router after a registration that succeeds, which has one route more
(`Router.exists_accept_of_register`), and `Router.attempt` gives it after any registration.  An attempt that
succeeds gives what is registered, and any other one gives the old router (`Router.attempt_eq`).
-/

namespace Signpost.Router

variable {ι : Type}

/-- An action goes on in the state that the one before it leaves, and a failure ends it in this state. -/
theorem run_bind {ε σ α β : Type} (x : ExceptT ε (StateM σ) α) (f : α → ExceptT ε (StateM σ) β) (s : σ) :
    (x >>= f).run.run s = match x.run.run s with
      | (.ok a, s') => (f a).run.run s'
      | (.error e, s') => (.error e, s') := by
  rw [ExceptT.run_bind, StateT.run_bind]
  obtain ⟨result, s'⟩ := x.run.run s
  cases result <;> rfl

/-- A row is left with the accepted route at its end, and if no route is accepted, as it was. -/
theorem run_addTo (r : Router ι) (spec : Route.Spec) (above : Option Route) (row : Forest) :
    (r.addTo spec above).run.run row = match r.accept spec above row with
      | .ok new => (.ok row.tops.length, row.append new)
      | .error e => (.error e, row) := by
  have hrow : (get : ExceptT RouteError (StateM Forest) Forest).run.run row = (.ok row, row) := rfl
  have hchecks : (liftM (r.accept spec above row) : ExceptT RouteError (StateM Forest) Route).run.run row =
      (r.accept spec above row, row) := rfl
  rw [addTo, run_bind, hrow]
  dsimp only
  rw [run_bind, hchecks]
  cases r.accept spec above row with
  | error e => rfl
  | ok new =>
      have hlength : (row.append new).tops.length - 1 = row.tops.length := by
        rw [Forest.tops_append, List.length_append]
        rfl
      dsimp only
      rw [← hlength]
      rfl

/-- A registration gives the next place and puts the accepted route there, or it gives the error and the same
router. -/
theorem add_eq (r : Router ι) (place : Place) (spec : Route.Spec) :
    r.add place spec = (r.routes.spot? none place).map fun spot =>
      match r.accept spec spot.1 spot.2 with
      | .ok new => (.ok (place ++ [spot.2.tops.length]), { r with routes := r.routes.put new place })
      | .error e => (.error e, r) := by
  rw [add, Forest.within?_eq, Option.map_map]
  cases hspot : r.routes.spot? none place with
  | none => rfl
  | some spot =>
      obtain ⟨above, row⟩ := spot
      simp only [Option.map_some, Function.comp, run_addTo]
      cases r.accept spec above row with
      | error e =>
          dsimp only
          rw [Forest.setRow_of_spot? hspot]
          rfl
      | ok new =>
          dsimp only
          rw [Forest.setRow_append new hspot]
          rfl

/-- A registration that fails leaves the router as it was. -/
theorem left_of_add {r left : Router ι} {place : Place} {spec : Route.Spec} {e : RouteError}
    (h : r.add place spec = some (.error e, left)) : left = r := by
  rw [add_eq] at h
  obtain ⟨⟨above, row⟩, -, h⟩ := Option.map_eq_some_iff.1 h
  dsimp only at h
  cases haccept : r.accept spec above row with
  | error e' =>
      rw [haccept] at h
      cases h
      rfl
  | ok new =>
      rw [haccept] at h
      cases h

/-- Registering accepts a route beside the row at the place and puts it there. -/
theorem register_eq_put (r : Router ι) (place : Place) (spec : Route.Spec) :
    r.register place spec = (r.routes.spot? none place).map fun spot =>
      (r.accept spec spot.1 spot.2).map fun new => { r with routes := r.routes.put new place } := by
  rw [register, add_eq, Option.map_map]
  congr 1
  funext spot
  simp only [Function.comp]
  cases r.accept spec spot.1 spot.2 <;> rfl

/-- A route that is accepted is registered. -/
theorem register_of_accept {r : Router ι} {place : Place} {spec : Route.Spec} {above : Option Route}
    {row : Forest} {new : Route} (hspot : r.routes.spot? none place = some (above, row))
    (haccept : r.accept spec above row = .ok new) :
    r.register place spec = some (.ok { r with routes := r.routes.put new place }) := by
  rw [register_eq_put, hspot, Option.map_some, haccept]
  rfl

/-- What is registered was accepted beside the row at the place, and put there. -/
theorem exists_accept_of_register {r r' : Router ι} {place : Place} {spec : Route.Spec}
    (h : r.register place spec = some (.ok r')) :
    ∃ above row new, r.routes.spot? none place = some (above, row) ∧ r.accept spec above row = .ok new ∧
      r' = { r with routes := r.routes.put new place } := by
  rw [register_eq_put] at h
  obtain ⟨⟨above, row⟩, hspot, hput⟩ := Option.map_eq_some_iff.1 h
  dsimp only at hput
  cases haccept : r.accept spec above row with
  | error e =>
      rw [haccept] at hput
      cases hput
  | ok new =>
      rw [haccept] at hput
      cases hput
      exact ⟨above, row, new, hspot, haccept, rfl⟩

/-- An attempt gives the registered router, and without one the router as it was. -/
theorem attempt_eq (r : Router ι) (place : Place) (spec : Route.Spec) :
    r.attempt place spec = match r.register place spec with
      | some (.ok r') => r'
      | _ => r := by
  rw [attempt, register]
  cases hadd : r.add place spec with
  | none => rfl
  | some outcome =>
      obtain ⟨result, left⟩ := outcome
      cases result with
      | ok new => rfl
      | error e => exact left_of_add hadd

end Signpost.Router
