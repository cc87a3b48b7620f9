import Signpost.Proofs.Router.Names
import Signpost.Proofs.Template.Segments

/-!
# One registration

*Checks.*  A new route is looked at for six faults in a fixed order: its qualified name is that of a sibling,
its name is empty, its name holds a colon, and if its settings ask for it, its template has too many bytes, too
many segments, or an expression that does not compile (`Check`).  The first fault that is there is the error of
the registration, and without a fault the route is accepted (`Router.accept_eq`).

*Effect.*  A route that is accepted is put at the place it is registered at, and nothing else of the router
changes (`Router.exists_of_register`).

*Adjustments.*  The other changes of a router leave its routes, and its settings except for the policy on
trailing slashes (`Router.Adjusts`).
-/

namespace Signpost

/-! ## Checks -/

/-- What a new route is looked at for. -/
inductive Check where
  /-- A sibling has the qualified name. -/
  | duplicate
  /-- The name is empty. -/
  | empty
  /-- The name holds a colon. -/
  | colon
  /-- The template has too many bytes. -/
  | length
  /-- The template has too many segments. -/
  | segments
  /-- The expression of the template does not compile. -/
  | expression

namespace Check

/-- All checks, in the order in which they are made. -/
def all : List Check := [duplicate, empty, colon, length, segments, expression]

/-- The error of a check that finds its fault in a new route beside its siblings. -/
def fault? (new : Route) (siblings : List Node) : Check → Option RouteError
  | duplicate =>
    if ∃ n ∈ siblings, n.route.qualifiedName = new.qualifiedName then
      some (.duplicateName new.qualifiedName)
    else none
  | empty => if new.name = [] then some (.invalidName new.name .empty) else none
  | colon => if ':' ∈ new.name then some (.invalidName new.name .colon) else none
  | length =>
    if new.settings.compileOnRegister ∧ new.settings.maxPatternLength < Text.bytes new.path then
      some (.patternTooLong (Text.bytes new.path) new.settings.maxPatternLength)
    else none
  | segments =>
    if new.settings.compileOnRegister ∧ new.settings.maxPathSegments < new.path.count '/' + 1 then
      some (.tooManySegments (new.path.count '/' + 1) new.settings.maxPathSegments)
    else none
  | expression =>
    if new.settings.compileOnRegister then
      match Regex.compile new.settings.regexSizeLimit (Template.anchoredRegex new.path) with
      | .ok _ => none
      | .error fault => some (.invalidPattern new.path (.regex fault))
    else none

/-- The error of the first check that finds its fault. -/
def first? (new : Route) (siblings : List Node) : Option RouteError := all.findSome? (fault? new siblings)

end Check

theorem Route.checkName_eq (name : Text) : checkName name =
    if name = [] then .error (.invalidName name .empty)
    else if ':' ∈ name then .error (.invalidName name .colon)
    else .ok () := by
  simp only [checkName, List.isEmpty_iff, List.contains_iff_mem]

/-- Compiling at registration keeps the route or gives the error of compiling. -/
theorem Route.check_of_checkName {r : Route} (hname : checkName r.name = .ok ()) :
    r.check = if r.settings.compileOnRegister then r.pattern.map fun _ => r else .ok r := by
  rw [check, hname]
  by_cases hcompile : r.settings.compileOnRegister = true
  · rw [if_pos hcompile]
    simp only [hcompile, if_true]
    cases r.pattern <;> rfl
  · rw [if_neg hcompile]
    simp only [hcompile]
    rfl

namespace Check

variable {new : Route}

/-- The error of compiling is that of the first fault in the template. -/
theorem findSome?_pattern (siblings : List Node) (hcompile : new.settings.compileOnRegister = true) :
    [length, segments, expression].findSome? (fault? new siblings) =
      match new.pattern with
      | .ok _ => none
      | .error e => some e := by
  rw [Route.pattern, Pattern.compile]
  simp only [List.findSome?_cons, List.findSome?_nil, fault?, hcompile, true_and, if_true,
    Template.length_segments, gt_iff_lt]
  by_cases hlength : new.settings.maxPatternLength < Text.bytes new.path
  · rw [if_pos hlength, if_pos hlength]
  rw [if_neg hlength, if_neg hlength]
  by_cases hsegments : new.settings.maxPathSegments < new.path.count '/' + 1
  · rw [if_pos hsegments, if_pos hsegments]
  rw [if_neg hsegments, if_neg hsegments]
  cases Regex.compile new.settings.regexSizeLimit (Template.anchoredRegex new.path) <;> rfl

/-- A route with a name that can be used is refused for the first fault in its template. -/
theorem check_eq (siblings : List Node) (hname : Route.checkName new.name = .ok ()) : new.check =
    match [length, segments, expression].findSome? (fault? new siblings) with
    | some e => .error e
    | none => .ok new := by
  rw [Route.check_of_checkName hname]
  by_cases hcompile : new.settings.compileOnRegister = true
  · rw [if_pos hcompile, findSome?_pattern siblings hcompile]
    cases new.pattern <;> rfl
  · simp only [List.findSome?_cons, List.findSome?_nil, fault?, hcompile]
    rfl

end Check

namespace Router

variable {ι : Type}

/-- The error of a registration is that of the first check that finds its fault. -/
theorem accept_eq (r : Router ι) (spec : Route.Spec) (above : Option Route) (row : Forest) :
    r.accept spec above row = match Check.first? (r.describe spec above) row.tops with
      | some e => .error e
      | none => .ok (r.describe spec above) := by
  unfold accept
  dsimp only
  generalize r.describe spec above = new
  rw [Check.first?, Check.all, List.findSome?_cons, List.findSome?_cons, List.findSome?_cons]
  simp only [Check.fault?]
  by_cases hdup : ∃ n ∈ row.tops, n.route.qualifiedName = new.qualifiedName
  · rw [if_pos (by simpa using hdup), if_pos hdup]
  rw [if_neg (by simpa using hdup), if_neg hdup]
  by_cases hempty : new.name = []
  · rw [Route.check, Route.checkName_eq, if_pos hempty, if_pos hempty]
    rfl
  by_cases hcolon : ':' ∈ new.name
  · rw [Route.check, Route.checkName_eq, if_neg hempty, if_neg hempty, if_pos hcolon, if_pos hcolon]
    rfl
  rw [if_neg hempty, if_neg hcolon, Check.check_eq row.tops (Route.checkName_eq_ok.2 ⟨hempty, hcolon⟩)]

/-! ## Effect -/

/-- A registration that succeeds has put the route that the specification describes at the place. -/
theorem exists_of_register {r r' : Router ι} {place : Place} {spec : Route.Spec}
    (h : r.register place spec = some (.ok r')) :
    ∃ above row, r.routes.spot? none place = some (above, row) ∧
      r.accept spec above row = .ok (r.describe spec above) ∧
      r' = { r with routes := r.routes.put (r.describe spec above) place } := by
  obtain ⟨above, row, new, hspot, haccept, rfl⟩ := exists_accept_of_register h
  refine ⟨above, row, hspot, ?_⟩
  cases hfirst : Check.first? (r.describe spec above) row.tops with
  | some e =>
      rw [accept_eq, hfirst] at haccept
      cases haccept
  | none =>
      rw [accept_eq, hfirst] at haccept ⊢
      cases haccept
      exact ⟨rfl, rfl⟩

/-- The next place is at the end of the row. -/
theorem nextPlace_eq {r : Router ι} {place : Place} {above : Option Route} {row : Forest}
    (h : r.routes.spot? none place = some (above, row)) : r.nextPlace place = place ++ [row.tops.length] := by
  cases place with
  | nil =>
      cases h
      rfl
  | cons i place =>
      obtain ⟨n, hn, heq⟩ := Option.map_eq_some_iff.1 h
      cases heq
      rw [nextPlace, nodeAt?, hn]
      rfl

/-! ## Adjustments -/

/-- The changes of a router other than registrations. -/
inductive Adjusts (r : Router ι) : Router ι → Prop where
  /-- Another policy on trailing slashes. -/
  | skipTrailingSlash (enabled : Bool) : Adjusts r (r.skipTrailingSlash enabled)
  /-- Another receiver of failures. -/
  | setOnError (mark : ι) : Adjusts r (r.setOnError mark)
  /-- Another observer before the hooks. -/
  | setOnPageChange (mark : ι) : Adjusts r (r.setOnPageChange mark)
  /-- Another observer after the handler. -/
  | setAfterPageChange (mark : ι) : Adjusts r (r.setAfterPageChange mark)
  /-- A hook more. -/
  | addHook (hook : Hook ι) : Adjusts r (r.addHook hook)

theorem Adjusts.routes_eq {r r' : Router ι} (h : r.Adjusts r') : r'.routes = r.routes := by
  cases h <;> rfl

theorem Adjusts.reached {r r' : Router ι} (h : r.Adjusts r') (hr : r.Reached) : r'.Reached := by
  cases h with
  | skipTrailingSlash enabled => exact hr.skipTrailingSlash enabled
  | setOnError mark => exact hr.setOnError mark
  | setOnPageChange mark => exact hr.setOnPageChange mark
  | setAfterPageChange mark => exact hr.setAfterPageChange mark
  | addHook hook => exact hr.addHook hook

end Router

end Signpost
