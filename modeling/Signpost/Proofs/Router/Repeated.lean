import Signpost.Proofs.Router.Checked
import Signpost.Proofs.Router.Under
import Signpost.Proofs.Template.Compiled

/-!
# Names given again below

The names of the placeholders of a route go on to all routes under it (`Router.Reached.params_prefix`), and a name
that comes twice is a fault in a template.  So a route whose part of the template gives a name again that a route
above it has is refused at registration, if templates are compiled then (`Router.register_of_repeated`).  The error
is that of an earlier check, if one finds its fault, and otherwise that the template is no expression.

Together with what compiling gives this says of a template exactly when it is accepted
(`Template.acceptedExactly`).
-/

namespace Signpost

namespace Check

/-- The checks made before the expression of the template is compiled. -/
def early : List Check := [duplicate, empty, colon, length, segments]

/-- A template that does not compile is refused, unless an earlier check refuses the route. -/
theorem first?_of_expression {new : Route} {siblings : List Node} {e : RouteError}
    (h : fault? new siblings .expression = some e) :
    first? new siblings = some ((early.findSome? (fault? new siblings)).getD e) := by
  have hall : all = early ++ [expression] := rfl
  rw [first?, hall, List.findSome?_append, List.findSome?_singleton, h]
  cases early.findSome? (fault? new siblings) <;> rfl

end Check

namespace Router

variable {ι : Type} {r : Router ι} {spec : Route.Spec}

/-- A registration under a route is refused for the first fault. -/
theorem register_of_first? {place : Place} {parent : Node} {e : RouteError} (hplace : place ≠ [])
    (hparent : r.nodeAt? place = some parent)
    (h : Check.first? (parent.route.child spec) parent.children.tops = some e) :
    r.register place spec = some (.error e) := by
  obtain ⟨i, place, rfl⟩ := List.exists_cons_of_ne_nil hplace
  have hspot : r.routes.spot? none (i :: place) = some (some parent.route, parent.children) := by
    rw [Forest.spot?, ← nodeAt?, hparent, Option.map_some]
  have haccept : r.accept spec (some parent.route) parent.children = .error e := by
    rw [accept_eq, describe, h]
  rw [register_eq_put, hspot, Option.map_some, haccept]
  rfl

/-- A route that gives a name of a placeholder again is refused at registration. -/
theorem register_of_repeated (hr : r.Reached) (hcompile : r.settings.compileOnRegister = true)
    {above more : Place} {upper parent : Node} (habove : above ≠ []) (hupper : r.nodeAt? above = some upper)
    (hparent : r.nodeAt? (above ++ more) = some parent) {t : Template} (ht : (parent.route.child spec).path = t)
    (hclass : ∀ q ∈ Template.placeholders t, isIdentifier q.name = true ∧ q.kind.isRaw = false) {name : Text}
    (hname : name ∈ upper.route.params) (hagain : name ∈ Template.params spec.path) :
    r.register (above ++ more) spec = some (.error ((Check.early.findSome?
      (Check.fault? (parent.route.child spec) parent.children.tops)).getD
        (.invalidPattern t (.regex .malformed)))) := by
  subst ht
  have hsettings : (parent.route.child spec).settings.compileOnRegister = true := by
    have hroute : parent.route ∈ r.routes.routes := List.mem_map_of_mem (Forest.mem_nodes_of_at? hparent)
    rw [Route.child, hr.settings_eq _ hroute]
    exact hcompile
  have htwice : ¬(Template.params (parent.route.child spec).path).Nodup := by
    have hchild := Route.params_child parent.route spec
    rw [Route.params] at hchild
    rw [hchild, List.nodup_append]
    rintro ⟨-, -, hapart⟩
    exact hapart name ((hr.params_prefix habove hupper hparent).subset hname) name hagain rfl
  refine register_of_first? (List.append_ne_nil_of_left_ne_nil habove more) hparent
    (Check.first?_of_expression ?_)
  obtain ⟨_, hregex⟩ := Template.compile_anchoredRegex hclass
  rw [Check.fault?, if_pos hsettings, hregex, if_pos htwice]

end Router

/-- When a template is accepted. -/
structure Template.AcceptedExactly (t : Template) : Prop where
  /-- Compiling it gives the error of the first of four faults, or the same pattern under all settings. -/
  compiled : ∃ p : Pattern, p.template = t ∧ ∀ s, Pattern.compile s t =
    if s.maxPatternLength < Text.bytes t then
      .error (.patternTooLong (Text.bytes t) s.maxPatternLength)
    else if s.maxPathSegments < t.count '/' + 1 then
      .error (.tooManySegments (t.count '/' + 1) s.maxPathSegments)
    else if ¬(params t).Nodup then .error (.invalidPattern t (.regex .malformed))
    else if s.regexSizeLimit < machineBytes t then .error (.invalidPattern t (.regex .tooLarge))
    else .ok p
  /-- If templates are compiled at registration, no route is registered with it whose part gives a name again that
  a route above it has. -/
  refused : ∀ {ι : Type} (r : Router ι) (above more : Place) (upper parent : Node) (spec : Route.Spec)
    (name : Text), r.Reached → r.settings.compileOnRegister = true → above ≠ [] →
      r.nodeAt? above = some upper → r.nodeAt? (above ++ more) = some parent →
      (parent.route.child spec).path = t → name ∈ upper.route.params → name ∈ params spec.path →
      r.register (above ++ more) spec = some (.error ((Check.early.findSome?
        (Check.fault? (parent.route.child spec) parent.children.tops)).getD
          (.invalidPattern t (.regex .malformed))))

/-- A template without expressions of its own, whose placeholders have identifiers for names, is accepted exactly
if it is within the limits and no name comes twice. -/
theorem Template.acceptedExactly {t : Template}
    (ht : ∀ q ∈ placeholders t, isIdentifier q.name = true ∧ q.kind.isRaw = false) : t.AcceptedExactly where
  compiled := Pattern.compile_eq ht
  refused _ _ _ _ _ _ _ hr hcompile habove hupper hparent hpath hname hagain :=
    Router.register_of_repeated hr hcompile habove hupper hparent hpath ht hname hagain

/-- Literal text full of characters that have a meaning in expressions is accepted.  A name given again is not,
neither in a template nor at registration. -/
theorem Template.accepted_or_repeated :
    let plain : Template := "/a.(b[*/<<|/>>\\\n//<<id:int>>".toList
    let twice : Template := "/<<id:int>>/x/<<id:slug>>".toList
    ∃ (p : Pattern) (r : Router Unit), Pattern.compile {} plain = .ok p ∧
      Pattern.compile {} twice = .error (.invalidPattern twice (.regex .malformed)) ∧
      r.Reached ∧ r.routes.routes.map Route.path = ["/<<id:int>>".toList] ∧
      r.register [0] ⟨"b".toList, "x/<<id:slug>>".toList, true⟩ =
        some (.error (.invalidPattern twice (.regex .malformed))) := by
  intro plain twice
  obtain ⟨p, -, hplain⟩ := (acceptedExactly (t := plain) (by decide)).compiled
  have htwice := acceptedExactly (t := twice) (by decide)
  obtain ⟨_, -, hcompile⟩ := htwice.compiled
  let r₀ : Router Unit := {}
  let a : Route := ⟨"a".toList, "a".toList, "/<<id:int>>".toList, true, {}⟩
  let r₁ : Router Unit := { routes := .cons a .nil .nil }
  have hstart : Router.ofSettings {} = .ok r₀ := rfl
  have h₁ : r₀.register [] ⟨"a".toList, "/<<id:int>>".toList, true⟩ = some (.ok r₁) := rfl
  have hr : r₁.Reached := (Router.Reached.ofSettings hstart).register h₁
  refine ⟨p, r₁, ?_, ?_, hr, rfl, ?_⟩
  · rw [hplain, if_neg (by decide), if_neg (by decide), if_neg (by decide), if_neg (by decide +kernel)]
  · rw [hcompile, if_neg (by decide), if_neg (by decide), if_pos (by decide)]
  · exact htwice.refused r₁ [0] [] ⟨a, .nil⟩ ⟨a, .nil⟩ ⟨"b".toList, "x/<<id:slug>>".toList, true⟩ "id".toList hr rfl
      (by simp) rfl rfl rfl (by decide) (by decide)

end Signpost
