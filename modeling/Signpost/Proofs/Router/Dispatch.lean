import Signpost.Proofs.Regex.Size
import Signpost.Proofs.Router.Pipeline
import Signpost.Proofs.Router.RoundTrip
import Signpost.Proofs.Target.Path

/-!
# Matching and dispatching

*One context.*  Whatever is called while a route runs is told of the same route, variables and target
(`Router.run_told`).

*The path that is matched.*  Of a target that starts with a slash, dispatch matches what the part before a
query is decoded to, whatever is encoded on the way (`Router.tryDispatch_of_slash`).

*Matched and dispatched.*  A path that matches a route with some variables, given as a target, is dispatched
to this route with these variables if it is verbatim.  A path that is not verbatim is dispatched as another
text.  The route and the variables of a match give the path back, so if the template of the route is
readable, it is not dispatched to this route with these variables (`Router.dispatchesTo_iff_isVerbatim`).
-/

namespace Signpost

open Regex

/-- What a call is told of; a receiver of failures is told of none. -/
def Event.context? {ι : Type} : Event ι → Option Context
  | .pageChange _ ctx => some ctx
  | .hook _ ctx _ => some ctx
  | .handler ctx => some ctx
  | .afterPageChange _ ctx => some ctx
  | .failure _ _ => none

namespace Router

variable {ι : Type}

/-! ## One context -/

theorem Runs.told {r : Router ι} {ctx : Context} {outcome : Traced ι (Except Failure Unit)}
    (h : r.Runs ctx outcome) : ∀ e ∈ outcome.2, e.context? = some ctx := by
  cases h with
  | unhandled => simp
  | rejected | completed => simp [Hook.passes, Event.context?, or_imp, forall_and]

/-- Whatever is called while a route runs is told of the same context. -/
theorem run_told (r : Router ι) (ctx : Context) : ∀ e ∈ (r.run ctx).2, e.context? = some ctx :=
  (r.runs_run ctx).told

/-! ## The path that is matched -/

/-- The route of a match is run, and a miss is a failure. -/
def runMatch (r : Router ι) (uri : Uri) (m : RouteMatch) : Traced ι (Except Failure Unit) :=
  match m.found with
  | none => (.error (.notFound ("no route found for path: ".toList ++ m.path)), [])
  | some (node, vars) => r.run ⟨node, vars, uri⟩

theorem tryDispatch_of_ofTarget {target : Text} {uri : Uri} (hok : Uri.ofTarget target = .ok uri)
    (r : Router ι) : r.tryDispatch target = r.runMatch uri (r.matchPath uri.decodedPath) := by
  rw [tryDispatch, hok]
  rfl

/-- A target that starts with a slash and is not too long is read.  What is matched is what the part before a
query is decoded to, and this is the target if nothing is cut off and no escape can be in it. -/
theorem tryDispatch_of_slash {t : Text} (hlen : Text.bytes (Percent.encode ('/' :: t)) ≤ Uri.maxLength) :
    ∃ uri, Uri.ofTarget ('/' :: t) = .ok uri ∧
      uri.decodedPath = Percent.decodeText (Uri.beforeQuery ('/' :: t)) ∧
      (∀ r : Router ι, r.tryDispatch ('/' :: t) =
        r.runMatch uri (r.matchPath (Percent.decodeText (Uri.beforeQuery ('/' :: t))))) ∧
      ('%' ∉ t → '?' ∉ t → '#' ∉ t → Percent.decodeText (Uri.beforeQuery ('/' :: t)) = '/' :: t) := by
  obtain ⟨uri, hok, hpath⟩ := Uri.exists_decodedPath_of_slash hlen
  refine ⟨uri, hok, hpath, fun r => ?_, fun hpercent hquery hfragment => ?_⟩
  · rw [tryDispatch_of_ofTarget hok, hpath]
  · rw [Uri.beforeQuery_eq_self (by simpa using hquery) (by simpa using hfragment)]
    exact Percent.decodeText_eq_self (Percent.hasEscape_of_not_mem (by simpa using hpercent))

/-- A target with a blank, with an escape that is broken, one of a byte that is no text and two of one
character, and with a query. -/
theorem tryDispatch_of_escapes : ∃ uri, Uri.ofTarget "/a b/%zz%FF%C3%A9?x=1#y".toList = .ok uri ∧
    uri.decodedPath = "/a b/%zz\ufffdé".toList ∧
    ∀ r : Router Unit, r.tryDispatch "/a b/%zz%FF%C3%A9?x=1#y".toList =
      r.runMatch uri (r.matchPath "/a b/%zz\ufffdé".toList) := by
  have hdecode : Percent.decodeText (Uri.beforeQuery "/a b/%zz%FF%C3%A9?x=1#y".toList) =
      "/a b/%zz\ufffdé".toList := by
    decide
  obtain ⟨uri, hok, hpath, hrun, -⟩ :=
    tryDispatch_of_slash (ι := Unit) (t := "a b/%zz%FF%C3%A9?x=1#y".toList) (by decide)
  exact ⟨uri, hok, hpath.trans hdecode, fun r => (hrun r).trans (by rw [← hdecode]; rfl)⟩

/-! ## A router with one route -/

/-- The expression of the template of `fileRoute`, by the set of characters that a name may have. -/
def fileExpr (runs : CharSet) : Expr :=
  .seq [.anchor .textStart, .literal "/files/".toList,
    .group (some "name".toList) (.rep 1 none true (.set false runs)), .literal "/view".toList,
    .anchor .textEnd]

/-- A route whose paths hold the name of a file. -/
def fileRoute : Route := ⟨"file".toList, "file".toList, "/files/<<name>>/view".toList, true, {}⟩

/-- The pattern of `fileRoute`. -/
def filePattern : Pattern :=
  ⟨fileRoute.path, ⟨Template.anchoredRegex fileRoute.path,
    (Prog.ofExpr (fileExpr (.others (.single '/'))) 0).1⟩⟩

/-- A router with this route alone. -/
def fileRouter : Router Unit := ⟨.cons fileRoute .nil .nil, {}, none, [], none, none⟩

/-- Only the set of characters has a size that is not plain to see. -/
theorem machineBytes_fileExpr (runs : CharSet) :
    (fileExpr runs).machineBytes false = 680 + setBytes false runs := by
  have hfiles : Text.bytes "/files/".toList = 7 := by decide
  have hview : Text.bytes "/view".toList = 5 := by decide
  simp only [fileExpr, Expr.machineBytes, Expr.bytes, sumBytes, repeatBytes, stateBytes, branchBytes, hfiles,
    hview, Bool.false_eq_true, if_false]
  omega

theorem pattern_fileRoute : fileRoute.pattern = .ok filePattern := by
  have hexpr : Expr.ofText? (Template.anchoredRegex fileRoute.path) =
      some (fileExpr (.others (.single '/'))) := rfl
  have hset : setBytes false (.others (.single '/')) ≤ 1000 :=
    Nat.le_trans (setBytes_le (by decide)) (by decide +kernel)
  have hforwards : (fileExpr (.others (.single '/'))).machineBytes false ≤
      fileRoute.settings.regexSizeLimit := by
    rw [machineBytes_fileExpr]
    exact Nat.le_trans (Nat.add_le_add_left hset _) (by decide)
  have hbackwards : (fileExpr (.others (.single '/'))).machineBytes true ≤
      fileRoute.settings.regexSizeLimit := by
    decide +kernel
  have hfits : (fileExpr (.others (.single '/'))).fits fileRoute.settings.regexSizeLimit = true := by
    rw [Expr.fits, Bool.and_eq_true, decide_eq_true_eq, decide_eq_true_eq]
    exact ⟨hforwards, hbackwards⟩
  exact Pattern.compile_of_ofText? (by decide) (by decide) hexpr hfits

theorem build_fileRouter :
    build {} [⟨"file".toList, "/files/<<name>>/view".toList, true⟩] = some fileRouter := by
  have hcheck : fileRoute.check = .ok fileRoute := by
    rw [Route.check, pattern_fileRoute]
    rfl
  have haccept : accept (ι := Unit) {} ⟨"file".toList, "/files/<<name>>/view".toList, true⟩ none .nil =
      .ok fileRoute := hcheck
  have hregister : register (ι := Unit) {} [] ⟨"file".toList, "/files/<<name>>/view".toList, true⟩ =
      some (.ok fileRouter) := register_of_accept rfl haccept
  have hstart : (ofSettings {} : Except SettingsError (Router Unit)).toOption = some {} := rfl
  rw [build, hstart, Option.bind_some, List.foldlM_cons, hregister]
  rfl

theorem matchPath_fileRouter (path : Text) :
    (fileRouter.matchPath path).found = (filePattern.captures? path).map (⟨fileRoute, .nil⟩, ·) := by
  have htrim : Template.trimSlash fileRouter.settings.skipTrailingSlash path = path := rfl
  have hnodes : fileRouter.routes.nodes = [⟨fileRoute, .nil⟩] := rfl
  rw [matchPath]
  dsimp only
  rw [htrim, Forest.match?_eq_findSome?, hnodes, List.findSome?_singleton,
    Route.captures?_of_pattern pattern_fileRoute]

/-! ## Matched and dispatched -/

/-- A target is read, its path matches a node with some variables, and the node is run with them. -/
def DispatchesTo (r : Router ι) (target : Text) (node : Node) (vars : Vars) : Prop :=
  ∃ uri, Uri.ofTarget target = .ok uri ∧ (r.matchPath uri.decodedPath).found = some (node, vars) ∧
    r.tryDispatch target = r.run ⟨node, vars, uri⟩

theorem dispatchesTo_of_found {r : Router ι} {target : Text} {node : Node} {vars : Vars} {uri : Uri}
    (hok : Uri.ofTarget target = .ok uri)
    (hfound : (r.matchPath uri.decodedPath).found = some (node, vars)) :
    r.DispatchesTo target node vars := by
  refine ⟨uri, hok, hfound, ?_⟩
  rw [tryDispatch_of_ofTarget hok, runMatch, hfound]

/-- A path that matches is dispatched to its route with its variables if it is verbatim, and if the template
of the route is readable, only then. -/
theorem dispatchesTo_iff_isVerbatim {r : Router ι} {path : Text} {node : Node} {vars : Vars}
    (hfound : (r.matchPath path).found = some (node, vars))
    (hlen : Text.bytes (Percent.encode path) ≤ Uri.maxLength) :
    (Uri.isVerbatim path = true → r.DispatchesTo path node vars) ∧
    ((∀ q ∈ Template.placeholders node.route.path, isIdentifier q.name = true ∧
        ∀ expr, q.kind = .raw expr → Expr.Standalone expr) →
      (r.DispatchesTo path node vars ↔ Uri.isVerbatim path = true)) := by
  have hverbatim : Uri.isVerbatim path = true → r.DispatchesTo path node vars := by
    intro h
    obtain ⟨uri, hok, hpath⟩ := Uri.decodedPath_of_verbatim h hlen
    refine dispatchesTo_of_found hok ?_
    rw [hpath]
    exact hfound
  refine ⟨hverbatim, fun ht => ⟨?_, hverbatim⟩⟩
  rintro ⟨uri, hok, hfound', -⟩
  by_contra h
  rw [Bool.not_eq_true] at h
  -- Both paths are what the route gives back for the variables.
  obtain ⟨_, _, -, hcaptures, -⟩ := Forest.match?_eq_some_iff.1 hfound
  obtain ⟨_, _, -, hcaptures', -⟩ := Forest.match?_eq_some_iff.1 hfound'
  have hurl := Route.urlWith_of_captures? (.of_raw ht) hcaptures
  have hurl' := Route.urlWith_of_captures? (.of_raw ht) hcaptures'
  rw [hurl'] at hurl
  exact Uri.trimSlash_decodedPath_ne hok h _ (Except.ok.inj hurl)

/-- A path with a blank in it is dispatched to its route, with the blank in the variable. -/
theorem dispatchesTo_of_blank : ∃ (r : Router Unit) (node : Node) (vars : Vars),
    build {} [⟨"file".toList, "/files/<<name>>/view".toList, true⟩] = some r ∧
      r.reverse "file".toList ["my report".toList] = .ok "/files/my report/view".toList ∧
      vars.get? "name".toList = some "my report".toList ∧
      r.DispatchesTo "/files/my report/view".toList node vars := by
  have hfound : (fileRouter.matchPath "/files/my report/view".toList).found =
      some (⟨fileRoute, .nil⟩, ⟨[("name".toList, "my report".toList)]⟩) := by
    rw [matchPath_fileRouter]
    decide +kernel
  have hreadable : ∀ q ∈ Template.placeholders fileRoute.path, isIdentifier q.name = true ∧
      ∀ expr, q.kind = .raw expr → Expr.Standalone expr := by
    intro q hq
    obtain rfl := List.mem_singleton.1 hq
    refine ⟨by decide, ?_⟩
    intro expr hexpr
    cases hexpr
  have hverbatim : Uri.isVerbatim "/files/my report/view".toList = true := by decide
  exact ⟨fileRouter, _, _, build_fileRouter, rfl, rfl,
    ((dispatchesTo_iff_isVerbatim hfound (by decide)).2 hreadable).2 hverbatim⟩

/-- A path with a question mark in it matches its route, but as a target it loses what follows, and no
route is found. -/
theorem not_dispatchesTo_of_query : ∃ (r : Router Unit) (node : Node) (vars : Vars),
    build {} [⟨"file".toList, "/files/<<name>>/view".toList, true⟩] = some r ∧
      r.reverse "file".toList ["what?".toList] = .ok "/files/what?/view".toList ∧
      (r.matchPath "/files/what?/view".toList).found = some (node, vars) ∧
      vars.get? "name".toList = some "what?".toList ∧
      Text.bytes (Percent.encode "/files/what?/view".toList) ≤ Uri.maxLength ∧
      r.tryDispatch "/files/what?/view".toList =
        (.error (.notFound "no route found for path: /files/what".toList), []) ∧
      ¬r.DispatchesTo "/files/what?/view".toList node vars := by
  have hfound : (fileRouter.matchPath "/files/what?/view".toList).found =
      some (⟨fileRoute, .nil⟩, ⟨[("name".toList, "what?".toList)]⟩) := by
    rw [matchPath_fileRouter]
    decide +kernel
  have hmiss : (fileRouter.matchPath "/files/what".toList).found = none := by
    rw [matchPath_fileRouter]
    decide +kernel
  have hok : Uri.ofTarget "/files/what?/view".toList =
      .ok { path := "/files/what".toList, query := some "/view".toList } := rfl
  have hpath : Uri.decodedPath { path := "/files/what".toList, query := some "/view".toList } =
      "/files/what".toList := rfl
  refine ⟨fileRouter, _, _, build_fileRouter, rfl, hfound, rfl, by decide, ?_, ?_⟩
  · rw [tryDispatch, hok]
    dsimp only
    rw [hpath, hmiss]
    rfl
  · rintro ⟨uri, hok', hfound', -⟩
    cases hok.symm.trans hok'
    rw [hpath, hmiss] at hfound'
    cases hfound'

end Router

end Signpost
