import Signpost.Proofs.Router.RoundTrip

/-!
# Changing the policy

*What is left.*  A change of the policy on trailing slashes leaves the routes, each with the template and the
policy it was registered with, and what is looked up or rebuilt under their names
(`Router.Reached.policyLeaves`).

*What is moved.*  The policy in force also says as which path a path is matched, and that is all that it says
to matching.  So a path that both policies trim alike has the same match under both, and any other one has
the match that another path had before.  These are the paths with a slash at the end that is not all of them
(`Template.trimSlash_eq_iff`).  Where a route is readable, such a path does not find it again with the same
variables, since these give only one path back.
-/

namespace Signpost

/-- Two policies trim a path alike exactly if they are one policy, or the path has one character at most, or
it does not end in a slash. -/
theorem Template.trimSlash_eq_iff {old new : Bool} {path : Text} : trimSlash old path = trimSlash new path ↔
    old = new ∨ path.length ≤ 1 ∨ path.getLast? ≠ some '/' := by
  have hends : trimSlash true path = path ↔ path.length ≤ 1 ∨ path.getLast? ≠ some '/' := by
    rw [← not_iff_not, ← ne_eq, trimSlash_ne_iff]
    constructor
    · rintro ⟨-, b, hb, rfl⟩
      have hpos := List.length_pos_iff.2 hb
      simp
      omega
    · intro h
      rw [not_or, Nat.not_le, not_not] at h
      obtain ⟨b, rfl⟩ := List.getLast?_eq_some_iff.1 h.2
      refine ⟨rfl, b, ?_, rfl⟩
      rintro rfl
      exact absurd h.1 (by simp)
  have hkept : trimSlash false path = path := rfl
  cases old with
  | false =>
      cases new with
      | false => simp
      | true => rw [hkept, eq_comm, hends]; simp
  | true =>
      cases new with
      | false => rw [hkept, hends]; simp
      | true => simp

namespace Router

variable {ι : Type} {r : Router ι} {enabled : Bool}

/-- Every match is kept under another policy, for every path, with what the name of its route gives. -/
def KeepsMatches (r : Router ι) (enabled : Bool) : Prop :=
  ∀ path node vars, (r.matchPath path).found = some (node, vars) →
    ((r.skipTrailingSlash enabled).matchPath path).found = some (node, vars) ∧
    ∀ args, (r.skipTrailingSlash enabled).reverse node.route.qualifiedName args =
      r.reverse node.route.qualifiedName args

/-- What a change of the policy leaves, and as what paths are matched after it. -/
structure PolicyLeaves (r : Router ι) (enabled : Bool) : Prop where
  /-- A path that both policies trim alike is matched as before. -/
  matched : ∀ path, r.settings.skipTrailingSlash = enabled ∨ path.length ≤ 1 ∨ path.getLast? ≠ some '/' →
    (r.skipTrailingSlash enabled).matchPath path = r.matchPath path
  /-- Any path is matched as one that was trimmed before to what it is trimmed to now. -/
  moved : ∀ path other,
    Template.trimSlash enabled path = Template.trimSlash r.settings.skipTrailingSlash other →
      (r.skipTrailingSlash enabled).matchPath path = r.matchPath other
  /-- A match with a readable route is kept only where both policies trim the path alike. -/
  kept : ∀ path node vars, (r.matchPath path).found = some (node, vars) →
    (∀ q ∈ Template.placeholders node.route.path, isIdentifier q.name = true ∧
      ∀ expr, q.kind = .raw expr → Regex.Expr.Standalone expr) →
    (((r.skipTrailingSlash enabled).matchPath path).found = some (node, vars) ↔
      r.settings.skipTrailingSlash = enabled ∨ path.length ≤ 1 ∨ path.getLast? ≠ some '/')
  /-- The routes are the same, with their templates and the settings they were registered under. -/
  routes : (r.skipTrailingSlash enabled).routes = r.routes
  /-- Every route is found under its name. -/
  named : ∀ node ∈ r.routes.nodes, (r.skipTrailingSlash enabled).find? node.route.qualifiedName = some node
  /-- Every name with values in order gives the same path. -/
  reversed : ∀ name args, (r.skipTrailingSlash enabled).reverse name args = r.reverse name args
  /-- Every name with values by name gives the same path. -/
  reversedWith : ∀ name vars, (r.skipTrailingSlash enabled).reverseWith name vars = r.reverseWith name vars

theorem matchPath_skipTrailingSlash {path other : Text}
    (h : Template.trimSlash enabled path = Template.trimSlash r.settings.skipTrailingSlash other) :
    (r.skipTrailingSlash enabled).matchPath path = r.matchPath other := by
  have htrim : Template.trimSlash (r.skipTrailingSlash enabled).settings.skipTrailingSlash path =
      Template.trimSlash r.settings.skipTrailingSlash other := h
  rw [matchPath, htrim]
  rfl

/-- A route and its variables give back one path, so two paths with this match are trimmed to the same one. -/
theorem trimSlash_eq_of_found {path : Text} {node : Node} {vars : Vars}
    (hfound : (r.matchPath path).found = some (node, vars))
    (ht : ∀ q ∈ Template.placeholders node.route.path, isIdentifier q.name = true ∧
      ∀ expr, q.kind = .raw expr → Regex.Expr.Standalone expr)
    (hkept : ((r.skipTrailingSlash enabled).matchPath path).found = some (node, vars)) :
    Template.trimSlash r.settings.skipTrailingSlash path = Template.trimSlash enabled path := by
  obtain ⟨_, _, -, hcaptures, -⟩ := Forest.match?_eq_some_iff.1 hfound
  obtain ⟨_, _, -, hcaptures', -⟩ := Forest.match?_eq_some_iff.1 hkept
  have hurl := Route.urlWith_of_captures? (.of_raw ht) hcaptures
  have hurl' := Route.urlWith_of_captures? (.of_raw ht) hcaptures'
  exact Except.ok.inj (hurl.symm.trans hurl')

/-- A change of the policy of a router that can be reached leaves its routes and what is under their names.  It
moves only the paths that the policies trim differently. -/
theorem Reached.policyLeaves (hr : r.Reached) (enabled : Bool) : r.PolicyLeaves enabled where
  matched _ h := matchPath_skipTrailingSlash (Template.trimSlash_eq_iff.2 h).symm
  moved _ _ h := matchPath_skipTrailingSlash h
  kept _ _ _ hfound ht := by
    refine ⟨fun hkept => Template.trimSlash_eq_iff.1 (trimSlash_eq_of_found hfound ht hkept), fun h => ?_⟩
    rw [matchPath_skipTrailingSlash (Template.trimSlash_eq_iff.2 h).symm, hfound]
  routes := rfl
  named _ hnode := hr.find?_qualifiedName hnode
  reversed _ _ := rfl
  reversedWith _ _ := rfl

/-- A route registered while slashes are kept, with one at the end of its template. -/
theorem policyLeaves_of_slash :
    let node : Node := ⟨⟨"a".toList, "a".toList, "/a/".toList, true, {}⟩, .nil⟩
    let r : Router Unit := { routes := node.toForest }
    r.Reached ∧ r.PolicyLeaves true ∧ (r.matchPath "/a/".toList).found = some (node, .empty) ∧
      ((r.skipTrailingSlash true).matchPath "/a//".toList).found = some (node, .empty) := by
  intro node r
  have hstart : (ofSettings {} : Except SettingsError (Router Unit)) = .ok {} := rfl
  have hregister : register (ι := Unit) {} [] ⟨"a".toList, "/a/".toList, true⟩ = some (.ok r) := rfl
  have hr : r.Reached := (Reached.ofSettings hstart).register hregister
  have hleaves := hr.policyLeaves true
  have hfound : (r.matchPath "/a/".toList).found = some (node, .empty) := by decide +kernel
  refine ⟨hr, hleaves, hfound, ?_⟩
  rw [hleaves.moved "/a//".toList "/a/".toList (by decide), hfound]

/-- Its own path does not match it any more once slashes are dropped. -/
theorem not_keepsMatches_of_slash :
    let node : Node := ⟨⟨"a".toList, "a".toList, "/a/".toList, true, {}⟩, .nil⟩
    let r : Router Unit := { routes := node.toForest }
    r.Reached ∧ (r.matchPath "/a/".toList).found = some (node, .empty) ∧
      ((r.skipTrailingSlash true).matchPath "/a/".toList).found = none ∧ ¬r.KeepsMatches true := by
  intro node r
  have hstart : (ofSettings {} : Except SettingsError (Router Unit)) = .ok {} := rfl
  have hregister : register (ι := Unit) {} [] ⟨"a".toList, "/a/".toList, true⟩ = some (.ok r) := rfl
  have hfound : (r.matchPath "/a/".toList).found = some (node, .empty) := by decide +kernel
  have hmiss : ((r.skipTrailingSlash true).matchPath "/a/".toList).found = none := by decide +kernel
  refine ⟨(Reached.ofSettings hstart).register hregister, hfound, hmiss, fun h => ?_⟩
  cases hmiss.symm.trans (h _ _ _ hfound).1

end Router

end Signpost
