import Signpost.Proofs.Pattern
import Signpost.Proofs.Router.Reached
import Signpost.Proofs.Template.Slash

/-!
# Reversing and matching

*There and back.*  The path of a route with accepted values, matched again, leads to the route or to one
before it in preorder (`Router.RoundTrips`), unless the template of the route is not trimmed as the policy
on trailing slashes has it.  Then the path is matched without its last slash and the route does not match
it, so another route has to come first (`Router.roundTrips_iff`).  A template is trimmed once when it is
registered, so one that ended in two slashes is such a template.

*Back and there.*  The route and the variables of a match give back the path that was matched
(`Router.urlWith_of_matchPath`), for all kinds of placeholders.
-/

namespace Signpost

open Regex

namespace Forest

variable {f : Forest} {before after : List Node} {node : Node} {path : Text}

/-- A path that a node matches is not passed on to a later one. -/
theorem match?_of_nodes (hnodes : f.nodes = before ++ node :: after) {vars : Vars}
    (hnode : node.route.captures? path = some vars) :
    ∃ found vars', f.match? path = some (found, vars') ∧ (found = node ∨ found ∈ before) ∧
      ((∀ n ∈ before, n.route.captures? path = none) → found = node ∧ vars' = vars) := by
  rw [match?_eq_findSome?, hnodes, List.findSome?_append]
  cases h : before.findSome? fun n => (n.route.captures? path).map (n, ·) with
  | some found =>
      obtain ⟨m, hm, hfound⟩ := List.exists_of_findSome?_eq_some h
      obtain ⟨vars', hvars, rfl⟩ := Option.map_eq_some_iff.1 hfound
      refine ⟨m, vars', rfl, .inr hm, fun hnone => ?_⟩
      rw [hnone m hm] at hvars
      cases hvars
  | none =>
      rw [List.findSome?_cons, hnode]
      exact ⟨node, vars, rfl, .inl rfl, fun _ => ⟨rfl, rfl⟩⟩

/-- A path that some earlier node matches leads to an earlier node. -/
theorem match?_of_before (hnodes : f.nodes = before ++ node :: after)
    (hbefore : ∃ n ∈ before, n.route.captures? path ≠ none) :
    ∃ found vars, f.match? path = some (found, vars) ∧ found ∈ before := by
  obtain ⟨n, hn, hmatch⟩ := hbefore
  obtain ⟨vars, hvars⟩ := Option.ne_none_iff_exists'.1 hmatch
  obtain ⟨first, rest, rfl⟩ := List.append_of_mem hn
  rw [List.append_assoc, List.cons_append] at hnodes
  obtain ⟨found, vars', hfound, hmem, -⟩ := match?_of_nodes hnodes hvars
  refine ⟨found, vars', hfound, ?_⟩
  rcases hmem with rfl | hmem
  · exact hn
  · exact List.mem_append_left _ hmem

end Forest

namespace Route

variable {r : Route} {p : Pattern} {path : Text} {vars : Vars} {args : List Text}

theorem captures?_of_pattern (hp : r.pattern = .ok p) (path : Text) :
    r.captures? path = p.captures? path := by
  rw [captures?, hp]

theorem exists_pattern (h : r.captures? path = some vars) :
    ∃ p, r.pattern = .ok p ∧ p.captures? path = some vars := by
  unfold captures? at h
  split at h
  · next p hp => exact ⟨p, hp, h⟩
  · cases h

/-- What a route captures fills its template to the path again. -/
theorem urlWith_of_captures? (ht : Template.Readable r.path) (h : r.captures? path = some vars) :
    r.urlWith vars = .ok path := by
  obtain ⟨p, hp, hcaptures⟩ := exists_pattern h
  rw [urlWith, Pattern.fillWith_of_captures? ht hp hcaptures]
  rfl

/-- A route captures the values with which its template was filled. -/
theorem captures?_of_fill (hp : r.pattern = .ok p)
    (ht : ∀ q ∈ Template.placeholders r.path,
      isIdentifier q.name = true ∧ q.kind.isRaw = false ∧ q.kind ≠ .any)
    (hargs : Pattern.Accepted r.path args) (hfill : Template.fill? r.path args = some path) :
    r.captures? path = some ⟨r.params.zip args⟩ := by
  have hcount : Template.slashCount (Template.placeholders r.path) = 0 := by
    simpa [Template.slashCount, List.countP_eq_zero] using fun q hq => (ht q hq).2.2
  rw [captures?_of_pattern hp]
  exact Pattern.captures?_of_fill (fun q hq => ⟨(ht q hq).1, (ht q hq).2.1⟩) hp (by omega) hargs hfill

/-- A route does not match what is left of a path of its own without a slash at its end. -/
theorem captures?_of_append_slash (hp : r.pattern = .ok p)
    (ht : ∀ q ∈ Template.placeholders r.path,
      isIdentifier q.name = true ∧ q.kind.isRaw = false ∧ q.kind ≠ .any)
    (hargs : Pattern.Accepted r.path args) {b : Text}
    (hfill : Template.fill? r.path args = some (b ++ ['/'])) : r.captures? b = none := by
  have hraw : ∀ q ∈ Template.placeholders r.path, q.kind.isRaw = false := fun q hq => (ht q hq).2.1
  have hany : ∀ q ∈ Template.placeholders r.path, q.kind ≠ .any := fun q hq => (ht q hq).2.2
  have hreadable : Template.Readable r.path := fun q hq =>
    ⟨(ht q hq).1, Kind.standalone (ht q hq).2.1⟩
  cases hcaptures : r.captures? b with
  | none => rfl
  | some vars =>
      rw [captures?_of_pattern hp] at hcaptures
      obtain ⟨ws, _, hcaptured, hfill', -⟩ :=
        Pattern.exists_fill_of_captures? hreadable.legible hp hcaptures
      exact absurd hfill' (Template.fill?_ne_of_append_slash hany ⟨hraw, hargs⟩
        ⟨hraw, hcaptured.accepts hraw⟩ hfill)

end Route

namespace Router

variable {ι : Type}

/-- The path of a node with some values leads to the node or to one of those before it, and if none of
these matches, to the node with the values for variables. -/
def RoundTrips (r : Router ι) (before : List Node) (node : Node) (args : List Text) : Prop :=
  ∃ url found vars, r.reverse node.route.qualifiedName args = .ok url ∧
    (r.matchPath url).found = some (found, vars) ∧ (found = node ∨ found ∈ before) ∧
    ((∀ n ∈ before, n.route.captures? (r.matchPath url).path = none) →
      found = node ∧ vars = ⟨node.route.params.zip args⟩)

/-- Reversing the qualified name of a node fills its template. -/
theorem Reached.reverse_of_fill? {r : Router ι} (hr : r.Reached) {node : Node} (hnode : node ∈ r.routes.nodes)
    {args : List Text} {url : Text} (hfill : Template.fill? node.route.path args = some url) :
    r.reverse node.route.qualifiedName args = .ok url := by
  rw [reverse, hr.find?_qualifiedName hnode]
  dsimp only
  rw [Route.url, hfill]

/-- The path of a node with accepted values leads back exactly if the template of the node is trimmed as
the policy has it, or if some node before it matches what the path is trimmed to. -/
theorem roundTrips_iff {r : Router ι} (hr : r.Reached) {before after : List Node} {node : Node}
    (hnodes : r.routes.nodes = before ++ node :: after) {p : Pattern} (hp : node.route.pattern = .ok p)
    (ht : ∀ q ∈ Template.placeholders node.route.path,
      isIdentifier q.name = true ∧ q.kind.isRaw = false ∧ q.kind ≠ .any)
    {args : List Text} (hargs : Pattern.Accepted node.route.path args) :
    r.RoundTrips before node args ↔
      Template.trimSlash r.settings.skipTrailingSlash node.route.path = node.route.path ∨
        ∃ url, r.reverse node.route.qualifiedName args = .ok url ∧
          ∃ n ∈ before, n.route.captures? (r.matchPath url).path ≠ none := by
  have hraw : ∀ q ∈ Template.placeholders node.route.path, q.kind.isRaw = false :=
    fun q hq => (ht q hq).2.1
  have hany : ∀ q ∈ Template.placeholders node.route.path, q.kind ≠ .any := fun q hq => (ht q hq).2.2
  obtain ⟨url, hfill, -⟩ := Template.exists_way_of_fill hraw hargs
  have hreverse := hr.reverse_of_fill? (by rw [hnodes]; simp) hfill
  have htrim := Template.trimSlash_fill hany ⟨hraw, hargs⟩ hfill r.settings.skipTrailingSlash
  constructor
  · rintro ⟨url', found, vars, hreverse', hfound, -, hback⟩
    cases hreverse.symm.trans hreverse'
    by_cases hnormal : Template.trimSlash r.settings.skipTrailingSlash node.route.path = node.route.path
    · exact .inl hnormal
    · refine .inr ⟨url, hreverse, ?_⟩
      by_contra hnone
      push Not at hnone
      obtain ⟨rfl, -⟩ := hback hnone
      obtain ⟨_, _, -, hcaptures, -⟩ := Forest.match?_eq_some_iff.1 hfound
      rw [← htrim, ← ne_eq, Template.trimSlash_ne_iff] at hnormal
      obtain ⟨henabled, b, hb, rfl⟩ := hnormal
      rw [henabled, Template.trimSlash_append_slash hb, Route.captures?_of_append_slash hp ht hargs hfill]
        at hcaptures
      cases hcaptures
  · rintro (hnormal | ⟨url', hreverse', hbefore⟩)
    · have hpath : (r.matchPath url).path = url := htrim.2 hnormal
      have hcaptures := Route.captures?_of_fill hp ht hargs hfill
      rw [← hpath] at hcaptures
      obtain ⟨found, vars, hfound, hmem, hfirst⟩ := Forest.match?_of_nodes hnodes hcaptures
      exact ⟨url, found, vars, hreverse, hfound, hmem, hfirst⟩
    · cases hreverse.symm.trans hreverse'
      obtain ⟨found, vars, hfound, hmem⟩ := Forest.match?_of_before hnodes hbefore
      refine ⟨url, found, vars, hreverse, hfound, .inr hmem, fun hnone => ?_⟩
      obtain ⟨n, hn, hmatch⟩ := hbefore
      exact absurd (hnone n hn) hmatch

/-- With the policy on, a path with a value leads back to its route. -/
theorem roundTrips_of_value : ∃ (r : Router Unit) (node : Node),
    build { skipTrailingSlash := true } [⟨"file".toList, "/files/<<id:int>>/".toList, true⟩] = some r ∧
      r.routes.nodes = [node] ∧ r.RoundTrips [] node ["12".toList] := by
  have hbuild : build (ι := Unit) { skipTrailingSlash := true }
      [⟨"file".toList, "/files/<<id:int>>/".toList, true⟩] = some
        ⟨.cons ⟨"file".toList, "file".toList, "/files/<<id:int>>".toList, true,
          { skipTrailingSlash := true }⟩ .nil .nil, { skipTrailingSlash := true }, none, [], none, none⟩ :=
    rfl
  refine ⟨_, ⟨_, .nil⟩, hbuild, rfl, ?_⟩
  have hok : (Route.pattern ⟨"file".toList, "file".toList, "/files/<<id:int>>".toList, true,
      { skipTrailingSlash := true }⟩).toOption.isSome := by
    decide +kernel
  obtain ⟨p, hp⟩ := Pattern.exists_ok_of_isSome hok
  have hargs : Pattern.Accepted "/files/<<id:int>>".toList ["12".toList] :=
    .cons ⟨by decide, List.all_eq_true.1 rfl⟩ .nil
  have hnodes : Forest.nodes (.cons ⟨"file".toList, "file".toList, "/files/<<id:int>>".toList, true,
      { skipTrailingSlash := true }⟩ .nil .nil) = [] ++ ⟨_, .nil⟩ :: [] := rfl
  exact (roundTrips_iff (reached_of_build hbuild) hnodes hp (by decide) hargs).2 (.inl rfl)

/-- A template that ended in two slashes ends in one, which matching takes off its paths. -/
theorem not_roundTrips_of_two_slashes : ∃ (r : Router Unit) (node : Node),
    build { skipTrailingSlash := true } [⟨"a".toList, "/a//".toList, true⟩] = some r ∧
      r.routes.nodes = [node] ∧ node.route.pattern.toOption.isSome ∧
      Template.placeholders node.route.path = [] ∧ ¬r.RoundTrips [] node [] := by
  have hbuild : build (ι := Unit) { skipTrailingSlash := true } [⟨"a".toList, "/a//".toList, true⟩] = some
      ⟨.cons ⟨"a".toList, "a".toList, "/a/".toList, true, { skipTrailingSlash := true }⟩ .nil .nil,
        { skipTrailingSlash := true }, none, [], none, none⟩ := rfl
  refine ⟨_, _, hbuild, rfl, by decide +kernel, rfl, ?_⟩
  rintro ⟨url, found, vars, hurl, hfound, -⟩
  obtain rfl : url = "/a/".toList := (Except.ok.inj (hurl.symm.trans (by rfl)))
  have hmiss : (matchPath (ι := Unit)
      ⟨.cons ⟨"a".toList, "a".toList, "/a/".toList, true, { skipTrailingSlash := true }⟩ .nil .nil,
        { skipTrailingSlash := true }, none, [], none, none⟩ "/a/".toList).found = none := by
    decide +kernel
  cases hmiss.symm.trans hfound

/-! ## From a match to its path -/

/-- The route and the variables of a match give back the path that was matched. -/
theorem urlWith_of_matchPath {r : Router ι} {path : Text} {node : Node} {vars : Vars}
    (hfound : (r.matchPath path).found = some (node, vars))
    (ht : ∀ q ∈ Template.placeholders node.route.path, isIdentifier q.name = true ∧
      ∀ expr, q.kind = .raw expr → Expr.Standalone expr) :
    node.route.urlWith vars = .ok (r.matchPath path).path := by
  obtain ⟨_, _, -, hcaptures, -⟩ := Forest.match?_eq_some_iff.1 hfound
  exact Route.urlWith_of_captures? (.of_raw ht) hcaptures

/-- A path whose value is matched by an expression with alternatives. -/
theorem urlWith_of_alternative : ∃ (r : Router Unit) (node : Node) (vars : Vars),
    build {} [⟨"pick".toList, "/pick/<<which:raw(a|bc)>>".toList, true⟩] = some r ∧
      (r.matchPath "/pick/bc".toList).found = some (node, vars) ∧
      node.route.urlWith vars = .ok "/pick/bc".toList := by
  have hbuild : build (ι := Unit) {} [⟨"pick".toList, "/pick/<<which:raw(a|bc)>>".toList, true⟩] = some
      ⟨.cons ⟨"pick".toList, "pick".toList, "/pick/<<which:raw(a|bc)>>".toList, true, {}⟩ .nil .nil,
        {}, none, [], none, none⟩ := rfl
  have hfound : (matchPath (ι := Unit)
      ⟨.cons ⟨"pick".toList, "pick".toList, "/pick/<<which:raw(a|bc)>>".toList, true, {}⟩ .nil .nil,
        {}, none, [], none, none⟩ "/pick/bc".toList).found = some
      (⟨⟨"pick".toList, "pick".toList, "/pick/<<which:raw(a|bc)>>".toList, true, {}⟩, .nil⟩,
        ⟨[("which".toList, "bc".toList)]⟩) := by
    decide +kernel
  refine ⟨_, _, _, hbuild, hfound, urlWith_of_matchPath hfound ?_⟩
  intro q hq
  obtain rfl := List.mem_singleton.1 hq
  refine ⟨by decide, ?_⟩
  rintro expr hexpr
  obtain rfl : "a|bc".toList = expr := Kind.raw.inj hexpr
  exact Expr.Standalone.of_tokens? (by decide +kernel) 10 (by decide +kernel)

end Router

end Signpost
